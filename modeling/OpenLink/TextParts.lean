import OpenLink.Rendering
import OpenLink.TsTypes

/-!
The text of a message element in the TypeScript SDK, which scans the template once
with a regular expression and cuts it into parts, and why it is the text that the Rust
definition renders.
-/
namespace OpenLink.TextParts
open Cpdlc MessageRegistry Rendering Templates Texts TsTypes

structure TextPart where
  text : Text
  isParam : Bool
  deriving DecidableEq

/-- A level of up to three digits is a flight level. -/
def formatArgValue (arg : TsArgument) : Text :=
  match arg.value with
  | .text text => text.toList
  | .number number =>
      if arg.argType = "Level" ∧ number ≤ 999 then "FL".toList ++ decimal number
      else decimal number

/-- The next match of the regular expression: the text before it, the name between its
brackets, which is not empty, and the text after it. -/
def nextMatch : Text → Option (Text × Text × Text)
  | [] => none
  | first :: rest =>
      let later := (nextMatch rest).map fun found => (first :: found.1, found.2.1, found.2.2)
      if first = '[' then
        match splitOnce [']'] rest with
        | some (name, after) => if name = [] then later else some ([], name, after)
        | none => later
      else later

theorem next_match_shorter (text : Text) (found : Text × Text × Text)
    (matched : nextMatch text = some found) : found.2.2.length < text.length := by
  induction text generalizing found with
  | nil => cases matched
  | cons first rest ih =>
      have later : ∀ found, ((nextMatch rest).map fun found =>
          (first :: found.1, found.2.1, found.2.2)) = some found →
          found.2.2.length < (first :: rest).length := by
        intro found shifted
        obtain ⟨inner, matched, rfl⟩ := Option.map_eq_some_iff.mp shifted
        exact Nat.lt_succ_of_lt (ih inner matched)
      rw [nextMatch] at matched
      split at matched
      · split at matched
        · next name after closed =>
            split at matched
            · exact later found matched
            · obtain rfl := Option.some.inj matched
              rw [split_once_sound closed]
              simp
              omega
        · exact later found matched
      · exact later found matched

section Scan
variable (toUpperCase : Text → Text)

def staticPart (text : Text) : List TextPart := if text = [] then [] else [⟨text, false⟩]

def partsOf (text : Text) (args : List TsArgument) : List TextPart :=
  match _matched : nextMatch text with
  | none => staticPart text
  | some (before, name, after) =>
      let argValue :=
        match args with
        | arg :: _ => formatArgValue arg
        | [] => toUpperCase name
      staticPart before ++ ⟨argValue, true⟩ :: partsOf after args.tail
termination_by text.length
decreasing_by exact next_match_shorter text _ _matched

def templateToTextParts (template : Text) (args : List TsArgument) : List TextPart :=
  let parts := partsOf toUpperCase template args
  if parts = [] then [⟨template, false⟩] else parts

def textPartsToString (parts : List TextPart) : Text := parts.flatMap TextPart.text

end Scan

/-! Templates whose brackets are balanced, not nested and never empty. -/
section Brackets

inductive Place where
  | outside
  | inside (named : Bool)
  deriving DecidableEq

def place : Place → Char → Option Place
  | .outside, char =>
      if char = '[' then some (.inside false)
      else if char = ']' then none
      else some .outside
  | .inside named, char =>
      if char = '[' then none
      else if char = ']' then if named then some .outside else none
      else some (.inside true)

def Bracketed (template : Text) : Prop := template.foldlM place .outside = some .outside

instance (template : Text) : Decidable (Bracketed template) :=
  inferInstanceAs (Decidable (_ = _))

structure Named (layout : Layout) : Prop where
  names : ∀ slot ∈ layout.slots, slot.1 ≠ []
  counted : layout.text.count '[' = layout.slots.length

theorem named_char (layout : Layout) (named : Named layout) (char : Char) (plain : char ≠ '[') :
    ∃ longer : Layout, longer.text = char :: layout.text ∧ Named longer :=
  ⟨layout.behindChar char plain, layout.text_behind_char char plain, named.names,
    (List.count_cons_of_ne plain).trans named.counted⟩

theorem named_slot (layout : Layout) (named : Named layout) (name : Text) (opened : '[' ∉ name)
    (closed : ']' ∉ name) (nonempty : name ≠ []) :
    ∃ longer : Layout, longer.text = '[' :: (name ++ ']' :: layout.text) ∧ Named longer := by
  have text := layout.text_behind_slot name closed
  have counted : (layout.behindSlot name closed).text.count '[' =
      (layout.behindSlot name closed).slots.length := by
    rw [text]
    simp [Layout.behindSlot, List.count_eq_zero.mpr opened, named.counted]
  exact ⟨layout.behindSlot name closed, text, List.forall_mem_cons.mpr ⟨nonempty, named.names⟩,
    counted⟩

def Rest (text : Text) : Place → Prop
  | .outside => ∃ layout : Layout, layout.text = text ∧ Named layout
  | .inside begun => ∃ (name : Text) (layout : Layout), text = name ++ ']' :: layout.text ∧
      '[' ∉ name ∧ ']' ∉ name ∧ (begun ∨ name ≠ []) ∧ Named layout

theorem bracketed_rest (text : Text) (start : Place)
    (read : text.foldlM place start = some .outside) : Rest text start := by
  -- the place in the text, outside or inside a slot, says which layout the rest has
  induction text generalizing start with
  | nil =>
      cases start with
      | outside => exact ⟨⟨[], [], by simp, by simp⟩, rfl, by simp, rfl⟩
      | inside begun => cases read
  | cons char rest ih =>
      rw [List.foldlM_cons] at read
      cases start with
      | outside =>
          by_cases opens : char = '['
          · rw [place, if_pos opens] at read
            obtain ⟨name, layout, rfl, opened, closed, nonempty, named⟩ := ih (.inside false) read
            rw [opens]
            exact named_slot layout named name opened closed (by simpa using nonempty)
          · rw [place, if_neg opens] at read
            split at read
            · cases read
            · obtain ⟨layout, rfl, named⟩ := ih .outside read
              exact named_char layout named char opens
      | inside begun =>
          by_cases opens : char = '['
          · rw [place, if_pos opens] at read
            cases read
          · rw [place, if_neg opens] at read
            by_cases closes : char = ']'
            · rw [if_pos closes] at read
              cases begun with
              | false => cases read
              | true =>
                  obtain ⟨layout, rfl, named⟩ := ih .outside read
                  exact ⟨[], layout, by rw [closes]; rfl, by simp, by simp, .inl rfl, named⟩
            · rw [if_neg closes] at read
              obtain ⟨name, layout, rfl, opened, closed, -, named⟩ := ih (.inside true) read
              exact ⟨char :: name, layout, rfl, by simp [opened, Ne.symm opens],
                by simp [closed, Ne.symm closes], .inr (by simp), named⟩

end Brackets

/-! The text that both SDKs make of a layout. -/
section Parity
variable (toUpperCase : Text → Text)

theorem format_wire (arg : CpdlcArgument) :
    formatArgValue (wireArgument arg) = displayArgument arg := by
  cases arg with
  | level level =>
      have same : level.value.toNat ≤ 999 ↔ level.value < 1000 := by
        rw [UInt16.lt_iff_toNat_lt]
        exact Nat.lt_succ_iff.symm
      simp only [wireArgument, formatArgValue, displayArgument, displayLevel, true_and, same]
  | _ => rfl

theorem next_match_slot (before name after : Text) (plain : '[' ∉ before) (closed : ']' ∉ name)
    (nonempty : name ≠ []) :
    nextMatch (before ++ (placeholder name ++ after)) = some (before, name, after) := by
  induction before with
  | nil =>
      have closing : splitOnce [']'] (name ++ ([']'] ++ after)) = some (name, after) :=
        split_once_char closed after
      rw [List.nil_append, placeholder, List.cons_append, nextMatch, if_pos rfl,
        List.append_assoc, closing]
      exact if_neg nonempty
  | cons first rest ih =>
      rw [List.mem_cons, not_or] at plain
      rw [List.cons_append, nextMatch, ih plain.2, if_neg (Ne.symm plain.1)]
      rfl

theorem next_match_static (text : Text) (plain : '[' ∉ text) : nextMatch text = none := by
  induction text with
  | nil => rfl
  | cons first rest ih =>
      rw [List.mem_cons, not_or] at plain
      rw [nextMatch, ih plain.2, if_neg (Ne.symm plain.1)]
      rfl

theorem static_text (text : Text) : textPartsToString (staticPart text) = text := by
  unfold staticPart
  split
  · next empty => rw [empty]; rfl
  · simp [textPartsToString]

theorem parts_static (text : Text) (args : List TsArgument) (still : nextMatch text = none) :
    partsOf toUpperCase text args = staticPart text := by
  rw [partsOf]
  split
  · rfl
  · next found =>
      rw [still] at found
      cases found

theorem parts_match (text before name after : Text) (arg : TsArgument) (args : List TsArgument)
    (found : nextMatch text = some (before, name, after)) :
    partsOf toUpperCase text (arg :: args) =
      staticPart before ++ ⟨formatArgValue arg, true⟩ :: partsOf toUpperCase after args := by
  rw [partsOf]
  split
  · next still =>
      rw [found] at still
      cases still
  · next other =>
      rw [found] at other
      cases other
      rfl

theorem parts_of_slots (slots : List (Text × Text))
    (plain : ∀ slot ∈ slots, ']' ∉ slot.1 ∧ '[' ∉ slot.2) (names : ∀ slot ∈ slots, slot.1 ≠ [])
    (args : List TsArgument) (enough : slots.length ≤ args.length) (lead : Text)
    (free : '[' ∉ lead) :
    textPartsToString (partsOf toUpperCase
        (lead ++ fill (slots.map fun slot => (placeholder slot.1, slot.2))) args) =
      lead ++ fill ((args.map formatArgValue).zip (slots.map Prod.snd)) := by
  induction slots generalizing args lead with
  | nil =>
      rw [List.map_nil, fill_nil, List.append_nil,
        parts_static toUpperCase lead args (next_match_static lead free), static_text]
      simp
  | cons slot rest ih =>
      obtain ⟨name, segment⟩ := slot
      obtain ⟨closed, clean⟩ := plain (name, segment) List.mem_cons_self
      cases args with
      | nil => cases enough
      | cons arg args =>
          have later := ih (fun slot member => plain slot (List.mem_cons_of_mem _ member))
            (fun slot member => names slot (List.mem_cons_of_mem _ member)) args
            (Nat.le_of_succ_le_succ enough) segment clean
          have matched := next_match_slot lead name
            (segment ++ fill (rest.map fun slot => (placeholder slot.1, slot.2))) free closed
            (names (name, segment) List.mem_cons_self)
          rw [List.map_cons, fill_cons, parts_match toUpperCase _ _ _ _ arg args matched]
          rw [textPartsToString, List.flatMap_append, List.flatMap_cons]
          change textPartsToString (staticPart lead) ++
            (formatArgValue arg ++ textPartsToString (partsOf toUpperCase _ args)) = _
          rw [static_text, later, List.map_cons, List.map_cons, List.zip_cons_cons, fill_cons]

theorem parts_empty (text : Text) (args : List TsArgument)
    (nothing : partsOf toUpperCase text args = []) : text = [] := by
  rw [partsOf] at nothing
  split at nothing
  · by_contra present
    rw [staticPart, if_neg present] at nothing
    cases nothing
  · exact absurd (List.append_eq_nil_iff.mp nothing).2 (List.cons_ne_nil _ _)

theorem whole_text (template : Text) (args : List TsArgument) :
    textPartsToString (templateToTextParts toUpperCase template args) =
      textPartsToString (partsOf toUpperCase template args) := by
  simp only [templateToTextParts]
  split
  · next nothing =>
      rw [nothing, parts_empty toUpperCase template args nothing]
      rfl
  · rfl

/-- Both SDKs make the same text of a template. -/
theorem text_alike (definition : MessageDefinition)
    (bracketed : Bracketed definition.template.toList) (args : List CpdlcArgument)
    (enough : definition.template.toList.count '[' ≤ args.length)
    (free : ∀ arg ∈ args, '[' ∉ displayArgument arg) :
    textPartsToString (templateToTextParts toUpperCase definition.template.toList
        (args.map wireArgument)) =
      render definition args := by
  obtain ⟨layout, template, named⟩ := bracketed_rest _ _ bracketed
  have values : (args.map wireArgument).map formatArgValue = args.map displayArgument := by
    rw [List.map_map]
    exact List.map_congr_left fun arg _ => format_wire arg
  rw [← template, named.counted] at enough
  rw [whole_text, render, ← template]
  have scanned := parts_of_slots toUpperCase layout.slots layout.plainSlots named.names
    (args.map wireArgument) (by simpa using enough) layout.lead layout.plainLead
  have replaced := replace_slots layout.slots layout.plainSlots (args.map displayArgument)
    (by simpa using enough) (List.forall_mem_map.mpr free) layout.lead layout.plainLead
  rw [values] at scanned
  exact scanned.trans replaced.symm

/-- An instruction with a time and a level. -/
theorem text_alike_climb :
    let definition : MessageDefinition :=
      ⟨"UM21", .uplink, "AT [time] CLIMB TO [level]", [.time, .level], .WU⟩
    let args : List CpdlcArgument := [.time "1200", .level (FlightLevel.mk 350)]
    textPartsToString (templateToTextParts id definition.template.toList
        (args.map wireArgument)) =
      render definition args :=
  text_alike id _ (by decide +kernel) _ (by decide +kernel) (by decide +kernel)

theorem registry_bracketed :
    ∀ definition ∈ messageRegistry, Bracketed definition.template.toList := by
  intro definition member
  rw [registry_text member]
  revert definition
  decide +kernel

end Parity

end OpenLink.TextParts
