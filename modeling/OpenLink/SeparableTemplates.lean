import OpenLink.TemplateMatching

/-!
The extraction of values as the inverse of rendering, for any template. Static text is looked
for without its outer white space, so that a last segment of white space alone is found in front
of its own value.
-/
namespace OpenLink.SeparableTemplates
open Cpdlc MessageRegistry Rendering Templates TemplateMatching Texts Translator

/-! The first place of a needle. -/
section Places

def FirstAt (needle text : Text) (position : Nat) : Prop :=
  needle <+: text.drop position ∧ ∀ earlier < position, ¬ needle <+: text.drop earlier

instance (needle text : Text) (position : Nat) : Decidable (FirstAt needle text position) :=
  inferInstanceAs (Decidable (_ ∧ _))

theorem first_at_succ {needle rest : Text} {first : Char} {position : Nat} :
    FirstAt needle (first :: rest) (position + 1) ↔
      ¬ needle <+: first :: rest ∧ FirstAt needle rest position := by
  constructor
  · rintro ⟨here, absent⟩
    exact ⟨absent 0 (Nat.succ_pos _), here,
      fun earlier less => absent (earlier + 1) (Nat.succ_lt_succ less)⟩
  · rintro ⟨start, here, absent⟩
    refine ⟨here, ?_⟩
    rintro (_ | earlier) less
    · exact start
    · exact absent earlier (Nat.lt_of_succ_lt_succ less)

theorem split_once_first {needle : Text} (before after : Text)
    (first : FirstAt needle (before ++ needle ++ after) before.length) :
    splitOnce needle (before ++ needle ++ after) = some (before, after) := by
  induction before with
  | nil =>
      cases needle with
      | nil => exact split_once_empty after
      | cons head tail =>
          have here : (head :: tail).isPrefixOf? (head :: (tail ++ after)) = some after :=
            List.isPrefixOf?_eq_some_iff_append_eq.mpr rfl
          simp only [List.nil_append, List.cons_append, splitOnce, here]
  | cons head tail ih =>
      obtain ⟨absent, later⟩ := first_at_succ.mp first
      have none : needle.isPrefixOf? (head :: (tail ++ needle ++ after)) = none := by
        cases found : needle.isPrefixOf? (head :: (tail ++ needle ++ after)) with
        | none => rfl
        | some rest => exact absurd ⟨rest, List.isPrefixOf?_eq_some_iff_append_eq.mp found⟩ absent
      simp only [List.cons_append, splitOnce, none, ih later, Option.map_some]

end Places

/-! Templates whose brackets are balanced and not nested. -/
section Brackets

def balanced : Bool → Text → Bool
  | inside, [] => !inside
  | inside, char :: rest =>
      if char = '[' then !inside && balanced true rest
      else if char = ']' then inside && balanced false rest
      else balanced inside rest

def LaidOut : Bool → Text → Prop
  | false, text => ∃ layout : Layout, layout.text = text
  | true, text => ∃ (name : Text) (layout : Layout), ']' ∉ name ∧ text = name ++ ']' :: layout.text

theorem balanced_laid_out (inside : Bool) (text : Text) (even : balanced inside text = true) :
    LaidOut inside text := by
  induction text generalizing inside with
  | nil =>
      cases inside with
      | false => exact ⟨⟨[], [], by simp, by simp⟩, rfl⟩
      | true => cases even
  | cons char rest ih =>
      rw [balanced] at even
      by_cases opens : char = '['
      · rw [if_pos opens, Bool.and_eq_true, Bool.not_eq_true'] at even
        obtain ⟨rfl, even⟩ := even
        obtain ⟨name, layout, closed, rfl⟩ := ih true even
        rw [opens]
        exact ⟨layout.behindSlot name closed, layout.text_behind_slot name closed⟩
      · rw [if_neg opens] at even
        by_cases closes : char = ']'
        · rw [if_pos closes, Bool.and_eq_true] at even
          obtain ⟨rfl, even⟩ := even
          obtain ⟨layout, rfl⟩ := ih false even
          exact ⟨[], layout, by simp, by rw [closes]; rfl⟩
        · rw [if_neg closes] at even
          cases inside with
          | false =>
              obtain ⟨layout, rfl⟩ := ih false even
              exact ⟨layout.behindChar char opens, layout.text_behind_char char opens⟩
          | true =>
              obtain ⟨name, layout, closed, rfl⟩ := ih true even
              exact ⟨char :: name, layout, by simp [closed, Ne.symm closes], rfl⟩

end Brackets

/-- Every static text that is not blank stands where it is found first, in what follows the
static text before it. -/
def InPlace : List (Text × Text) → Prop
  | [] => True
  | (value, segment) :: rest =>
      (trim segment ≠ [] → FirstAt (trim segment) (value ++ (segment ++ fill rest))
        (value ++ leading segment).length) ∧
      InPlace rest

instance decidableInPlace : (slots : List (Text × Text)) → Decidable (InPlace slots)
  | [] => .isTrue trivial
  | (_, segment) :: rest =>
      haveI := decidableInPlace rest
      inferInstanceAs (Decidable ((trim segment ≠ [] → _) ∧ _))

/-- The needle of a blank segment is found in front of the value. -/
theorem extract_blank {value segment : Text} (solid : Solid value) (blank : trim segment = []) :
    extractRemaining [segment] (value ++ (segment ++ fill [])) = [value] ↔ segment = [] := by
  by_cases empty : segment = []
  · simp [extractRemaining, empty, solid.trimmed]
  · have needle : splitOnce (trim segment) (value ++ (segment ++ fill [])) =
        some ([], value ++ (segment ++ fill [])) := by
      rw [blank]
      exact split_once_empty _
    have lost : trim ([] : Text) ≠ value := solid.nonempty.symm
    simp only [extractRemaining, if_neg empty, needle]
    simp [empty, lost]

/-- Values that were written behind static text that is not blank, except perhaps the last, are
read back exactly when the last is not blank either, or empty. -/
theorem extract_remaining_iff (slots : List (Text × Text)) (solid : ∀ slot ∈ slots, Solid slot.1)
    (apart : ∀ segment ∈ (slots.map Prod.snd).dropLast, trim segment ≠ [])
    (placed : InPlace slots) :
    extractRemaining (slots.map Prod.snd) (fill slots) = slots.map Prod.fst ↔
      ∀ segment ∈ (slots.map Prod.snd).getLast?, segment = [] ∨ trim segment ≠ [] := by
  induction slots with
  | nil => simp [extractRemaining]
  | cons slot rest ih =>
      obtain ⟨value, segment⟩ := slot
      obtain ⟨here, placed⟩ := placed
      have first := solid (value, segment) (by simp)
      have others : ∀ slot ∈ rest, Solid slot.1 := fun slot member => solid slot (by simp [member])
      rw [List.map_cons, List.map_cons, fill_cons]
      by_cases blank : trim segment = []
      -- a blank segment that is not the last one would make two slots adjacent
      · have last : rest = [] := by
          cases rest with
          | nil => rfl
          | cons next more => exact absurd blank (apart segment (by simp))
        subst last
        rw [List.map_nil, List.map_nil, extract_blank first blank]
        simp [blank]
      · have nonempty : segment ≠ [] := by
          rintro rfl
          exact blank rfl
        have located : splitOnce (trim segment) (value ++ (segment ++ fill rest)) =
            some (value ++ leading segment, trailing segment ++ fill rest) := by
          have found := here blank
          rw [slot_pieces] at found ⊢
          exact split_once_first _ _ found
        rw [extract_slot first nonempty others located, List.cons_inj_right]
        cases rest with
        | nil => simp [extractRemaining, blank]
        | cons next more =>
            have later := ih others (fun segment member => apart segment (by simp_all)) placed
            rw [later]
            simp

/-- Rendering a template and extracting from the text gives the values back exactly when the last
static text is empty or not blank. -/
theorem extract_rendered_iff (definition : MessageDefinition) (args : List CpdlcArgument)
    (even : balanced false definition.template.toList = true)
    (count : (splitTemplate definition.template.toList).length = args.length + 1)
    (apart : ∀ segment ∈ (splitTemplate definition.template.toList).tail.dropLast,
      trim segment ≠ [])
    (solid : ∀ arg ∈ args, Solid (displayArgument arg))
    (placed : InPlace ((args.map displayArgument).zip
      (splitTemplate definition.template.toList).tail)) :
    extractValuesBetweenSegments (render definition args)
        (splitTemplate definition.template.toList) = args.map displayArgument ↔
      ∀ segment ∈ (splitTemplate definition.template.toList).tail.getLast?,
        segment = [] ∨ trim segment ≠ [] := by
  obtain ⟨layout, template⟩ := balanced_laid_out false _ even
  rw [← template, split_template_layout] at count apart placed ⊢
  rw [Layout.segments, List.tail_cons] at apart placed ⊢
  have arity : args.length = layout.slots.length := by
    simpa [Layout.segments, Layout.following] using count.symm
  have values : ∀ value ∈ args.map displayArgument, Solid value := by
    intro value member
    obtain ⟨arg, given, rfl⟩ := List.mem_map.mp member
    exact solid arg given
  have following : ((args.map displayArgument).zip layout.following).map Prod.snd =
      layout.following := List.map_snd_zip (by simp [Layout.following, arity])
  have contents : ((args.map displayArgument).zip layout.following).map Prod.fst =
      args.map displayArgument := List.map_fst_zip (by simp [Layout.following, arity])
  have extracted := extract_remaining_iff ((args.map displayArgument).zip layout.following)
    (fun slot member => values slot.1 (List.of_mem_zip member).1) (by rwa [following]) placed
  rw [following, contents] at extracted
  rw [render_filled definition layout template args arity solid, ← Layout.segments,
    extract_lead layout _ values, extracted]

theorem extract_crossing :
    extractValuesBetweenSegments (render crossing [.position "LASNO", .level ⟨350⟩])
        (splitTemplate crossing.template.toList) =
      [CpdlcArgument.position "LASNO", .level ⟨350⟩].map displayArgument ↔
      ∀ segment ∈ (splitTemplate crossing.template.toList).tail.getLast?,
        segment = [] ∨ trim segment ≠ [] :=
  extract_rendered_iff crossing [.position "LASNO", .level ⟨350⟩] (by decide +kernel)
    (by decide +kernel) (by decide +kernel) (by decide +kernel) (by decide +kernel)

def trailingBlank : MessageDefinition :=
  ⟨"UM169", .uplink, "CLEARED [free text] ", [.freeText], .R⟩

/-- The template meets every condition, and its value is lost. -/
theorem trailing_blank_lost :
    balanced false trailingBlank.template.toList = true ∧
      splitTemplate trailingBlank.template.toList = ["CLEARED ".toList, " ".toList] ∧
      Solid (displayArgument (.freeText "A")) ∧
      InPlace [("A".toList, " ".toList)] ∧
      extractValuesBetweenSegments (render trailingBlank [.freeText "A"])
        (splitTemplate trailingBlank.template.toList) = [[]] := by
  decide +kernel

end OpenLink.SeparableTemplates
