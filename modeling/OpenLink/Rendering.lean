import OpenLink.MessageRegistry
import OpenLink.Templates
import OpenLink.Utf8Text

/-!
The text of a CPDLC message: how levels and arguments are written, how a level is
read back, and how a definition puts the arguments into its template.
-/
namespace OpenLink.Rendering
open Cpdlc MessageRegistry Templates Texts Utf8Text

def displayLevel (level : FlightLevel) : Text :=
  if level.value < 1000 then "FL".toList ++ decimal level.value.toNat
  else decimal level.value.toNat

def parseLevel (text : Text) : Option FlightLevel :=
  let numeric := ("FL".toList.isPrefixOf? text).getD text
  match parseDecimal 65535 numeric with
  | some level => if 999 < level then none else some ⟨UInt16.ofNat level⟩
  | none => none

def displayArgument : CpdlcArgument → Text
  | .level level => displayLevel level
  | .degrees degrees => decimal degrees.toNat
  | .speed text | .time text | .position text | .direction text | .distance text
  | .routeClearance text | .procedureName text | .unitName text | .facilityDesignation text
  | .frequency text | .code text | .atisCode text | .errorInfo text | .freeText text
  | .verticalRate text | .altimeter text | .legType text | .positionReport text
  | .remainingFuel text | .personsOnBoard text | .speedType text
  | .departureClearance text => text.toList

def replacePlaceholder (result value : Text) : Text :=
  match splitOnce ['['] result with
  | none => result
  | some (before, inside) =>
      match splitOnce [']'] ('[' :: inside) with
      | none => result
      | some (_, after) => before ++ value ++ after

def render (definition : MessageDefinition) (args : List CpdlcArgument) : Text :=
  (args.map displayArgument).foldl replacePlaceholder definition.template.toList

def renderElement (element : MessageElement) : Text :=
  match findDefinition element.id with
  | some definition => render definition element.args
  | none => "[UNKNOWN ".toList ++ element.id.toList ++ "]".toList

def renderMessage (message : CpdlcApplicationMessage) : Text :=
  List.intercalate " / ".toList (message.elements.map renderElement)

def effectiveResponseAttr (message : CpdlcApplicationMessage) : ResponseAttribute :=
  .effective ((message.elements.filterMap fun element => findDefinition element.id).map
    MessageDefinition.responseAttr)

theorem parse_level_display {level : FlightLevel} (low : level.value < 1000) :
    parseLevel (displayLevel level) = some level := by
  have small : level.value.toNat ≤ 999 := Nat.le_of_lt_succ low
  have numeric : ("FL".toList.isPrefixOf? ("FL".toList ++ decimal level.value.toNat)) =
      some (decimal level.value.toNat) := List.isPrefixOf?_eq_some_iff_append_eq.mpr rfl
  have parsed : parseDecimal 65535 (decimal level.value.toNat) = some level.value.toNat :=
    parse_decimal (by omega)
  simp only [displayLevel, if_pos low, parseLevel, numeric, Option.getD_some, parsed]
  rw [if_neg (by omega), UInt16.ofNat_toNat]

/-! Substitution goes from left to right and never looks back. -/
section Substitution

theorem replace_placeholder {before name after : Text} (plain : '[' ∉ before)
    (closed : ']' ∉ name) (value : Text) :
    replacePlaceholder (before ++ (placeholder name ++ after)) value =
      before ++ value ++ after := by
  have opening : splitOnce ['['] (before ++ (placeholder name ++ after)) =
      some (before, name ++ ']' :: after) := by
    simpa [placeholder] using split_once_char plain (name ++ ']' :: after)
  have closing : splitOnce [']'] ('[' :: name ++ ']' :: after) = some ('[' :: name, after) :=
    split_once_char (by simp [closed]) after
  rw [List.cons_append] at closing
  simp only [replacePlaceholder, opening, closing]

theorem replace_nothing (result : Text) (done : '[' ∉ result) (values : List Text) :
    values.foldl replacePlaceholder result = result := by
  induction values with
  | nil => rfl
  | cons value rest ih =>
      have still : replacePlaceholder result value = result := by
        rw [replacePlaceholder, split_once_absent done]
      rw [List.foldl_cons, still, ih]

/-- Every placeholder gives way to its value; what is left of the values is not used. -/
theorem replace_slots (slots : List (Text × Text))
    (plain : ∀ slot ∈ slots, ']' ∉ slot.1 ∧ '[' ∉ slot.2) (values : List Text)
    (enough : slots.length ≤ values.length) (free : ∀ value ∈ values, '[' ∉ value)
    (before : Text) (done : '[' ∉ before) :
    values.foldl replacePlaceholder
        (before ++ fill (slots.map fun slot => (placeholder slot.1, slot.2))) =
      before ++ fill (values.zip (slots.map Prod.snd)) := by
  induction slots generalizing values before with
  | nil => simpa using replace_nothing before done values
  | cons slot rest ih =>
      obtain ⟨name, segment⟩ := slot
      obtain ⟨closed, clean⟩ := plain (name, segment) (by simp)
      cases values with
      | nil => cases enough
      | cons value values =>
          have opened := free value (by simp)
          rw [List.foldl_cons, List.map_cons, fill_cons, replace_placeholder done closed,
            List.map_cons, List.zip_cons_cons, fill_cons]
          have later := ih (fun slot member => plain slot (by simp [member])) values
            (by simpa using enough) (fun value member => free value (by simp [member]))
            (before ++ value ++ segment) (by simp [done, opened, clean])
          simpa using later

/-- With a value for each placeholder the last value may open brackets of its own. -/
theorem replace_exactly (slots : List (Text × Text))
    (plain : ∀ slot ∈ slots, ']' ∉ slot.1 ∧ '[' ∉ slot.2) (values : List Text)
    (count : values.length = slots.length) (free : ∀ value ∈ values.dropLast, '[' ∉ value)
    (before : Text) (done : '[' ∉ before) :
    values.foldl replacePlaceholder
        (before ++ fill (slots.map fun slot => (placeholder slot.1, slot.2))) =
      before ++ fill (values.zip (slots.map Prod.snd)) := by
  induction slots generalizing values before with
  | nil => simpa using replace_nothing before done values
  | cons slot rest ih =>
      obtain ⟨name, segment⟩ := slot
      obtain ⟨closed, clean⟩ := plain (name, segment) (by simp)
      cases values with
      | nil => cases count
      | cons value values =>
          rw [List.foldl_cons, List.map_cons, fill_cons, replace_placeholder done closed,
            List.map_cons, List.zip_cons_cons, fill_cons]
          cases values with
          | nil =>
              obtain rfl := List.length_eq_zero_iff.mp (Nat.succ.inj count).symm
              simp
          | cons next values =>
              have opened := free value (by simp)
              have later := ih (fun slot member => plain slot (by simp [member])) (next :: values)
                (by simpa using count) (fun value member => free value (by simp [member]))
                (before ++ value ++ segment) (by simp [done, opened, clean])
              simpa using later

/-- Rendering puts every argument into its own place. -/
theorem render_filled (definition : MessageDefinition) (layout : Layout)
    (template : layout.text = definition.template.toList) (args : List CpdlcArgument)
    (count : args.length = layout.slots.length)
    (solid : ∀ arg ∈ args, Solid (displayArgument arg)) :
    render definition args = layout.filled (args.map displayArgument) := by
  rw [render, ← template]
  apply replace_slots layout.slots layout.plainSlots
  · simp [count]
  · intro value member
    obtain ⟨arg, given, rfl⟩ := List.mem_map.mp member
    exact (solid arg given).plain
  · exact layout.plainLead

end Substitution

/-! The templates of the registry, read off their bytes: a check of all of them is evaluated
over these. -/
section Registry

theorem registry_ascii : ∀ definition ∈ messageRegistry,
    (definition.template.toByteArray.data.toList.all fun byte => decide (byte.toNat < 128)) =
      true := by
  decide +kernel

theorem registry_text {definition : MessageDefinition} (member : definition ∈ messageRegistry) :
    definition.template.toList = asciiText definition.template :=
  ascii_text (registry_ascii definition member)

end Registry

def crossing : MessageDefinition :=
  ⟨"UM46", .uplink, "CROSS [position] AT [level]", [.position, .level], .WU⟩

theorem crossing_defined : findDefinition "UM46" = some crossing := by decide +kernel

end OpenLink.Rendering
