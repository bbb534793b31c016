import OpenLink.Texts

/-!
Templates: static text with named placeholders in square brackets. A layout is a
template cut at its placeholders, with the static text that follows each one.
-/
namespace OpenLink.Templates
open Texts

def fill (slots : List (Text × Text)) : Text := slots.flatMap fun slot => slot.1 ++ slot.2

structure Layout where
  lead : Text
  slots : List (Text × Text)
  plainLead : '[' ∉ lead
  plainSlots : ∀ slot ∈ slots, ']' ∉ slot.1 ∧ '[' ∉ slot.2

def placeholder (name : Text) : Text := '[' :: (name ++ [']'])

namespace Layout
variable (layout : Layout)

def following : List Text := layout.slots.map Prod.snd

def segments : List Text := layout.lead :: layout.following

def text : Text :=
  layout.lead ++ fill (layout.slots.map fun slot => (placeholder slot.1, slot.2))

def filled (values : List Text) : Text := layout.lead ++ fill (values.zip layout.following)

def behindChar (char : Char) (plain : char ≠ '[') : Layout where
  lead := char :: layout.lead
  slots := layout.slots
  plainLead := List.not_mem_cons_of_ne_of_not_mem plain.symm layout.plainLead
  plainSlots := layout.plainSlots

def behindSlot (name : Text) (closed : ']' ∉ name) : Layout where
  lead := []
  slots := (name, layout.lead) :: layout.slots
  plainLead := List.not_mem_nil
  plainSlots := List.forall_mem_cons.mpr ⟨⟨closed, layout.plainLead⟩, layout.plainSlots⟩

theorem text_behind_char (char : Char) (plain : char ≠ '[') :
    (layout.behindChar char plain).text = char :: layout.text := rfl

theorem text_behind_slot (name : Text) (closed : ']' ∉ name) :
    (layout.behindSlot name closed).text = '[' :: (name ++ ']' :: layout.text) := by
  simp [behindSlot, text, fill, placeholder]

def Tidy : Prop :=
  trimStart layout.lead = layout.lead ∧
    ∀ segment ∈ layout.segments.getLast?, trimEnd segment = segment

instance : Decidable layout.Tidy := inferInstanceAs (Decidable (_ ∧ _))

end Layout

/-- The lead of a text and its slots, read from the right. -/
def cut : Text → Text × List (Text × Text)
  | [] => ([], [])
  | first :: rest =>
      let later := cut rest
      if first = '[' then
        match splitOnce [']'] later.1 with
        | some slot => ([], slot :: later.2)
        | none => (first :: later.1, later.2)
      else (first :: later.1, later.2)

def layoutOf (template : Text) : Option Layout :=
  let pieces := cut template
  if plain : '[' ∉ pieces.1 ∧ ∀ slot ∈ pieces.2, ']' ∉ slot.1 ∧ '[' ∉ slot.2 then
    some ⟨pieces.1, pieces.2, plain.1, plain.2⟩
  else none

/-- A value that a reader can tell from the text around it: it is not empty, has
no white space at its ends and opens no placeholder. -/
structure Solid (value : Text) : Prop where
  nonempty : value ≠ []
  trimmed : trim value = value
  plain : '[' ∉ value

instance (value : Text) : Decidable (Solid value) :=
  decidable_of_iff (value ≠ [] ∧ trim value = value ∧ '[' ∉ value)
    ⟨fun solid => ⟨solid.1, solid.2.1, solid.2.2⟩,
      fun solid => ⟨solid.nonempty, solid.trimmed, solid.plain⟩⟩

/-- Each static text is there to be found, behind its own value first; only the
last one may be empty. -/
def Separated : List (Text × Text) → Prop
  | [] => True
  | (value, segment) :: rest =>
      if segment = [] then rest = []
      else trim segment ≠ [] ∧
        splitOnce (trim segment) (value ++ leading segment ++ trim segment) =
          some (value ++ leading segment, []) ∧
        Separated rest

instance decidableSeparated : (slots : List (Text × Text)) → Decidable (Separated slots)
  | [] => .isTrue trivial
  | (_, segment) :: rest =>
      haveI := decidableSeparated rest
      inferInstanceAs (Decidable (if segment = [] then _ else _ ∧ _ ∧ _))

section Filling

@[simp] theorem fill_nil : fill [] = [] := rfl

@[simp] theorem fill_cons (value segment : Text) (rest : List (Text × Text)) :
    fill ((value, segment) :: rest) = value ++ (segment ++ fill rest) := by
  simp [fill]

theorem fill_start {slots : List (Text × Text)} (solid : ∀ slot ∈ slots, Solid slot.1) :
    trimStart (fill slots) = fill slots := by
  cases slots with
  | nil => rfl
  | cons slot rest =>
      have first := solid slot (by simp)
      rw [fill_cons]
      exact trim_start_append first.nonempty (trim_start_trimmed first.trimmed) _

theorem fill_nonempty {slots : List (Text × Text)} (solid : ∀ slot ∈ slots, Solid slot.1)
    (present : slots ≠ []) : fill slots ≠ [] := by
  cases slots with
  | nil => contradiction
  | cons slot rest =>
      have first := (solid slot (by simp)).nonempty
      rw [fill_cons]
      simp [first]

theorem fill_end {slots : List (Text × Text)} (solid : ∀ slot ∈ slots, Solid slot.1)
    (tidy : ∀ segment ∈ (slots.map Prod.snd).getLast?, trimEnd segment = segment) :
    trimEnd (fill slots) = fill slots := by
  induction slots with
  | nil => rfl
  | cons slot rest ih =>
      obtain ⟨value, segment⟩ := slot
      rw [fill_cons]
      cases rest with
      | nil =>
          have closed : trimEnd segment = segment := tidy segment (by simp)
          rw [fill_nil, List.append_nil]
          by_cases empty : segment = []
          · rw [empty, List.append_nil]
            exact trim_end_trimmed (solid (value, segment) (by simp)).trimmed
          · exact trim_end_append empty closed value
      | cons next more =>
          have closed := ih (fun slot member => solid slot (by simp [member])) (by simpa using tidy)
          have present : fill (next :: more) ≠ [] :=
            fill_nonempty (fun slot member => solid slot (by simp [member])) (by simp)
          rw [← List.append_assoc]
          exact trim_end_append present closed _

end Filling

theorem filled_trimmed (layout : Layout) (tidy : layout.Tidy) {values : List Text}
    (solid : ∀ value ∈ values, Solid value) (count : values.length = layout.slots.length) :
    trim (layout.filled values) = layout.filled values := by
  have slots : ∀ slot ∈ values.zip layout.following, Solid slot.1 :=
    fun slot member => solid slot.1 (List.of_mem_zip member).1
  have paired : (values.zip layout.following).map Prod.snd = layout.following :=
    List.map_snd_zip (by simp [Layout.following, count])
  apply trim_of_ends
  · by_cases empty : layout.lead = []
    · rw [Layout.filled, empty, List.nil_append]
      exact fill_start slots
    · exact trim_start_append empty tidy.1 _
  · by_cases bare : layout.following = []
    · have closed := tidy.2 layout.lead (by simp [Layout.segments, bare])
      simpa [Layout.filled, bare] using closed
    · have closed : trimEnd (fill (values.zip layout.following)) =
          fill (values.zip layout.following) := by
        apply fill_end slots
        rw [paired]
        intro segment last
        exact tidy.2 segment (by simp [Layout.segments, List.getLast?_cons, Option.mem_def.mp last])
      have present : values.zip layout.following ≠ [] := by
        intro none
        rw [none] at paired
        exact bare paired.symm
      exact trim_end_append (fill_nonempty slots present) closed _

end OpenLink.Templates
