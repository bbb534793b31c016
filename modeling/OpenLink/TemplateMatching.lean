import OpenLink.Translator

/-!
When decoding inverts rendering: a template finds its own values again, and a
definition wins against the others of its direction.
-/
namespace OpenLink.TemplateMatching
open Cpdlc MessageRegistry Rendering Selection Templates Texts Translator

/-! A template cut into segments, and its values taken out again. -/
section Extraction

theorem split_remaining_slots (lead : Text) (plainLead : '[' ∉ lead) (slots : List (Text × Text))
    (plain : ∀ slot ∈ slots, ']' ∉ slot.1 ∧ '[' ∉ slot.2) (fuel : Nat)
    (enough : slots.length < fuel) :
    splitRemaining fuel (lead ++ fill (slots.map fun slot => (placeholder slot.1, slot.2))) =
      lead :: slots.map Prod.snd := by
  induction slots generalizing lead fuel with
  | nil =>
      obtain ⟨fuel, rfl⟩ := Nat.exists_eq_add_of_lt enough
      simp [splitRemaining, split_once_absent plainLead]
  | cons slot rest ih =>
      obtain ⟨name, segment⟩ := slot
      obtain ⟨closed, clean⟩ := plain (name, segment) (by simp)
      cases fuel with
      | zero => simp at enough
      | succ fuel =>
          have later := ih segment clean (fun slot member => plain slot (by simp [member])) fuel
            (by simpa using enough)
          have opening := split_once_char plainLead (name ++ ']' :: (segment ++
            fill (rest.map fun slot => (placeholder slot.1, slot.2))))
          have closing : splitOnce [']'] ('[' :: name ++ ']' :: (segment ++
              fill (rest.map fun slot => (placeholder slot.1, slot.2)))) =
              some ('[' :: name, segment ++
                fill (rest.map fun slot => (placeholder slot.1, slot.2))) :=
            split_once_char (by simp [closed]) _
          rw [List.cons_append] at closing
          have shape : lead ++ fill (((name, segment) :: rest).map fun slot =>
              (placeholder slot.1, slot.2)) = lead ++ '[' :: (name ++ ']' :: (segment ++
                fill (rest.map fun slot => (placeholder slot.1, slot.2)))) := by
            simp [placeholder]
          rw [shape, splitRemaining, opening]
          simp only [closing, later, List.map_cons]

theorem fill_length (slots : List (Text × Text)) :
    slots.length ≤ (fill (slots.map fun slot => (placeholder slot.1, slot.2))).length := by
  induction slots with
  | nil => simp
  | cons slot rest ih =>
      have bracketed : 0 < (placeholder slot.1).length := by simp [placeholder]
      rw [List.map_cons, fill_cons]
      simp only [List.length_cons, List.length_append]
      omega

theorem split_template_layout (layout : Layout) : splitTemplate layout.text = layout.segments := by
  apply split_remaining_slots layout.lead layout.plainLead layout.slots layout.plainSlots
  have short := fill_length layout.slots
  rw [Layout.text, List.length_append]
  omega

/-- A static text that is found in its own place gives its value back. -/
theorem extract_slot {value segment : Text} (solid : Solid value) (nonempty : segment ≠ [])
    {rest : List (Text × Text)} (others : ∀ slot ∈ rest, Solid slot.1)
    (located : splitOnce (trim segment) (value ++ (segment ++ fill rest)) =
      some (value ++ leading segment, trailing segment ++ fill rest)) (following : List Text) :
    extractRemaining (segment :: following) (value ++ (segment ++ fill rest)) =
      value :: extractRemaining following (fill rest) := by
  have kept : trim (value ++ leading segment) = value := by
    have start := trim_start_append solid.nonempty (trim_start_trimmed solid.trimmed)
    rw [trim, start, trim_end_blank (leading_white segment), trim_end_trimmed solid.trimmed]
  -- the reader goes on behind the white space of the segment
  have next : trimStart (trailing segment ++ fill rest) = fill rest := by
    rw [trim_start_blank (trailing_white segment), fill_start others]
  rw [extractRemaining, if_neg nonempty, located]
  simp only [kept, next]

theorem slot_pieces (value segment rest : Text) :
    value ++ (segment ++ rest) =
      value ++ leading segment ++ trim segment ++ (trailing segment ++ rest) := by
  conv_lhs => rw [trim_pieces segment]
  simp

theorem extract_remaining_fill (slots : List (Text × Text))
    (solid : ∀ slot ∈ slots, Solid slot.1) (separated : Separated slots) :
    extractRemaining (slots.map Prod.snd) (fill slots) = slots.map Prod.fst := by
  induction slots with
  | nil => rfl
  | cons slot rest ih =>
      obtain ⟨value, segment⟩ := slot
      have first := solid (value, segment) (by simp)
      have others : ∀ slot ∈ rest, Solid slot.1 := fun slot member => solid slot (by simp [member])
      rw [List.map_cons, List.map_cons, fill_cons]
      by_cases empty : segment = []
      · rw [Separated, if_pos empty] at separated
        subst empty separated
        simp [extractRemaining, first.trimmed]
      · rw [Separated, if_neg empty] at separated
        obtain ⟨_, found, separated⟩ := separated
        have located : splitOnce (trim segment) (value ++ (segment ++ fill rest)) =
            some (value ++ leading segment, trailing segment ++ fill rest) := by
          rw [slot_pieces]
          exact split_once_append found (trailing segment ++ fill rest)
        rw [extract_slot first empty others located, ih others separated]

theorem extract_lead (layout : Layout) (values : List Text) (solid : ∀ value ∈ values, Solid value) :
    extractValuesBetweenSegments (layout.filled values) layout.segments =
      extractRemaining layout.following (fill (values.zip layout.following)) := by
  have slots : ∀ slot ∈ values.zip layout.following, Solid slot.1 :=
    fun slot member => solid slot.1 (List.of_mem_zip member).1
  by_cases empty : layout.lead = []
  · simp [Layout.segments, extractValuesBetweenSegments, Layout.filled, empty]
  · have opening : (trimEnd layout.lead).isPrefixOf? (layout.filled values) =
        some (layout.lead.rtakeWhile isWhitespace ++ fill (values.zip layout.following)) := by
      rw [List.isPrefixOf?_eq_some_iff_append_eq, ← List.append_assoc, trimEnd,
        List.rdropWhile_append_rtakeWhile, Layout.filled]
    have next : trimStart (layout.lead.rtakeWhile isWhitespace ++
        fill (values.zip layout.following)) = fill (values.zip layout.following) := by
      rw [trim_start_blank fun _ member => List.mem_rtakeWhile_imp member, fill_start slots]
    rw [Layout.segments, extractValuesBetweenSegments, if_neg empty, opening]
    simp only [next]

/-- The values of a filled template are found again. -/
theorem extract_filled (layout : Layout) (values : List Text)
    (count : values.length = layout.slots.length) (solid : ∀ value ∈ values, Solid value)
    (separated : Separated (values.zip layout.following)) :
    extractValuesBetweenSegments (layout.filled values) layout.segments = values := by
  have slots : ∀ slot ∈ values.zip layout.following, Solid slot.1 :=
    fun slot member => solid slot.1 (List.of_mem_zip member).1
  have following : (values.zip layout.following).map Prod.snd = layout.following :=
    List.map_snd_zip (by simp [Layout.following, count])
  have contents : (values.zip layout.following).map Prod.fst = values :=
    List.map_fst_zip (by simp [Layout.following, count])
  have extracted := extract_remaining_fill _ slots separated
  rw [following, contents] at extracted
  rw [extract_lead layout values solid, extracted]

end Extraction

/-! A text argument written and read back. -/
section Arguments

theorem decimal_solid (number : Nat) : Solid (decimal number) := by
  constructor
  · exact decimal_nonempty number
  · apply trim_solid
    intro char member
    exact digit_not_white (decimal_digits number char member)
  · exact decimal_absent number (by decide)

theorem level_solid (level : FlightLevel) : Solid (displayLevel level) := by
  unfold displayLevel
  split
  · have letters : ∀ char ∈ "FL".toList, isWhitespace char = false := by
      intro char letter
      have named : char = 'F' ∨ char = 'L' := by simpa using letter
      rcases named with rfl | rfl <;> decide
    constructor
    · simp
    · apply trim_solid
      intro char member
      rcases List.mem_append.mp member with letter | digit
      · exact letters char letter
      · exact digit_not_white (decimal_digits _ char digit)
    · intro opened
      rcases List.mem_append.mp opened with letter | digit
      · exact absurd letter (by decide)
      · exact decimal_absent _ (by decide) digit
  · exact decimal_solid _

/-- A value that survives on the way: a level that has its short form, or a text
that can be told from what surrounds it. -/
def Sound : CpdlcArgument → Prop
  | .level level => level.value < 1000
  | .degrees _ => True
  | arg => Solid (displayArgument arg)

instance : (arg : CpdlcArgument) → Decidable (Sound arg)
  | .level level => inferInstanceAs (Decidable (level.value < 1000))
  | .degrees _ => .isTrue trivial
  | .speed text | .time text | .position text | .direction text | .distance text
  | .routeClearance text | .procedureName text | .unitName text | .facilityDesignation text
  | .frequency text | .code text | .atisCode text | .errorInfo text | .freeText text
  | .verticalRate text | .altimeter text | .legType text | .positionReport text
  | .remainingFuel text | .personsOnBoard text | .speedType text
  | .departureClearance text => inferInstanceAs (Decidable (Solid text.toList))

theorem sound_solid {arg : CpdlcArgument} (sound : Sound arg) : Solid (displayArgument arg) := by
  cases arg with
  | level level => exact level_solid level
  | degrees degrees => exact decimal_solid _
  | _ => exact sound

theorem text_argument_display {arg : CpdlcArgument} (sound : Sound arg) :
    textToArgument (displayArgument arg) arg.argType = arg := by
  cases arg with
  | level level => simp [textToArgument, CpdlcArgument.argType, displayArgument,
      parse_level_display sound]
  | degrees degrees =>
      have parsed : parseDecimal 65535 (decimal degrees.toNat) = some degrees.toNat :=
        parse_decimal (by have := degrees.toNat_lt; omega)
      simp [textToArgument, CpdlcArgument.argType, displayArgument, parsed]
  | _ => simp [textToArgument, CpdlcArgument.argType, displayArgument]

theorem text_arguments_display (args : List CpdlcArgument) (sound : ∀ arg ∈ args, Sound arg) :
    ((args.map displayArgument).zip (args.map CpdlcArgument.argType)).map
      (fun item => textToArgument item.1 item.2) = args := by
  induction args with
  | nil => rfl
  | cons arg rest ih =>
      have first := text_argument_display (sound arg (by simp))
      have later := ih fun arg member => sound arg (by simp [member])
      simp only [List.map_cons, List.zip_cons_cons, first, later]

end Arguments

/-! Every template of the registry has a layout. -/
section Registry

def laidOut (definition : MessageDefinition) : Bool :=
  match layoutOf definition.template.toList with
  | some layout => decide (layout.text = definition.template.toList ∧
      layout.slots.length = definition.args.length ∧ layout.Tidy)
  | none => false

theorem registry_laid_out : ∀ definition ∈ messageRegistry, laidOut definition = true := by
  intro definition member
  rw [laidOut, registry_text member]
  revert definition
  decide +kernel

theorem registry_layout {definition : MessageDefinition} (member : definition ∈ messageRegistry) :
    ∃ layout : Layout, layout.text = definition.template.toList ∧
      layout.slots.length = definition.args.length ∧ layout.Tidy := by
  have checked := registry_laid_out definition member
  unfold laidOut at checked
  cases found : layoutOf definition.template.toList with
  | none => simp [found] at checked
  | some layout =>
      rw [found] at checked
      exact ⟨layout, of_decide_eq_true checked⟩

end Registry

end OpenLink.TemplateMatching
