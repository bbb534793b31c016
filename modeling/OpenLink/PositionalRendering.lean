import OpenLink.TemplateMatching

/-!
Where rendering puts the arguments. It works on the text that already holds the earlier ones,
so an argument that opens a bracket is taken for a placeholder by the next one.
-/
namespace OpenLink.PositionalRendering
open Cpdlc MessageRegistry Rendering TemplateMatching Templates Texts

/-- The template with every placeholder replaced by the text of its own argument, and nothing
else changed. -/
def Positional (definition : MessageDefinition) (args : List CpdlcArgument) : Prop :=
  ∀ layout : Layout, layout.text = definition.template.toList →
    layout.slots.length = args.length →
      render definition args = layout.filled (args.map displayArgument)

theorem positional_plain (definition : MessageDefinition) (args : List CpdlcArgument)
    (plain : ∀ arg ∈ args.dropLast, '[' ∉ displayArgument arg) : Positional definition args := by
  intro layout template count
  rw [render, ← template]
  apply replace_exactly layout.slots layout.plainSlots
  · simp [count]
  · intro value member
    rw [← List.map_dropLast] at member
    obtain ⟨arg, earlier, rfl⟩ := List.mem_map.mp member
    exact plain arg earlier
  · exact layout.plainLead

/-! One value in a text. -/
section Places

/-- A value is put behind a text without brackets, or nowhere. -/
theorem replaced_place (result : Text) :
    (∃ before after, '[' ∉ before ∧
      ∀ value, replacePlaceholder result value = before ++ value ++ after) ∨
      ∀ value, replacePlaceholder result value = result := by
  by_cases bracket : '[' ∈ result
  · obtain ⟨before, inside, rfl, plain⟩ := List.eq_append_cons_of_mem bracket
    have opening := split_once_char plain inside
    cases closing : splitOnce [']'] ('[' :: inside) with
    | none => exact Or.inr fun value => by simp only [replacePlaceholder, opening, closing]
    | some rest =>
        exact Or.inl ⟨before, rest.2, plain, fun value => by
          simp only [replacePlaceholder, opening, closing]⟩
  · exact Or.inr fun value => by simp only [replacePlaceholder, split_once_absent bracket]

theorem same_place {before after left right : Text}
    (agree : ∀ value : Text, before ++ value ++ after = left ++ value ++ right)
    (plain : '[' ∉ before) : '[' ∉ left := by
  have shape : ∀ (value : Text) (index : Nat),
      (before ++ (value ++ after))[index]? = (left ++ (value ++ right))[index]? := by
    intro value index
    rw [← List.append_assoc, agree, List.append_assoc]
  rcases Nat.lt_trichotomy before.length left.length with shorter | same | longer
  -- the character of `left` behind `before` would be the first of every value
  · have first : ∀ char, left[before.length]? = some char := by
      intro char
      have here := shape [char] before.length
      rw [List.getElem?_append_right (Nat.le_refl _), List.getElem?_append_left shorter] at here
      simpa using here.symm
    have clash := (first 'a').symm.trans (first 'b')
    simp at clash
  · have whole := agree []
    rw [List.append_nil, List.append_nil] at whole
    rwa [← (List.append_inj whole same).1]
  · have here := shape ['['] left.length
    rw [List.getElem?_append_left longer, List.getElem?_append_right (Nat.le_refl _)] at here
    exact absurd (List.mem_of_getElem? (by simpa using here)) plain

end Places

/-! All values but the last. -/
section Earlier

/-- The texts in front of the last value hold every earlier one. -/
theorem filled_last (layout : Layout) (earlier : List Text)
    (count : layout.slots.length = earlier.length + 1) :
    ∃ left right, (∀ last, layout.filled (earlier ++ [last]) = left ++ last ++ right) ∧
      ∀ value ∈ earlier, value ⊆ left := by
  have slots : layout.following.length = earlier.length + 1 := by
    rw [Layout.following, List.length_map, count]
  rcases List.eq_nil_or_concat layout.following with empty | ⟨segments, segment, split⟩
  · rw [empty] at slots
    cases slots
  · rw [List.concat_eq_append] at split
    have same : earlier.length = segments.length := by
      rw [split, List.length_append] at slots
      simpa using slots.symm
    refine ⟨layout.lead ++ fill (earlier.zip segments), segment, ?_, ?_⟩
    · intro last
      rw [Layout.filled, split, List.zip_append same, fill, List.flatMap_append]
      simp [fill]
    · intro value member char inside
      obtain ⟨index, bound, rfl⟩ := List.mem_iff_getElem.mp member
      apply List.mem_append_right
      refine List.mem_flatMap.mpr ⟨(earlier[index], segments[index]), ?_, by simp [inside]⟩
      exact List.mem_iff_getElem.mpr ⟨index, by simp [bound, ← same], by simp⟩

/-- Arguments that leave the last one its place, whatever it is, open no bracket. -/
theorem earlier_plain {definition : MessageDefinition} (member : definition ∈ messageRegistry)
    (earlier : List CpdlcArgument) (count : earlier.length + 1 = definition.args.length)
    (positional : ∀ last, Positional definition (earlier ++ [last])) :
    ∀ arg ∈ earlier, '[' ∉ displayArgument arg := by
  obtain ⟨layout, template, slots, _⟩ := registry_layout member
  obtain ⟨left, right, filled, held⟩ := filled_last layout (earlier.map displayArgument)
    (by rw [slots, List.length_map, count])
  have rendered : ∀ value : Text,
      replacePlaceholder ((earlier.map displayArgument).foldl replacePlaceholder
        definition.template.toList) value = left ++ value ++ right := by
    intro value
    have placed := positional (.freeText (String.ofList value)) layout template
      (by simp [slots, count])
    simpa [render, displayArgument, filled] using placed
  have plain : '[' ∉ left := by
    rcases replaced_place ((earlier.map displayArgument).foldl replacePlaceholder
      definition.template.toList) with ⟨before, after, plain, put⟩ | lost
    · exact same_place (fun value => (put value).symm.trans (rendered value)) plain
    · have nothing := congrArg List.length ((rendered []).symm.trans ((lost []).trans
        ((lost ['a']).symm.trans (rendered ['a']))))
      simp at nothing
  intro arg given bracket
  exact plain (held _ (List.mem_map.mpr ⟨arg, given, rfl⟩) bracket)

end Earlier

/-! Arguments that close no bracket. An open one swallows what stands between it and the end of
the next placeholder, so the text comes out too short. -/
section Captures

def unopened (text : Text) : Text := text.takeWhile fun char => char ≠ '['

theorem unopened_plain {text : Text} (plain : '[' ∉ text) (rest : Text) :
    unopened (text ++ rest) = text ++ unopened rest := by
  apply List.takeWhile_append_of_pos
  intro char member
  rw [decide_eq_true_eq]
  rintro rfl
  exact plain member

theorem unopened_length (text : Text) : (unopened text).length ≤ text.length :=
  (List.takeWhile_prefix _).length_le

theorem unopened_shorter {text : Text} (bracket : '[' ∈ text) :
    (unopened text).length < text.length := by
  obtain ⟨before, inside, rfl, plain⟩ := List.eq_append_cons_of_mem bracket
  rw [unopened_plain plain]
  simp [unopened]

/-- A value is put in front of the first bracket, up to the end of the next placeholder. -/
theorem replace_captured {before name after : Text} (unclosed : ']' ∉ before)
    (closed : ']' ∉ name) (value : Text) :
    replacePlaceholder (before ++ (placeholder name ++ after)) value =
      unopened before ++ value ++ after := by
  by_cases bracket : '[' ∈ before
  · obtain ⟨lead, inside, rfl, plain⟩ := List.eq_append_cons_of_mem bracket
    have taken : unopened (lead ++ '[' :: inside) = lead := by
      rw [unopened_plain plain]
      simp [unopened]
    have opening := split_once_char plain (inside ++ (placeholder name ++ after))
    have closing : splitOnce [']'] ('[' :: inside ++ '[' :: name ++ ']' :: after) =
        some ('[' :: inside ++ '[' :: name, after) :=
      split_once_char (by simp_all) after
    simp only [List.append_assoc, List.cons_append, List.nil_append, placeholder] at opening closing ⊢
    simp only [replacePlaceholder, opening, closing, taken, List.append_assoc]
  · have taken := unopened_plain bracket []
    rw [List.append_nil] at taken
    rw [taken, replace_placeholder bracket closed]
    simp [unopened]

/-- The text never comes out too long, and too short once a bracket is open with a placeholder
still to come. -/
theorem captured_length (slots : List (Text × Text))
    (closed : ∀ slot ∈ slots, ']' ∉ slot.1 ∧ ']' ∉ slot.2) (values : List Text)
    (count : values.length = slots.length) (unclosed : ∀ value ∈ values.dropLast, ']' ∉ value)
    (before : Text) (clear : ']' ∉ before) :
    (values.foldl replacePlaceholder
        (before ++ fill (slots.map fun slot => (placeholder slot.1, slot.2)))).length ≤
      (before ++ fill (values.zip (slots.map Prod.snd))).length ∧
    ((slots ≠ [] ∧ '[' ∈ before) ∨ (∃ value ∈ values.dropLast, '[' ∈ value) →
      (values.foldl replacePlaceholder
          (before ++ fill (slots.map fun slot => (placeholder slot.1, slot.2)))).length <
        (before ++ fill (values.zip (slots.map Prod.snd))).length) := by
  -- `before` is what is rendered already: a bracket that it leaves open swallows the text up to the
  -- next placeholder
  induction slots generalizing values before with
  | nil =>
      obtain rfl := List.length_eq_zero_iff.mp count
      simp
  | cons slot rest ih =>
      obtain ⟨name, segment⟩ := slot
      obtain ⟨shut, bare⟩ := closed (name, segment) List.mem_cons_self
      obtain _ | ⟨value, values⟩ := values
      · cases count
      have shorter := unopened_length before
      have strictly : '[' ∈ before → (unopened before).length < before.length := unopened_shorter
      simp only [List.foldl_cons, List.map_cons, fill_cons, replace_captured clear shut,
        List.zip_cons_cons]
      -- the last value may hold a bracket, since no placeholder comes after it
      obtain _ | ⟨next, values⟩ := values
      · obtain rfl := List.length_eq_zero_iff.mp (Nat.succ.inj count).symm
        simp only [List.foldl_nil, List.map_nil, fill_nil, List.zip_nil_left, List.append_nil,
          List.length_append, List.dropLast_singleton, List.not_mem_nil, false_and, exists_false,
          or_false]
        exact ⟨by omega, fun opened => by have := strictly opened.2; omega⟩
      · rw [List.dropLast_cons_cons] at unclosed ⊢
        have later := ih (fun slot member => closed slot (List.mem_cons_of_mem _ member))
          (next :: values) (Nat.succ.inj count)
          (fun other member => unclosed other (List.mem_cons_of_mem _ member))
          (unopened before ++ value ++ segment) (by
            have cut : ']' ∉ unopened before :=
              fun member => clear ((List.takeWhile_prefix _).subset member)
            simp [cut, bare, unclosed value List.mem_cons_self])
        have some_left : rest ≠ [] := by
          rintro rfl
          cases count
        have shape : ∀ behind : Text, unopened before ++ value ++ (segment ++ behind) =
            unopened before ++ value ++ segment ++ behind := by simp
        rw [shape]
        simp only [List.length_append] at later ⊢
        obtain ⟨within, less⟩ := later
        refine ⟨by omega, ?_⟩
        -- something is lost here, or in the values behind
        rintro (⟨_, opened⟩ | ⟨other, member, opened⟩)
        · have := strictly opened
          omega
        · have fewer := less (by
            rcases List.mem_cons.mp member with rfl | further
            · exact Or.inl ⟨some_left, by simp [opened]⟩
            · exact Or.inr ⟨other, further, opened⟩)
          omega

def shut (definition : MessageDefinition) : Bool :=
  match layoutOf definition.template.toList with
  | some layout => decide (layout.text = definition.template.toList ∧
      layout.slots.length = definition.args.length ∧ ∀ text ∈ layout.segments, ']' ∉ text)
  | none => false

theorem registry_shut : ∀ definition ∈ messageRegistry, shut definition = true := by
  intro definition member
  rw [shut, registry_text member]
  revert definition
  decide +kernel

theorem shut_layout {definition : MessageDefinition} (member : definition ∈ messageRegistry) :
    ∃ layout : Layout, layout.text = definition.template.toList ∧
      layout.slots.length = definition.args.length ∧ ∀ text ∈ layout.segments, ']' ∉ text := by
  have checked := registry_shut definition member
  unfold shut at checked
  cases found : layoutOf definition.template.toList with
  | none => simp [found] at checked
  | some layout =>
      rw [found] at checked
      exact ⟨layout, of_decide_eq_true checked⟩

theorem unclosed_plain {definition : MessageDefinition} (member : definition ∈ messageRegistry)
    (args : List CpdlcArgument) (count : args.length = definition.args.length)
    (unclosed : ∀ arg ∈ args.dropLast, ']' ∉ displayArgument arg)
    (positional : Positional definition args) :
    ∀ arg ∈ args.dropLast, '[' ∉ displayArgument arg := by
  obtain ⟨layout, template, slots, bare⟩ := shut_layout member
  have placed := positional layout template (by rw [slots, count])
  intro arg earlier bracket
  have values : ∀ value ∈ (args.map displayArgument).dropLast, ']' ∉ value := by
    intro value given
    rw [← List.map_dropLast] at given
    obtain ⟨other, behind, rfl⟩ := List.mem_map.mp given
    exact unclosed other behind
  have short := (captured_length layout.slots
    (fun slot listed => ⟨(layout.plainSlots slot listed).1,
      bare _ (List.mem_cons_of_mem _ (List.mem_map_of_mem listed))⟩)
    (args.map displayArgument) (by rw [List.length_map, slots, count]) values layout.lead
    (bare _ List.mem_cons_self)).2
    (Or.inr ⟨displayArgument arg, by rw [← List.map_dropLast]; exact List.mem_map_of_mem earlier,
      bracket⟩)
  rw [render, ← template, Layout.text] at placed
  rw [placed] at short
  exact Nat.lt_irrefl _ short

end Captures

/-- Rendering is positional when no argument before the last opens a bracket. Where none of these
closes one, it is so in no other case; and earlier arguments of which one opens a bracket spoil
it for some last argument. -/
theorem positional_iff (definition : MessageDefinition) (member : definition ∈ messageRegistry) :
    (∀ args : List CpdlcArgument, (∀ arg ∈ args.dropLast, '[' ∉ displayArgument arg) →
      Positional definition args) ∧
    (∀ args : List CpdlcArgument, args.length = definition.args.length →
      (∀ arg ∈ args.dropLast, ']' ∉ displayArgument arg) →
      (Positional definition args ↔ ∀ arg ∈ args.dropLast, '[' ∉ displayArgument arg)) ∧
    ∀ earlier : List CpdlcArgument, earlier.length + 1 = definition.args.length →
      ((∀ last, Positional definition (earlier ++ [last])) ↔
        ∀ arg ∈ earlier, '[' ∉ displayArgument arg) := by
  refine ⟨positional_plain definition, ?_, ?_⟩
  · intro args count unclosed
    exact ⟨unclosed_plain member args count unclosed, positional_plain definition args⟩
  · intro earlier count
    constructor
    · exact earlier_plain member earlier count
    · intro plain last
      apply positional_plain
      simpa using plain

/-! A crossing restriction. -/

theorem positional_crossing :
    (∀ args : List CpdlcArgument, (∀ arg ∈ args.dropLast, '[' ∉ displayArgument arg) →
      Positional crossing args) ∧
    (∀ args : List CpdlcArgument, args.length = crossing.args.length →
      (∀ arg ∈ args.dropLast, ']' ∉ displayArgument arg) →
      (Positional crossing args ↔ ∀ arg ∈ args.dropLast, '[' ∉ displayArgument arg)) ∧
    ∀ earlier : List CpdlcArgument, earlier.length + 1 = crossing.args.length →
      ((∀ last, Positional crossing (earlier ++ [last])) ↔
        ∀ arg ∈ earlier, '[' ∉ displayArgument arg) :=
  positional_iff crossing (List.mem_of_find?_eq_some crossing_defined)

/-- The level is put into the bracket of the position, and the text between them is lost. -/
theorem level_in_position :
    findDefinition "UM46" = some crossing ∧
      render crossing [.position "A[B", .level ⟨350⟩] = "CROSS AFL350".toList ∧
      ¬ Positional crossing [.position "A[B", .level ⟨350⟩] := by
  refine ⟨crossing_defined, by decide +kernel, ?_⟩
  intro positional
  let layout : Layout := ⟨"CROSS ".toList,
    [("position".toList, " AT ".toList), ("level".toList, [])], by decide +kernel, by decide +kernel⟩
  have placed := positional layout (by decide +kernel) rfl
  revert placed
  decide +kernel

end OpenLink.PositionalRendering
