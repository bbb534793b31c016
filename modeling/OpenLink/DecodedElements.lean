import OpenLink.TextRoundTrip

/-!
What decoding a text makes sure of: the element is one of the catalog, with the
arguments its definition declares. A level that cannot be read stays as free text.
-/
namespace OpenLink.DecodedElements
open Cpdlc MessageRegistry Rendering Selection Templates TextRoundTrip Texts Translator

/-! Every value is a stretch of the body. -/
section Values

theorem remaining_within (segments : List Text) (remaining value : Text)
    (extracted : value ∈ extractRemaining segments remaining) : value <:+: remaining := by
  induction segments generalizing remaining with
  | nil => cases extracted
  | cons segment rest ih =>
      rw [extractRemaining] at extracted
      split at extracted
      · rcases List.mem_cons.mp extracted with rfl | later
        · exact trim_within remaining
        · exact (ih [] later).trans List.nil_infix
      · split at extracted
        next before after found =>
          obtain ⟨front, back⟩ := split_once_within found
          rcases List.mem_cons.mp extracted with rfl | later
          · exact (trim_within before).trans front
          · exact (ih _ later).trans ((trim_start_within after).trans back)
        next =>
          rw [List.mem_singleton.mp extracted]
          exact trim_within remaining

theorem values_within (segments : List Text) (body value : Text)
    (extracted : value ∈ extractValuesBetweenSegments body segments) : value <:+: body := by
  cases segments with
  | nil => cases extracted
  | cons lead rest =>
      rw [extractValuesBetweenSegments] at extracted
      split at extracted
      · exact remaining_within rest body value extracted
      · split at extracted
        next after opened =>
          have whole := List.isPrefixOf?_eq_some_iff_append_eq.mp opened
          have back : after <:+: body := ⟨trimEnd lead, [], by rw [← whole]; simp⟩
          exact (remaining_within rest _ value extracted).trans
            ((trim_start_within after).trans back)
        next => cases extracted

end Values

/-! The definition behind a decoded element. -/
section Chosen

def valuesOf (body : Text) (definition : MessageDefinition) : List Text :=
  extractValuesBetweenSegments body (splitTemplate definition.template.toList)

/-- What a template that matches says of the body. -/
theorem matched_cases {body : Text} {definition : MessageDefinition}
    {args : List CpdlcArgument} (matched : tryMatchTemplate body definition = some args) :
    (definition.args = [] ∧ args = [] ∧ eqIgnoreAsciiCase body definition.template.toList) ∨
      (definition.args ≠ [] ∧ (valuesOf body definition).length = definition.args.length ∧
        [] ∉ valuesOf body definition ∧
        args = ((valuesOf body definition).zip definition.args).map
          fun item => textToArgument item.1 item.2) := by
  rw [tryMatchTemplate] at matched
  split at matched
  next bare =>
    split at matched
    next same => exact .inl ⟨bare, (Option.some.inj matched).symm, same⟩
    next => cases matched
  next slotted =>
    dsimp only at matched
    split at matched
    next => cases matched
    next counted =>
      split at matched
      next => cases matched
      next full =>
        exact .inr ⟨slotted, not_not.mp counted, full, (Option.some.inj matched).symm⟩

/-- The element is that of a definition that matches, without a rival that does; only a
blank body is matched by none. -/
theorem decoded_cases (body : Text) (direction : MessageDirection) :
    (∃ definition ∈ messageRegistry, ∃ args, definition.direction = direction ∧
        tryMatchTemplate (trim body) definition = some args ∧
        Unrivalled definition (trim body) ∧
        matchBodyToElement body direction = (definition.id, args)) ∨
      (trim body = [] ∧
        (∀ definition ∈ messageRegistry, definition.direction = direction →
          tryMatchTemplate (trim body) definition = none) ∧
        matchBodyToElement body direction = (fallbackId direction, [.freeText ""])) := by
  cases chosen : choose (fun found : MessageDefinition × List CpdlcArgument => specificity found.1)
      (matching (trim body) direction messageRegistry) with
  | some found =>
      obtain ⟨definition, args⟩ := found
      obtain ⟨member, facing, matched⟩ := mem_matching.mp (choose_mem _ chosen)
      have alone : Unrivalled definition (trim body) := by
        apply (chosen_iff member matched).mp
        rw [facing]
        exact chosen
      refine .inl ⟨definition, member, args, facing, matched, alone, ?_⟩
      simp only [matchBodyToElement, chosen]
  | none =>
      have unmatched : ∀ definition ∈ messageRegistry, definition.direction = direction →
          tryMatchTemplate (trim body) definition = none := by
        intro definition member facing
        by_contra matched
        obtain ⟨args, matched⟩ := Option.ne_none_iff_exists'.mp matched
        have present : (definition, args) ∈ matching (trim body) direction messageRegistry :=
          mem_matching.mpr ⟨member, facing, matched⟩
        obtain ⟨best, held⟩ := choose_some (fun found : MessageDefinition × List CpdlcArgument =>
          specificity found.1) (List.ne_nil_of_mem present)
        rw [chosen] at held
        cases held
      -- a free text takes every body but the blank one
      have blank : trim body = [] := by
        by_contra nonempty
        obtain ⟨free, listed, facing, matched⟩ :=
          free_text_matches direction nonempty (trim_trim body)
        rw [unmatched free listed facing] at matched
        cases matched
      refine .inr ⟨blank, unmatched, ?_⟩
      simp only [matchBodyToElement, chosen]
      rw [blank]

end Chosen

/-! The arguments and the types declared for them. -/
section Arguments

/-- The argument has the type, or the type is a level and the argument the text of the
body that stands in its place and is not one. -/
def Declared (body : Text) (arg : CpdlcArgument) (argType : ArgType) : Prop :=
  arg.argType = argType ∨
    (argType = .level ∧ ∃ value, value <:+: body ∧ parseLevel value = none ∧
      arg = .freeText (String.ofList value))

theorem text_declared {body value : Text} (within : value <:+: body) (argType : ArgType) :
    Declared body (textToArgument value argType) argType := by
  cases argType with
  | level =>
      cases parsed : parseLevel value with
      | some level =>
          left
          simp only [textToArgument, parsed, CpdlcArgument.argType]
      | none =>
          right
          exact ⟨rfl, value, within, parsed, by simp only [textToArgument, parsed]⟩
  | degrees =>
      left
      simp only [textToArgument]
      split <;> rfl
  | _ => exact .inl rfl

theorem texts_declared {body : Text} (values : List Text) (within : ∀ value ∈ values, value <:+: body)
    (argTypes : List ArgType) (counted : values.length = argTypes.length) :
    List.Forall₂ (Declared body)
      ((values.zip argTypes).map fun item => textToArgument item.1 item.2) argTypes := by
  induction values generalizing argTypes with
  | nil =>
      obtain rfl := List.length_eq_zero_iff.mp counted.symm
      exact .nil
  | cons value rest ih =>
      cases argTypes with
      | nil => cases counted
      | cons argType argTypes =>
          rw [List.zip_cons_cons, List.map_cons]
          constructor
          · exact text_declared (within value (by simp)) argType
          · exact ih (fun value member => within value (by simp [member])) argTypes
              (by simpa using counted)

theorem fallback_declared (direction : MessageDirection) :
    ∃ definition ∈ messageRegistry, definition.direction = direction ∧
      definition.id = fallbackId direction ∧ definition.args = [.freeText] := by
  cases direction with
  | uplink =>
      exact ⟨⟨"UM169", .uplink, "[free text]", [.freeText], .R⟩, by simp [messageRegistry],
        rfl, rfl, rfl⟩
  | downlink =>
      exact ⟨⟨"DM67", .downlink, "[free text]", [.freeText], .R⟩, by simp [messageRegistry],
        rfl, rfl, rfl⟩

/-- Every body is decoded to an element of the catalog for its direction, with one
argument for each that is declared. -/
theorem decoded_catalogued (body : Text) (direction : MessageDirection) :
    ∃ definition ∈ messageRegistry, definition.direction = direction ∧
      findDefinition (matchBodyToElement body direction).1 = some definition ∧
      List.Forall₂ (Declared body) (matchBodyToElement body direction).2 definition.args := by
  rcases decoded_cases body direction with
    ⟨definition, member, args, facing, matched, _, decoded⟩ | ⟨_, _, decoded⟩
  · refine ⟨definition, member, facing, ?_, ?_⟩
    · rw [decoded]
      exact find_definition_of_mem definition member
    · rw [decoded]
      rcases matched_cases matched with ⟨bare, rfl, _⟩ | ⟨_, counted, _, rfl⟩
      · rw [bare]
        exact .nil
      · apply texts_declared _ _ _ counted
        intro value extracted
        exact (values_within _ _ value extracted).trans (trim_within body)
  · obtain ⟨definition, member, facing, named, declared⟩ := fallback_declared direction
    refine ⟨definition, member, facing, ?_, ?_⟩
    · rw [decoded, ← named]
      exact find_definition_of_mem definition member
    · rw [decoded, declared]
      exact .cons (.inl rfl) .nil

/-- A climb to something that is no level: the argument is a free text. -/
theorem unread_level :
    matchBodyToElement "CLIMB TO ABC".toList .uplink = ("UM20", [.freeText "ABC"]) ∧
      ¬ ∃ definition ∈ messageRegistry,
        definition.id = (matchBodyToElement "CLIMB TO ABC".toList .uplink).1 ∧
        definition.args =
          (matchBodyToElement "CLIMB TO ABC".toList .uplink).2.map CpdlcArgument.argType := by
  have decoded : matchBodyToElement "CLIMB TO ABC".toList .uplink =
      ("UM20", [.freeText "ABC"]) := by
    decide +kernel
  refine ⟨decoded, ?_⟩
  rw [decoded]
  decide +kernel

end Arguments

end OpenLink.DecodedElements
