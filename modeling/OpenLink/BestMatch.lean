import OpenLink.Translator

/-!
The scan for the best template. The loop over the registry keeps the best match so far and
replaces it only by one that is more specific, so that the first of the best remains; the free
text is for a body that no template takes.
-/
namespace OpenLink.BestMatch
open Cpdlc MessageRegistry Selection Texts Translator

abbrev Match := MessageDefinition × List CpdlcArgument

def score (found : Match) : Nat := specificity found.1

section Loop
variable (body : Text) (direction : MessageDirection)

def matchOf (definition : MessageDefinition) : Option Match :=
  if definition.direction = direction then
    (tryMatchTemplate body definition).map fun args => (definition, args)
  else none

/-- The loop of `match_body_to_element`. -/
def bestMatch : Option Match := messageRegistry.foldl (scan score (matchOf body direction)) none

variable {body direction}

theorem match_of_iff {definition : MessageDefinition} {found : Match} :
    matchOf body direction definition = some found ↔
      definition.direction = direction ∧ tryMatchTemplate body definition = some found.2 ∧
        definition = found.1 := by
  unfold matchOf
  by_cases facing : definition.direction = direction
  · rw [if_pos facing, Option.map_eq_some_iff]
    constructor
    · rintro ⟨args, matched, rfl⟩
      exact ⟨facing, matched, rfl⟩
    · rintro ⟨_, matched, rfl⟩
      exact ⟨found.2, matched, rfl⟩
  · simp [facing]

theorem match_of_none {definition : MessageDefinition} :
    matchOf body direction definition = none ↔
      (definition.direction = direction → tryMatchTemplate body definition = none) := by
  unfold matchOf
  by_cases facing : definition.direction = direction
  · simp [facing]
  · simp [facing]

/-- The loop decides as the choice among all matches does. -/
theorem best_match_choose :
    bestMatch body direction = choose score (matching body direction messageRegistry) := by
  have given : matching body direction messageRegistry =
      messageRegistry.filterMap (matchOf body direction) := by
    rw [matching, List.filterMap_filter]
    congr 1
    funext definition
    simp [matchOf]
  rw [bestMatch, scan_choose, given]

end Loop

/-- Of the definitions of the direction that match, those in front of this one are less specific
and those behind it no more. -/
structure FirstBestMatch (body : Text) (direction : MessageDirection)
    (before : List MessageDefinition) (definition : MessageDefinition)
    (after : List MessageDefinition) (args : List CpdlcArgument) : Prop where
  listed : messageRegistry = before ++ definition :: after
  facing : definition.direction = direction
  matched : tryMatchTemplate body definition = some args
  below : ∀ other ∈ before, other.direction = direction →
    (tryMatchTemplate body other).isSome = true → specificity other < specificity definition
  above : ∀ other ∈ after, other.direction = direction →
    (tryMatchTemplate body other).isSome = true → specificity other ≤ specificity definition

def Unmatched (body : Text) (direction : MessageDirection) : Prop :=
  ∀ definition ∈ messageRegistry, definition.direction = direction →
    tryMatchTemplate body definition = none

section Chosen
variable (body : Text) (direction : MessageDirection)

theorem best_match_none_iff : bestMatch body direction = none ↔ Unmatched body direction := by
  rw [bestMatch, scan_choose, choose_none_iff, List.filterMap_eq_nil_iff]
  exact forall₂_congr fun definition _ => match_of_none

theorem first_given_matches (before after : List MessageDefinition) (found : Match) :
    FirstGiven score (matchOf body direction) before found after ↔
      (∀ other ∈ before, other.direction = direction →
        (tryMatchTemplate body other).isSome = true → specificity other < specificity found.1) ∧
      ∀ other ∈ after, other.direction = direction →
        (tryMatchTemplate body other).isSome = true → specificity other ≤ specificity found.1 := by
  have given (bound : Nat → Prop) (other : MessageDefinition) :
      (∀ item, matchOf body direction other = some item → bound (score item)) ↔
        (other.direction = direction → (tryMatchTemplate body other).isSome = true →
          bound (specificity other)) := by
    constructor
    · intro bounded facing matched
      obtain ⟨args, matched⟩ := Option.isSome_iff_exists.mp matched
      exact bounded (other, args) (match_of_iff.mpr ⟨facing, matched, rfl⟩)
    · rintro bounded item item_given
      obtain ⟨facing, matched, rfl⟩ := match_of_iff.mp item_given
      exact bounded facing (Option.isSome_iff_exists.mpr ⟨_, matched⟩)
  unfold FirstGiven
  exact and_congr (forall₂_congr fun other _ => given (· < score found) other)
    (forall₂_congr fun other _ => given (· ≤ score found) other)

theorem best_match_some_iff (definition : MessageDefinition) (args : List CpdlcArgument) :
    bestMatch body direction = some (definition, args) ↔
      ∃ before after, FirstBestMatch body direction before definition after args := by
  rw [bestMatch, scan_choose, choose_given_iff]
  constructor
  · rintro ⟨before, source, after, listed, given, first⟩
    obtain ⟨facing, matched, rfl⟩ := match_of_iff.mp given
    obtain ⟨below, above⟩ := (first_given_matches body direction _ _ _).mp first
    exact ⟨before, after, listed, facing, matched, below, above⟩
  · rintro ⟨before, after, first⟩
    exact ⟨before, definition, after, first.listed,
      match_of_iff.mpr ⟨first.facing, first.matched, rfl⟩,
      (first_given_matches body direction _ _ _).mpr ⟨first.below, first.above⟩⟩

end Chosen

/-- The element is that of the first of the most specific matches, and the free text exactly when
nothing matches. -/
theorem match_body_best (body : Text) (direction : MessageDirection) :
    (bestMatch (trim body) direction = none ↔ Unmatched (trim body) direction) ∧
      (∀ definition args, bestMatch (trim body) direction = some (definition, args) ↔
        ∃ before after, FirstBestMatch (trim body) direction before definition after args) ∧
      matchBodyToElement body direction =
        match bestMatch (trim body) direction with
        | some (definition, args) => (definition.id, args)
        | none => (fallbackId direction, [.freeText (String.ofList (trim body))]) := by
  refine ⟨best_match_none_iff _ _, best_match_some_iff _ _, ?_⟩
  rw [best_match_choose]
  rfl

end OpenLink.BestMatch
