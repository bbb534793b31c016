import Mathlib.Data.List.Forall2
import Mathlib.Tactic.Common

/-!
Patterns over names that are lists of tokens. One token of a pattern stands for
any single token, another one, at the end of a pattern, for one token or more;
every other token stands for itself.
-/
namespace OpenLink.SubjectPatterns

variable {Token : Type} (one more : Token)

def Stands (piece token : Token) : Prop := piece = one ∨ piece = token

/-- Token by token, or up to a last token that stands for all the others. -/
def Covers (pattern subject : List Token) : Prop :=
  List.Forall₂ (Stands one) pattern subject ∨
    ∃ front matched rest, pattern = front ++ [more] ∧ subject = matched ++ rest ∧ rest ≠ [] ∧
      List.Forall₂ (Stands one) front matched

/-- A pattern in which every token stands for itself. -/
def Literal (pattern : List Token) : Prop :=
  one ∉ pattern ∧ pattern.getLast? ≠ some more

theorem stands_itself (pattern subject : List Token) (plain : one ∉ pattern)
    (matched : List.Forall₂ (Stands one) pattern subject) : pattern = subject := by
  induction matched with
  | nil => rfl
  | cons stands _ ih =>
      rw [List.mem_cons, not_or] at plain
      rcases stands with wild | same
      · exact absurd wild.symm plain.1
      · rw [same, ih plain.2]

variable [DecidableEq Token]

def covers : List Token → List Token → Bool
  | [], subject => subject.isEmpty
  | _ :: _, [] => false
  | piece :: pieces, token :: tokens =>
      (decide (piece = more) && pieces.isEmpty) ||
        ((decide (piece = one) || decide (piece = token)) && covers pieces tokens)

theorem covers_iff (pattern subject : List Token) :
    covers one more pattern subject = true ↔ Covers one more pattern subject := by
  induction pattern generalizing subject with
  | nil => cases subject <;> simp [covers, Covers]
  | cons piece pieces ih =>
      cases subject with
      | nil => simp [covers, Covers]
      | cons token tokens =>
          simp only [covers, Bool.or_eq_true, Bool.and_eq_true, decide_eq_true_eq,
            List.isEmpty_iff, ih]
          constructor
          · rintro (⟨same, empty⟩ | ⟨stands, matched | ⟨front, matched, rest, split, found⟩⟩)
            · exact .inr ⟨[], [], token :: tokens, by simp [same, empty], rfl, by simp, .nil⟩
            · exact .inl (.cons stands matched)
            · refine .inr ⟨piece :: front, token :: matched, rest, by simp [split],
                by simp [found.1], found.2.1, .cons stands found.2.2⟩
          · rintro (matched | ⟨front, matched, rest, split, same, some, every⟩)
            · cases matched with
              | cons stands matched => exact .inr ⟨stands, .inl matched⟩
            · -- the last token of the pattern is either its first one or stands further back
              cases every with
              | nil =>
                  rw [List.nil_append, List.cons.injEq] at split
                  exact .inl split
              | cons stands every =>
                  rw [List.cons_append, List.cons.injEq] at split same
                  rw [split.1, same.1]
                  exact .inr ⟨stands, .inr ⟨_, _, rest, split.2, same.2, some, every⟩⟩

/-- A common beginning decides nothing, as long as the pattern goes on behind it. -/
theorem covers_common (start pattern subject : List Token) (further : pattern ≠ []) :
    covers one more (start ++ pattern) (start ++ subject) = covers one more pattern subject := by
  induction start with
  | nil => rfl
  | cons token rest ih =>
      have open' : (rest ++ pattern).isEmpty = false := by simp [further]
      simp [covers, ih, open']

theorem covers_apart (start pattern subject : List Token) (piece token : Token)
    (plain : piece ≠ one) (apart : piece ≠ token) (further : pattern ≠ []) :
    covers one more (start ++ piece :: pattern) (start ++ token :: subject) = false := by
  rw [covers_common one more start _ _ (by simp)]
  simp [covers, plain, apart, further]

theorem literal_covers (pattern subject : List Token) (literal : Literal one more pattern) :
    covers one more pattern subject = true ↔ pattern = subject := by
  rw [covers_iff]
  constructor
  · rintro (matched | ⟨front, _, _, split, _⟩)
    · exact stands_itself one pattern subject literal.1 matched
    · exact absurd (by simp [split]) literal.2
  · rintro rfl
    exact .inl (List.forall₂_same.mpr fun token _ => .inr rfl)

def replaced (fresh : Token) (pattern : List Token) : List Token :=
  if one ∈ pattern then pattern.map fun token => if token = one then fresh else token
  else pattern.dropLast ++ [fresh]

theorem replaced_fresh (fresh : Token) (pattern : List Token) :
    fresh ∈ replaced one fresh pattern := by
  unfold replaced
  split
  next single => exact List.mem_map.mpr ⟨one, single, if_pos rfl⟩
  next => simp

theorem replaced_member (fresh : Token) (pattern : List Token) (token : Token)
    (member : token ∈ replaced one fresh pattern) : token = fresh ∨ token ∈ pattern := by
  unfold replaced at member
  split at member
  · obtain ⟨before, listed, same⟩ := List.mem_map.mp member
    split at same
    · exact .inl same.symm
    · exact .inr (same ▸ listed)
  · rcases List.mem_append.mp member with earlier | last
    · exact .inr (List.dropLast_subset pattern earlier)
    · exact .inl (List.mem_singleton.mp last)

/-- A pattern with a wildcard covers a subject besides itself. -/
theorem replaced_covered (fresh : Token) (pattern : List Token) (new : fresh ≠ one)
    (other : fresh ≠ more) (wild : ¬ Literal one more pattern) :
    covers one more pattern (replaced one fresh pattern) = true ∧
      replaced one fresh pattern ≠ pattern := by
  rw [covers_iff]
  by_cases single : one ∈ pattern
  · rw [replaced, if_pos single]
    constructor
    · refine .inl (List.forall₂_map_right_iff.mpr (List.forall₂_same.mpr fun token _ => ?_))
      by_cases wildcard : token = one
      · exact .inl wildcard
      · exact .inr (by simp [wildcard])
    · intro same
      have kept := List.map_inj_left.mp (same.trans (List.map_id pattern).symm) one single
      rw [if_pos rfl] at kept
      exact new kept
  · rw [replaced, if_neg single]
    have last : pattern.getLast? = some more := by
      by_contra literal
      exact wild ⟨single, literal⟩
    have whole : pattern = pattern.dropLast ++ [more] :=
      (List.dropLast_append_getLast? more last).symm
    constructor
    · exact .inr ⟨pattern.dropLast, pattern.dropLast, [fresh], whole, rfl, by simp,
        List.forall₂_same.mpr fun _ _ => .inr rfl⟩
    · intro same
      rw [whole, List.dropLast_concat] at same
      exact other (by simpa using same)

end OpenLink.SubjectPatterns
