import Mathlib.Tactic.Common

/-!
Brackets in a list of tokens. A list closes so many levels when every bracket that
it opens is closed in it, and so many that were open before it.
-/
namespace OpenLink.Nesting

variable {Token : Type} [DecidableEq Token] (opening closing : Token)

def closes : Nat → List Token → Bool
  | depth, [] => depth == 0
  | depth, token :: rest =>
      if token = opening then closes (depth + 1) rest
      else if token = closing then decide (0 < depth) && closes (depth - 1) rest
      else closes depth rest

def Paired (tokens : List Token) : Prop := closes opening closing 0 tokens = true

instance (tokens : List Token) : Decidable (Paired opening closing tokens) :=
  inferInstanceAs (Decidable (_ = _))

def Plain (tokens : List Token) : Prop := opening ∉ tokens ∧ closing ∉ tokens

instance (tokens : List Token) : Decidable (Plain opening closing tokens) :=
  inferInstanceAs (Decidable (_ ∧ _))

theorem closes_plain {tokens : List Token} (plain : Plain opening closing tokens) (depth : Nat)
    (rest : List Token) :
    closes opening closing depth (tokens ++ rest) = closes opening closing depth rest := by
  induction tokens with
  | nil => rfl
  | cons token tokens ih =>
      obtain ⟨notOpening, notClosing⟩ := plain
      rw [List.mem_cons, not_or] at notOpening notClosing
      rw [List.cons_append, closes, if_neg (Ne.symm notOpening.1), if_neg (Ne.symm notClosing.1)]
      exact ih ⟨notOpening.2, notClosing.2⟩

/-- What closes its own levels leaves the others to the tokens behind it. -/
theorem closes_append {tokens : List Token} {depth : Nat}
    (closed : closes opening closing depth tokens = true) (outer : Nat) (rest : List Token) :
    closes opening closing (depth + outer) (tokens ++ rest) = closes opening closing outer rest := by
  induction tokens generalizing depth with
  | nil =>
      have none : depth = 0 := by simpa [closes] using closed
      rw [none, Nat.zero_add, List.nil_append]
  | cons token tokens ih =>
      rw [List.cons_append, closes]
      rw [closes] at closed
      split at closed
      next opens =>
        rw [if_pos opens, Nat.add_right_comm]
        exact ih closed
      next other =>
        rw [if_neg other]
        split at closed
        next ends =>
          obtain ⟨inside, later⟩ := Bool.and_eq_true_iff.mp closed
          have positive := of_decide_eq_true inside
          have shifted : depth + outer - 1 = depth - 1 + outer := Nat.sub_add_comm positive
          rw [if_pos ends, shifted, ih later, decide_eq_true (Nat.add_pos_left positive outer),
            Bool.true_and]
        next plain =>
          rw [if_neg plain]
          exact ih closed

theorem closes_openings (count depth : Nat) (rest : List Token) :
    closes opening closing depth (List.replicate count opening ++ rest) =
      closes opening closing (depth + count) rest := by
  induction count generalizing depth with
  | zero => rfl
  | succ count ih =>
      rw [List.replicate_succ, List.cons_append, closes, if_pos rfl, ih, Nat.add_right_comm,
        Nat.add_assoc]

theorem closes_closings (different : closing ≠ opening) (count : Nat) :
    closes opening closing count (List.replicate count closing) = true := by
  induction count with
  | zero => rfl
  | succ count ih =>
      rw [List.replicate_succ, closes, if_neg different, if_pos rfl, Nat.add_sub_cancel, ih]
      simp

theorem balanced_bracketed {tokens : List Token} (different : closing ≠ opening)
    (balanced : Paired opening closing tokens) :
    Paired opening closing (opening :: (tokens ++ [closing])) := by
  have closed := closes_append opening closing balanced 1 [closing]
  rw [Nat.zero_add] at closed
  rw [Paired, closes, if_pos rfl, closed, closes, if_neg different, if_pos rfl]
  rfl

end OpenLink.Nesting
