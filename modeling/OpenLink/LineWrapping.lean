import Mathlib.Data.List.Basic
import Mathlib.Tactic.Common

/-!
The greedy wrap of words into lines of a fixed width. A word goes to the line before it if it
fits there behind a separator, and otherwise to a line of its own; a word that is too long is cut
beforehand.
-/
namespace OpenLink.LineWrapping

variable {Token : Type} (blank : Token) (width : Nat)

def joined (line : List (List Token)) : List Token := List.intercalate [blank] line

/-- The lines from this one on, when these words are still to come. -/
def fillLines : List (List Token) → List (List Token) → List (List (List Token))
  | line, [] => if line = [] then [] else [line]
  | line, word :: rest =>
      if line = [] ∨ (joined blank (line ++ [word])).length ≤ width then
        fillLines (line ++ [word]) rest
      else line :: fillLines [word] rest

def wrap (words : List (List Token)) : List (List (List Token)) := fillLines blank width [] words

/-- Pieces of the full width, and what is left. -/
def pieces (word : List Token) : List (List Token) :=
  if 0 < width ∧ width < word.length then word.take width :: pieces (word.drop width) else [word]
termination_by word.length

/-! Words with separators between them. -/
section Joining

@[simp] theorem joined_nil : joined blank [] = [] := rfl

@[simp] theorem joined_singleton (word : List Token) : joined blank [word] = word :=
  List.intercalate_singleton

theorem joined_snoc {line : List (List Token)} (begun : line ≠ []) (word : List Token) :
    joined blank (line ++ [word]) = joined blank line ++ blank :: word := by
  unfold joined
  induction line with
  | nil => contradiction
  | cons first rest ih =>
      cases rest with
      | nil => simp [List.intercalate_cons_cons]
      | cons next more =>
          have later := ih (List.cons_ne_nil next more)
          rw [List.cons_append] at later
          simp [List.intercalate_cons_cons, later]

theorem joined_longer (line : List (List Token)) (word : List Token) :
    word.length ≤ (joined blank (line ++ [word])).length ∧
      (line ≠ [] → (joined blank line).length + 1 + word.length =
        (joined blank (line ++ [word])).length) := by
  by_cases begun : line = []
  · simp [begun]
  · rw [joined_snoc blank begun, List.length_append, List.length_cons]
    exact ⟨by omega, fun _ => by omega⟩

end Joining

section Pieces
variable {width}

theorem pieces_short {word : List Token} (short : word.length ≤ width) :
    pieces width word = [word] := by
  rw [pieces, if_neg fun long => Nat.not_lt.mpr short long.2]

theorem pieces_long (positive : 0 < width) {word : List Token} (long : width < word.length) :
    pieces width word = word.take width :: pieces width (word.drop width) := by
  rw [pieces, if_pos ⟨positive, long⟩]

theorem pieces_bounds (positive : 0 < width) {word : List Token} (nonempty : word ≠ []) :
    ∀ piece ∈ pieces width word, piece ≠ [] ∧ piece.length ≤ width ∧ piece ⊆ word := by
  induction word using pieces.induct width with
  | case1 word long ih =>
      rw [pieces_long positive long.2]
      have first : 0 < (word.take width).length := by
        rw [List.length_take]
        omega
      have left : word.drop width ≠ [] := by
        rw [ne_eq, List.drop_eq_nil_iff, Nat.not_le]
        exact long.2
      intro piece member
      rcases List.mem_cons.mp member with rfl | later
      · exact ⟨List.ne_nil_of_length_pos first, List.length_take_le _ _, List.take_subset _ _⟩
      · obtain ⟨whole, fits, within⟩ := ih left piece later
        exact ⟨whole, fits, List.Subset.trans within (List.drop_subset _ _)⟩
  | case2 word short =>
      have fits : word.length ≤ width := by omega
      rw [pieces_short fits]
      intro piece member
      rw [List.mem_singleton.mp member]
      exact ⟨nonempty, fits, List.Subset.refl _⟩

end Pieces

/-! The lines hold the words in order, and each fits. -/
section Lines

theorem fill_lines_flatten (line words : List (List Token)) :
    (fillLines blank width line words).flatten = line ++ words := by
  induction words generalizing line with
  | nil =>
      rw [fillLines]
      split
      · next done => simp [done]
      · simp
  | cons word rest ih =>
      rw [fillLines]
      split
      · rw [ih, List.append_assoc, List.singleton_append]
      · rw [List.flatten_cons, ih, List.singleton_append]

theorem wrap_flatten (words : List (List Token)) : (wrap blank width words).flatten = words :=
  fill_lines_flatten blank width [] words

theorem fill_lines_fit (line words : List (List Token))
    (begun : (joined blank line).length ≤ width) (short : ∀ word ∈ words, word.length ≤ width) :
    ∀ other ∈ fillLines blank width line words, (joined blank other).length ≤ width := by
  induction words generalizing line with
  | nil =>
      rw [fillLines]
      split
      · simp
      · simpa using begun
  | cons word rest ih =>
      have first := short word List.mem_cons_self
      have later := fun other member => short other (List.mem_cons_of_mem word member)
      rw [fillLines]
      split
      · next room =>
        apply ih _ _ later
        rcases room with rfl | fits
        · simpa using first
        · exact fits
      · intro other member
        rcases List.mem_cons.mp member with rfl | behind
        · exact begun
        · exact ih [word] (by simpa using first) later other behind

theorem wrap_fit {words : List (List Token)} (short : ∀ word ∈ words, word.length ≤ width) :
    ∀ line ∈ wrap blank width words, (joined blank line).length ≤ width :=
  fill_lines_fit blank width [] words (Nat.zero_le _) short

/-- A word of the full width has a line of its own. -/
theorem fill_lines_full (line : List (List Token)) {word : List Token} (full : word.length = width)
    (rest : List (List Token)) :
    fillLines blank width line (word :: rest) =
      (if line = [] then [] else [line]) ++ [word] :: fillLines blank width [] rest := by
  have alone : fillLines blank width [word] rest = [word] :: fillLines blank width [] rest := by
    cases rest with
    | nil => simp [fillLines]
    | cons next more =>
        have wide := (joined_longer blank [word] next).2 (List.cons_ne_nil _ _)
        rw [joined_singleton] at wide
        have narrow : ¬ ([word] = [] ∨ (joined blank ([word] ++ [next])).length ≤ width) := by
          rw [not_or]
          exact ⟨List.cons_ne_nil _ _, by omega⟩
        rw [fillLines, if_neg narrow]
        conv_rhs => rw [fillLines, if_pos (.inl rfl), List.nil_append]
  rw [fillLines]
  by_cases fresh : line = []
  · rw [if_pos (.inl fresh), fresh, List.nil_append, alone]
    rfl
  · have wide := (joined_longer blank line word).2 fresh
    have narrow : ¬ (line = [] ∨ (joined blank (line ++ [word])).length ≤ width) := by
      rw [not_or]
      exact ⟨fresh, by omega⟩
    rw [if_neg narrow, if_neg fresh, alone]
    rfl

end Lines

end OpenLink.LineWrapping
