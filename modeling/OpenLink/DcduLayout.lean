import OpenLink.LineWrapping
import OpenLink.Words

/-!
The text of a message on the display of the aircraft: four lines of twenty-four columns. The upper
case of a character is a parameter, as it is that of Unicode.
-/
namespace OpenLink.DcduLayout
open LineWrapping Texts Words

structure Pending where
  lines : List Text
  current : Text

def push (pending : Pending) : List Text :=
  if pending.current = [] then pending.lines else pending.lines ++ [trimEnd pending.current]

def pushHead (pending : Pending) (word : Text) : List Text := push pending ++ [word.take 24]

/-- The loop over a word that is too long, which returns once there are four lines. -/
def cutWord (pending : Pending) (word : Text) : Except (List Text) (Pending × Text) :=
  if 24 < word.length then
    if 4 ≤ (pushHead pending word).length then .error (pushHead pending word)
    else cutWord ⟨pushHead pending word, []⟩ (word.drop 24)
  else .ok (pending, word)
termination_by word.length

def candidateLen (current word : Text) : Nat :=
  if current = [] then word.length else current.length + 1 + word.length

def placeWord (pending : Pending) (word : Text) : Pending :=
  if 24 < candidateLen pending.current word then
    ⟨pending.lines ++ [trimEnd pending.current], word⟩
  else
    let opened := if pending.current = [] then pending.current else pending.current ++ [' ']
    ⟨pending.lines, opened ++ word⟩

def finish (pending : Pending) : List Text :=
  if pending.lines.length < 4 then push pending else pending.lines

section Wrap
variable (upper : Char → Text)

def toUppercase (word : Text) : Text := word.flatMap upper

def wrapWords : Pending → List Text → List Text
  | pending, [] => finish pending
  | pending, rawWord :: rest =>
      match cutWord pending (toUppercase upper rawWord) with
      | .error lines => lines
      | .ok (pending, word) =>
          let placed := placeWord pending word
          if 4 ≤ placed.lines.length then finish placed else wrapWords placed rest

def padded (line : Text) : Text := line ++ List.replicate (24 - line.length) ' '

def dcduWrap24x4 (text : Text) : List Text :=
  let lines := wrapWords upper ⟨[], []⟩ (words text)
  (List.range 4).map fun row => padded (lines.getD row [])

def shownWords (text : Text) : List Text :=
  (words text).flatMap fun word => pieces 24 (toUppercase upper word)

end Wrap

def SolidCase (upper : Char → Text) : Prop :=
  ∀ char, isWhitespace char = false →
    upper char ≠ [] ∧ ∀ written ∈ upper char, isWhitespace written = false

def SolidWord (word : Text) : Prop := word ≠ [] ∧ ∀ char ∈ word, isWhitespace char = false

abbrev line (parts : List Text) : Text := joined ' ' parts

/-! Lines of words. -/
section Lines

theorem line_nonempty {parts : List Text} (solid : ∀ word ∈ parts, SolidWord word) :
    line parts = [] ↔ parts = [] := by
  constructor
  · intro empty
    rcases List.eq_nil_or_concat parts with rfl | ⟨front, last, rfl⟩
    · rfl
    · rw [List.concat_eq_append] at empty solid
      have long := (joined_longer ' ' front last).1
      rw [show joined ' ' (front ++ [last]) = [] from empty] at long
      have nonempty := (solid last (by simp)).1
      exact absurd (List.length_eq_zero_iff.mp (Nat.le_zero.mp long)) nonempty
  · rintro rfl
    rfl

theorem line_trimmed {parts : List Text} (solid : ∀ word ∈ parts, SolidWord word) :
    trimEnd (line parts) = line parts := by
  rcases List.eq_nil_or_concat parts with rfl | ⟨front, last, rfl⟩
  · rfl
  · rw [List.concat_eq_append] at solid ⊢
    obtain ⟨nonempty, white⟩ := solid last (by simp)
    have kept := trim_end_trimmed (trim_solid white)
    by_cases begun : front = []
    · subst begun
      simpa using kept
    · have shape : line (front ++ [last]) = line front ++ [' '] ++ last := by
        rw [line, joined_snoc ' ' begun]
        simp
      rw [shape]
      exact trim_end_append nonempty kept _

/-- The words of a line on the display are those that were put into it. -/
theorem words_line {parts : List Text} (solid : ∀ word ∈ parts, SolidWord word) :
    words (line parts) = parts := by
  induction parts using List.reverseRecOn with
  | nil => rfl
  | append_singleton front last ih =>
      obtain ⟨nonempty, white⟩ := solid last (by simp)
      have earlier := ih fun word member => solid word (by simp [member])
      by_cases begun : front = []
      · subst begun
        simpa using words_solid nonempty white
      · rw [line, joined_snoc ' ' begun, words_between _ _ (by decide), earlier,
          words_solid nonempty white]

theorem words_padded (text : Text) : words (padded text) = words text := by
  have white : ∀ count, ∀ char ∈ List.replicate count ' ', isWhitespace char = true := by
    intro count char member
    rw [List.eq_of_mem_replicate member]
    decide
  unfold padded
  cases 24 - text.length with
  | zero => simp
  | succ count =>
      rw [List.replicate_succ, words_between _ _ (by decide), words_white (white count),
        List.append_nil]

theorem words_letters {text : Text} (white : ∀ char ∈ text, isWhitespace char = false) :
    ∀ word ∈ words text, SolidWord word := by
  intro word member
  by_cases empty : text = []
  · rw [empty, words_nil] at member
    cases member
  · rw [words_solid empty white, List.mem_singleton] at member
    rw [member]
    exact ⟨empty, white⟩

theorem words_behind (lead text : Text) (white : ∀ char ∈ lead, isWhitespace char = false) :
    ∀ word ∈ words (lead ++ text), SolidWord word := by
  induction text generalizing lead with
  | nil =>
      rw [List.append_nil]
      exact words_letters white
  | cons char rest ih =>
      by_cases blank : isWhitespace char = true
      · rw [words_between lead rest blank]
        intro word member
        rcases List.mem_append.mp member with here | behind
        · exact words_letters white word here
        · exact ih [] (by simp) word behind
      · have longer : ∀ other ∈ lead ++ [char], isWhitespace other = false :=
          List.forall_mem_append.mpr ⟨white, by simpa using blank⟩
        simpa using ih (lead ++ [char]) longer

end Lines

/-! What the loops make of the words, in terms of the lines of the wrap. -/
section Loops

structure Holds (pending : Pending) (parts : List Text) : Prop where
  current : pending.current = line parts
  solid : ∀ word ∈ parts, SolidWord word

theorem holds_fresh (lines : List Text) : Holds ⟨lines, []⟩ [] := ⟨rfl, by simp⟩

/-- All lines that would be shown, if there were room for them. -/
def outlook (pending : Pending) (parts words : List Text) : List Text :=
  pending.lines ++ (fillLines ' ' 24 parts words).map line

theorem push_outlook {pending : Pending} {parts : List Text} (holds : Holds pending parts) :
    push pending = outlook pending parts [] := by
  unfold push outlook fillLines
  rw [holds.current, line_trimmed holds.solid]
  by_cases begun : parts = []
  · rw [if_pos begun, if_pos ((line_nonempty holds.solid).mpr begun)]
    simp
  · rw [if_neg begun, if_neg fun empty => begun ((line_nonempty holds.solid).mp empty)]
    rfl

theorem solid_pieces {word : Text} (solid : SolidWord word) :
    ∀ piece ∈ pieces 24 word, SolidWord piece ∧ piece.length ≤ 24 := by
  intro piece member
  obtain ⟨nonempty, short, within⟩ := pieces_bounds (by decide) solid.1 piece member
  exact ⟨⟨nonempty, fun char inside => solid.2 char (within inside)⟩, short⟩

theorem solid_drop {word : Text} (solid : SolidWord word) (long : 24 < word.length) :
    SolidWord (word.drop 24) := by
  refine ⟨?_, fun char member => solid.2 char (List.mem_of_mem_drop member)⟩
  rw [ne_eq, List.drop_eq_nil_iff, Nat.not_le]
  exact long

/-- One pass of the inner loop shows a piece of the full width. -/
theorem outlook_piece {pending : Pending} {parts : List Text} (holds : Holds pending parts)
    {word : Text} (long : 24 < word.length) (rest : List Text) :
    outlook pending parts (pieces 24 word ++ rest) =
      outlook ⟨pushHead pending word, []⟩ [] (pieces 24 (word.drop 24) ++ rest) := by
  have full : (word.take 24).length = 24 := by
    rw [List.length_take]
    omega
  rw [pieces_long (by decide) long, List.cons_append, pushHead, push_outlook holds]
  unfold outlook
  rw [fill_lines_full ' ' 24 parts full]
  simp [fillLines, line]

theorem cut_word_ok {pending next : Pending} {word last : Text} {parts : List Text}
    (holds : Holds pending parts) (solid : SolidWord word)
    (cut : cutWord pending word = .ok (next, last)) :
    SolidWord last ∧ last.length ≤ 24 ∧ (pending.lines.length < 4 → next.lines.length < 4) ∧
      ∃ held, Holds next held ∧
        ∀ rest, outlook pending parts (pieces 24 word ++ rest) = outlook next held (last :: rest) := by
  induction pending, word using cutWord.induct generalizing parts with
  | case1 pending word long many =>
      rw [cutWord, if_pos long, if_pos many] at cut
      cases cut
  | case2 pending word long few ih =>
      rw [cutWord, if_pos long, if_neg few] at cut
      obtain ⟨last_solid, short, kept, held, holding, same⟩ :=
        ih (holds_fresh _) (solid_drop solid long) cut
      exact ⟨last_solid, short, fun _ => kept (Nat.not_le.mp few), held, holding,
        fun rest => (outlook_piece holds long rest).trans (same rest)⟩
  | case3 pending word short =>
      rw [cutWord, if_neg short] at cut
      cases cut
      exact ⟨solid, Nat.not_lt.mp short, id, parts, holds,
        fun rest => by rw [pieces_short (Nat.not_lt.mp short)]; rfl⟩

theorem cut_word_error {pending : Pending} {word : Text} {shown parts : List Text}
    (holds : Holds pending parts) (solid : SolidWord word)
    (cut : cutWord pending word = .error shown) :
    4 ≤ shown.length ∧ ∀ rest, shown <+: outlook pending parts (pieces 24 word ++ rest) := by
  induction pending, word using cutWord.induct generalizing parts with
  | case1 pending word long many =>
      rw [cutWord, if_pos long, if_pos many] at cut
      cases cut
      refine ⟨many, fun rest => ?_⟩
      rw [outlook_piece holds long]
      exact List.prefix_append _ _
  | case2 pending word long few ih =>
      rw [cutWord, if_pos long, if_neg few] at cut
      obtain ⟨many, shows⟩ := ih (holds_fresh _) (solid_drop solid long) cut
      exact ⟨many, fun rest => outlook_piece holds long rest ▸ shows rest⟩
  | case3 pending word short =>
      rw [cutWord, if_neg short] at cut
      cases cut

theorem candidate_length {pending : Pending} {parts : List Text} (holds : Holds pending parts)
    (word : Text) : candidateLen pending.current word = (line (parts ++ [word])).length := by
  rw [candidateLen, holds.current]
  by_cases fresh : parts = []
  · simp [fresh, line]
  · rw [if_neg fun empty => fresh ((line_nonempty holds.solid).mp empty)]
    exact (joined_longer ' ' parts word).2 fresh

theorem opened_line {pending : Pending} {parts : List Text} (holds : Holds pending parts)
    (word : Text) :
    (if pending.current = [] then pending.current else pending.current ++ [' ']) ++ word =
      line (parts ++ [word]) := by
  rw [holds.current]
  by_cases fresh : parts = []
  · simp [fresh, line]
  · have extended : line (parts ++ [word]) = line parts ++ ' ' :: word := joined_snoc ' ' fresh word
    rw [if_neg fun empty => fresh ((line_nonempty holds.solid).mp empty), extended]
    simp

theorem place_word {pending : Pending} {word : Text} {parts : List Text}
    (holds : Holds pending parts) (solid : SolidWord word) (short : word.length ≤ 24) :
    ∃ held, Holds (placeWord pending word) held ∧
      ∀ rest, outlook pending parts (word :: rest) =
        outlook (placeWord pending word) held rest := by
  have placed : placeWord pending word =
      if 24 < (line (parts ++ [word])).length then
        ⟨pending.lines ++ [trimEnd pending.current], word⟩
      else ⟨pending.lines, line (parts ++ [word])⟩ := by
    rw [← candidate_length holds, ← opened_line holds]
    rfl
  rw [placed]
  by_cases exceeds : 24 < (line (parts ++ [word])).length
  · have narrow : ¬ (parts = [] ∨ (joined ' ' (parts ++ [word])).length ≤ 24) := by
      rintro (rfl | fits)
      · exact absurd exceeds (Nat.not_lt.mpr (by simpa [line] using short))
      · exact absurd exceeds (Nat.not_lt.mpr fits)
    rw [if_pos exceeds]
    refine ⟨[word], ⟨by simp [line], by simpa using solid⟩, fun rest => ?_⟩
    rw [outlook, fillLines, if_neg narrow, outlook, holds.current, line_trimmed holds.solid]
    simp
  · rw [if_neg exceeds]
    refine ⟨parts ++ [word], ⟨rfl, ?_⟩, fun rest => ?_⟩
    · exact List.forall_mem_append.mpr ⟨holds.solid, List.forall_mem_singleton.mpr solid⟩
    · rw [outlook, fillLines, if_pos (.inr (Nat.not_lt.mp exceeds))]
      rfl

variable {upper : Char → Text}

theorem solid_upper (letters : SolidCase upper) {word : Text} (solid : SolidWord word) :
    SolidWord (toUppercase upper word) := by
  obtain ⟨nonempty, white⟩ := solid
  constructor
  · obtain ⟨first, rest, rfl⟩ := List.exists_cons_of_ne_nil nonempty
    have written := (letters first (white first List.mem_cons_self)).1
    simp [toUppercase, written]
  · intro char member
    obtain ⟨letter, inside, shown⟩ := List.mem_flatMap.mp member
    exact (letters letter (white letter inside)).2 char shown

/-- The first four lines are those of the wrap of all words. -/
theorem wrap_words_outlook (letters : SolidCase upper) (pending : Pending) (parts rest : List Text)
    (holds : Holds pending parts) (few : pending.lines.length < 4)
    (solid : ∀ word ∈ rest, SolidWord word) :
    (wrapWords upper pending rest).take 4 =
      (outlook pending parts
        (rest.flatMap fun word => pieces 24 (toUppercase upper word))).take 4 := by
  induction rest generalizing pending parts with
  | nil => rw [wrapWords, finish, if_pos few, push_outlook holds, List.flatMap_nil]
  | cons rawWord rest ih =>
      have written := solid_upper letters (solid rawWord List.mem_cons_self)
      rw [List.flatMap_cons, wrapWords]
      cases cut : cutWord pending (toUppercase upper rawWord) with
      | error shown =>
          obtain ⟨many, shows⟩ := cut_word_error holds written cut
          obtain ⟨more, same⟩ := shows (rest.flatMap fun word => pieces 24 (toUppercase upper word))
          rw [← same, List.take_append_of_le_length many]
      | ok result =>
          obtain ⟨next, word⟩ := result
          obtain ⟨last_solid, short, kept, held, holding, same⟩ := cut_word_ok holds written cut
          obtain ⟨placed, holding, alike⟩ := place_word holding last_solid short
          simp only [same, alike]
          split
          · next many =>
            rw [finish, if_neg (Nat.not_lt.mpr many), outlook, List.take_append_of_le_length many]
          · next room =>
            exact ih _ placed holding (Nat.not_le.mp room)
              fun word member => solid word (List.mem_cons_of_mem _ member)

end Loops

def wrapped (upper : Char → Text) (text : Text) : List (List Text) :=
  wrap ' ' 24 (shownWords upper text)

section Display
variable {upper : Char → Text}

theorem get_take {rows : List Text} {row : Nat} (shown : row < 4) :
    (rows.take 4).getD row [] = rows.getD row [] := by
  rw [List.getD_eq_getElem?_getD, List.getD_eq_getElem?_getD, List.getElem?_take_of_lt shown]

theorem dcdu_rows (letters : SolidCase upper) (text : Text) :
    dcduWrap24x4 upper text =
      (List.range 4).map fun row => padded (line ((wrapped upper text).getD row [])) := by
  have first := wrap_words_outlook letters ⟨[], []⟩ [] (words text) (holds_fresh []) (by decide)
    (words_behind [] text (by simp))
  rw [outlook, List.nil_append] at first
  unfold dcduWrap24x4
  apply List.map_congr_left
  intro row member
  have shown := List.mem_range.mp member
  rw [← get_take shown, first, get_take shown, List.getD_eq_getElem?_getD, List.getElem?_map,
    wrapped, shownWords, wrap, List.getD_eq_getElem?_getD]
  cases (fillLines ' ' 24 [] _)[row]? <;> rfl

theorem rows_flatten (rows : List (List Text)) (count : Nat) :
    ((List.range count).flatMap fun row => rows.getD row []) = (rows.take count).flatten := by
  induction count with
  | zero => simp
  | succ count ih =>
      rw [List.range_succ, List.flatMap_append, ih, List.take_add_one, List.flatten_append,
        List.flatMap_singleton, List.getD_eq_getElem?_getD]
      cases rows[count]? <;> simp

theorem shown_words_solid (letters : SolidCase upper) (text : Text) :
    ∀ word ∈ shownWords upper text, SolidWord word ∧ word.length ≤ 24 := by
  intro word member
  obtain ⟨raw, written, piece⟩ := List.mem_flatMap.mp member
  exact solid_pieces (solid_upper letters (words_behind [] text (by simp) raw written)) word piece

end Display

/-- Four lines of twenty-four characters show the words of the text in order, from the first one
on, and all of them if the wrap needs no more than four lines. -/
theorem dcdu_layout (upper : Char → Text) (letters : SolidCase upper) (text : Text) :
    (dcduWrap24x4 upper text).length = 4 ∧
      (∀ row ∈ dcduWrap24x4 upper text, row.length = 24) ∧
      (dcduWrap24x4 upper text).flatMap words <+: shownWords upper text ∧
      ((wrapped upper text).length ≤ 4 →
        (dcduWrap24x4 upper text).flatMap words = shownWords upper text) := by
  have solid := shown_words_solid letters text
  have whole : (wrapped upper text).flatten = shownWords upper text := wrap_flatten ' ' 24 _
  have inside : ∀ row, ∀ word ∈ (wrapped upper text).getD row [], SolidWord word := by
    intro row word member
    rw [List.getD_eq_getElem?_getD] at member
    cases found : (wrapped upper text)[row]? with
    | none => simp [found] at member
    | some parts =>
        rw [found] at member
        refine (solid word ?_).1
        rw [← whole]
        exact List.mem_flatten.mpr ⟨parts, List.mem_of_getElem? found, member⟩
  -- no word has a blank, so a row that is read back is the words that were put in
  have content : (dcduWrap24x4 upper text).flatMap words = ((wrapped upper text).take 4).flatten := by
    rw [dcdu_rows letters, List.flatMap_map, ← rows_flatten]
    apply List.flatMap_congr
    intro row _
    rw [words_padded, words_line (inside row)]
  refine ⟨by simp [dcduWrap24x4], ?_, ?_, ?_⟩
  · rw [dcdu_rows letters]
    intro shown member
    obtain ⟨row, _, rfl⟩ := List.mem_map.mp member
    have fits : (line ((wrapped upper text).getD row [])).length ≤ 24 := by
      rw [List.getD_eq_getElem?_getD]
      cases found : (wrapped upper text)[row]? with
      | none => simp [line]
      | some parts =>
          exact wrap_fit ' ' 24 (fun word member => (solid word member).2) parts
            (List.mem_of_getElem? found)
    rw [padded, List.length_append, List.length_replicate]
    omega
  · rw [content, ← whole]
    exact ⟨((wrapped upper text).drop 4).flatten, by rw [← List.flatten_append, List.take_append_drop]⟩
  · intro few
    rw [content, List.take_of_length_le few, whole]

example : dcduWrap24x4 (fun char => [char.toUpper])
    "at lasno contact paris control 132.405 or if unable abcdefghijklmnopqrstuvwxyz".toList =
      ["AT LASNO CONTACT PARIS  ", "CONTROL 132.405 OR IF   ", "UNABLE                  ",
        "ABCDEFGHIJKLMNOPQRSTUVWX"].map String.toList := by
  decide +kernel

theorem upper_white {char : Char} (solid : isWhitespace char = false) :
    isWhitespace char.toUpper = false := by
  rcases upper_cases char with ⟨same, _⟩ | ⟨first, last, letter⟩
  · rw [same, solid]
  · simp only [isWhitespace, letter, Bool.or_eq_false_iff, Bool.and_eq_false_iff,
      decide_eq_false_iff_not, beq_eq_false_iff_ne]
    omega

theorem ascii_case_solid : SolidCase fun char => [char.toUpper] := by
  intro char solid
  refine ⟨List.cons_ne_nil _ _, ?_⟩
  intro written member
  rw [List.mem_singleton.mp member]
  exact upper_white solid

theorem dcdu_layout_ascii :
    let shown := dcduWrap24x4 (fun char => [char.toUpper]) "climb to fl350".toList
    shown.length = 4 ∧ (∀ row ∈ shown, row.length = 24) ∧
      shown.flatMap words <+: shownWords (fun char => [char.toUpper]) "climb to fl350".toList ∧
      ((wrapped (fun char => [char.toUpper]) "climb to fl350".toList).length ≤ 4 →
        shown.flatMap words =
          shownWords (fun char => [char.toUpper]) "climb to fl350".toList) :=
  dcdu_layout (fun char => [char.toUpper]) ascii_case_solid "climb to fl350".toList

end OpenLink.DcduLayout
