import Mathlib.Data.List.Forall2
import OpenLink.Texts

/-!
The words of a text, and texts that say the same: up to the case of letters, the length
of white space, and the prefix and the leading zeros of numbers.
-/
namespace OpenLink.Words
open Texts

def words (text : Text) : List Text := (text.splitOnP isWhitespace).filter (· ≠ [])

def startsBlank (text : Text) : Bool := text.head?.any isWhitespace

def endsBlank (text : Text) : Bool := text.getLast?.any isWhitespace

/-- A number without its prefix and its leading zeros; any other word as it is. -/
def numeral (word : Text) : Text :=
  let digits := ("fl".toList.isPrefixOf? word).getD word
  if digits ≠ [] ∧ digits.all Char.isDigit then digits.dropWhile (· = '0') else word

def canonical (word : Text) : Text := numeral (word.map Char.toLower)

def content (text : Text) : List Text := (words text).map canonical

def Alike (left right : Text) : Prop := content left = content right

instance (left right : Text) : Decidable (Alike left right) :=
  inferInstanceAs (Decidable (content left = content right))

/-! Words fall apart at white space. -/
section Cutting

@[simp] theorem words_nil : words [] = [] := rfl

theorem words_between (left right : Text) {blank : Char} (white : isWhitespace blank = true) :
    words (left ++ blank :: right) = words left ++ words right := by
  unfold words
  rw [List.splitOnP_append_cons left right white, List.filter_append]

theorem words_cons_blank (right : Text) {blank : Char} (white : isWhitespace blank = true) :
    words (blank :: right) = words right :=
  words_between [] right white

theorem words_spaced (left right : Text) (gap : endsBlank left = true ∨ startsBlank right = true) :
    words (left ++ right) = words left ++ words right := by
  rcases gap with closed | opened
  · rcases List.eq_nil_or_concat left with rfl | ⟨front, blank, rfl⟩
    · rfl
    · rw [List.concat_eq_append] at closed ⊢
      have white : isWhitespace blank = true := by simpa [endsBlank] using closed
      rw [List.append_assoc, List.singleton_append, words_between front right white,
        words_between front [] white, words_nil, List.append_nil]
  · cases right with
    | nil => cases opened
    | cons blank right =>
        have white : isWhitespace blank = true := by simpa [startsBlank] using opened
        rw [words_between left right white, words_cons_blank right white]

theorem words_white {text : Text} (white : ∀ char ∈ text, isWhitespace char) : words text = [] := by
  induction text with
  | nil => rfl
  | cons first rest ih =>
      rw [words_cons_blank rest (white first (by simp))]
      exact ih fun char member => white char (by simp [member])

theorem words_solid {word : Text} (nonempty : word ≠ [])
    (solid : ∀ char ∈ word, isWhitespace char = false) : words word = [word] := by
  rw [words, List.splitOnP_eq_singleton solid]
  simp [nonempty]

theorem words_trim_start (text : Text) : words (trimStart text) = words text := by
  induction text with
  | nil => rfl
  | cons first rest ih =>
      cases white : isWhitespace first with
      | true => rw [words_cons_blank rest white, ← ih, trimStart, List.dropWhile_cons_of_pos white]; rfl
      | false => rw [trimStart, List.dropWhile_cons_of_neg (by simp [white])]

theorem words_trim_end (text : Text) : words (trimEnd text) = words text := by
  have whole : trimEnd text ++ text.rtakeWhile isWhitespace = text :=
    List.rdropWhile_append_rtakeWhile
  have white : ∀ char ∈ text.rtakeWhile isWhitespace, isWhitespace char :=
    fun _ member => List.mem_rtakeWhile_imp member
  conv_rhs => rw [← whole]
  cases blanks : text.rtakeWhile isWhitespace with
  | nil => rw [List.append_nil]
  | cons blank rest =>
      rw [blanks] at white
      have opened : startsBlank (blank :: rest) = true := by
        simpa [startsBlank] using white blank (by simp)
      rw [words_spaced _ _ (.inr opened), words_white white, List.append_nil]

theorem words_trim (text : Text) : words (trim text) = words text := by
  rw [trim, words_trim_end, words_trim_start]

theorem words_lead {word : Text} (nonempty : word ≠ [])
    (solid : ∀ char ∈ word, isWhitespace char = false) (text : Text) :
    words (word ++ text) = (word ++ text.takeWhile (!isWhitespace ·)) ::
      words (text.dropWhile (!isWhitespace ·)) := by
  have first : words (word ++ text.takeWhile (!isWhitespace ·)) =
      [word ++ text.takeWhile (!isWhitespace ·)] := by
    apply words_solid
    · simp [nonempty]
    · intro char member
      rcases List.mem_append.mp member with own | further
      · exact solid char own
      · simpa using List.mem_takeWhile_imp further
  conv_lhs => rw [← List.takeWhile_append_dropWhile (p := (!isWhitespace ·)) (l := text)]
  cases rest : text.dropWhile (!isWhitespace ·) with
  | nil => rw [List.append_nil, first, words_nil]
  | cons blank back =>
      have white := List.head?_dropWhile_not (!isWhitespace ·) text
      rw [rest] at white
      rw [← List.append_assoc, words_spaced _ _ (.inr (by simpa [startsBlank] using white)), first]
      rfl

theorem words_eq_nil {text : Text} : words text = [] ↔ trimStart text = [] := by
  constructor
  · intro none
    rw [← words_trim_start] at none
    cases shape : trimStart text with
    | nil => rfl
    | cons first rest =>
        have solid := List.head?_dropWhile_not isWhitespace text
        rw [← trimStart, shape] at solid
        rw [shape, ← List.singleton_append, words_lead (by simp) (by simpa using solid)] at none
        cases none
  · intro blank
    rw [← words_trim_start, blank, words_nil]

theorem words_first {text : Text} (nonempty : text ≠ []) (opened : startsBlank text = false) :
    ∃ word rest, text = word ++ rest ∧ word ≠ [] ∧
      (∀ char ∈ word, isWhitespace char = false) ∧ word ∈ words text := by
  cases text with
  | nil => contradiction
  | cons first rest =>
      have solid : isWhitespace first = false := by simpa [startsBlank] using opened
      refine ⟨first :: rest.takeWhile (!isWhitespace ·), rest.dropWhile (!isWhitespace ·), ?_,
        by simp, ?_, ?_⟩
      · rw [List.cons_append, List.takeWhile_append_dropWhile]
      · intro char member
        rcases List.mem_cons.mp member with rfl | further
        · exact solid
        · simpa using List.mem_takeWhile_imp further
      · rw [← List.singleton_append, words_lead (by simp) (by simpa using solid)]
        exact List.mem_cons_self

theorem words_last {text : Text} (nonempty : text ≠ []) (closed : endsBlank text = false) :
    ∃ front word, text = front ++ word ∧ word ≠ [] ∧
      (∀ char ∈ word, isWhitespace char = false) ∧
      ∀ more, words (front ++ more) = words front ++ words more := by
  have solid : ∀ char ∈ text.rtakeWhile (!isWhitespace ·), isWhitespace char = false := by
    intro char member
    simpa using List.mem_rtakeWhile_imp member
  have present : text.rtakeWhile (!isWhitespace ·) ≠ [] := by
    rw [Ne, List.rtakeWhile_eq_nil_iff]
    intro blank
    have last := blank nonempty
    rw [endsBlank, List.getLast?_eq_some_getLast nonempty] at closed
    simp_all
  have whole : text.rdropWhile (!isWhitespace ·) ++ text.rtakeWhile (!isWhitespace ·) = text :=
    List.rdropWhile_append_rtakeWhile
  refine ⟨_, _, whole.symm, present, solid, ?_⟩
  intro more
  by_cases alone : text.rdropWhile (!isWhitespace ·) = []
  · rw [alone]
    rfl
  · have last := List.rdropWhile_last_not _ _ alone
    apply words_spaced
    left
    rw [endsBlank, List.getLast?_eq_some_getLast alone]
    simpa using last

theorem starts_solid {text : Text} (kept : trimStart text = text) : startsBlank text = false := by
  cases text with
  | nil => rfl
  | cons first rest =>
      have solid := List.dropWhile_eq_self_iff.mp kept (by simp)
      simpa [startsBlank] using solid

theorem ends_solid {text : Text} (kept : trimEnd text = text) : endsBlank text = false := by
  rcases List.eq_nil_or_concat text with rfl | ⟨front, last, rfl⟩
  · rfl
  · have solid := List.rdropWhile_eq_self_iff.mp kept (by simp)
    simpa [endsBlank] using solid

theorem words_single {text word : Text} (trimmed : trim text = text)
    (single : words text = [word]) : text = word := by
  have nonempty : text ≠ [] := by
    rintro rfl
    cases single
  obtain ⟨front, last, rfl, present, solid, parts⟩ :=
    words_last nonempty (ends_solid (trim_end_trimmed trimmed))
  rw [parts, words_solid present solid] at single
  obtain ⟨none, same⟩ := List.append_inj' (single.trans (List.nil_append [word]).symm) rfl
  have blank := words_eq_nil.mp none
  cases front with
  | nil => exact List.singleton_inj.mp same
  | cons first rest =>
      have opened := starts_solid (trim_start_trimmed trimmed)
      have white := List.dropWhile_eq_nil_iff.mp blank first (by simp)
      simp [startsBlank, white] at opened

end Cutting

/-! How words compare. -/
section Comparing

theorem content_spaced (left right : Text)
    (gap : endsBlank left = true ∨ startsBlank right = true) :
    content (left ++ right) = content left ++ content right := by
  rw [content, words_spaced left right gap, List.map_append]
  rfl

theorem content_trim (text : Text) : content (trim text) = content text := by
  rw [content, words_trim, content]

theorem content_trim_start (text : Text) : content (trimStart text) = content text := by
  rw [content, words_trim_start, content]

theorem content_trim_end (text : Text) : content (trimEnd text) = content text := by
  rw [content, words_trim_end, content]

theorem content_eq_nil {text : Text} : content text = [] ↔ trimStart text = [] := by
  rw [content, List.map_eq_nil_iff, words_eq_nil]

theorem numeral_length (word : Text) : (numeral word).length ≤ word.length := by
  simp only [numeral]
  split
  · refine (List.dropWhile_suffix _).length_le.trans ?_
    cases prefixed : "fl".toList.isPrefixOf? word with
    | none => exact Nat.le_refl _
    | some digits =>
        have whole := congrArg List.length (List.isPrefixOf?_eq_some_iff_append_eq.mp prefixed)
        rw [List.length_append] at whole
        rw [Option.getD_some]
        omega
  · exact Nat.le_refl _

theorem canonical_length (word : Text) : (canonical word).length ≤ word.length := by
  have bound := numeral_length (word.map Char.toLower)
  rwa [List.length_map] at bound

theorem lower_cases (char : Char) : char.toLower = char ∨
    65 ≤ char.toNat ∧ char.toNat ≤ 90 ∧ char.toLower.toNat = char.toNat + 32 := by
  by_cases upper : char.val ≥ 'A'.val ∧ char.val ≤ 'Z'.val
  · have first : 65 ≤ char.val.toNat := upper.1
    have last : char.val.toNat ≤ 90 := upper.2
    refine .inr ⟨first, last, ?_⟩
    have lowered : char.toLower.toNat = (char.val + ('a'.val - 'A'.val)).toNat :=
      congrArg Char.toNat (dif_pos upper)
    have shifted : (char.val + ('a'.val - 'A'.val)).toNat = (char.val.toNat + 32) % 2 ^ 32 :=
      UInt32.toNat_add _ _
    rw [lowered, shifted, Nat.mod_eq_of_lt (by omega)]
    rfl
  · exact .inl (dif_neg upper)

theorem upper_cases (char : Char) : char.toUpper = char ∧ ¬ (97 ≤ char.toNat ∧ char.toNat ≤ 122) ∨
    97 ≤ char.toNat ∧ char.toNat ≤ 122 ∧ char.toUpper.toNat = char.toNat - 32 := by
  by_cases lower : 'a'.val ≤ char.val ∧ char.val ≤ 'z'.val
  · have first : 97 ≤ char.val.toNat := lower.1
    have last : char.val.toNat ≤ 122 := lower.2
    refine .inr ⟨first, last, ?_⟩
    have upper : char.toUpper = _ := dif_pos lower
    have raised : char.toUpper.val = char.val + ('A'.val - 'a'.val) := by rw [upper]
    have shifted : (char.val + ('A'.val - 'a'.val)).toNat =
        (char.val.toNat + ('A'.val - 'a'.val).toNat) % 2 ^ 32 := UInt32.toNat_add _ _
    have distance : ('A'.val - 'a'.val).toNat = 2 ^ 32 - 32 := by decide
    rw [Char.toNat, raised, shifted, distance, Char.toNat]
    omega
  · exact .inl ⟨dif_neg lower, lower⟩

theorem lower_white (char : Char) : isWhitespace char.toLower = isWhitespace char := by
  have letter : ∀ other : Char, 65 ≤ other.toNat → other.toNat ≤ 122 →
      isWhitespace other = false := by
    intro other low high
    simp only [isWhitespace, Bool.or_eq_false_iff, Bool.and_eq_false_iff,
      decide_eq_false_iff_not, beq_eq_false_iff_ne]
    omega
  rcases lower_cases char with same | ⟨first, last, lowered⟩
  · rw [same]
  · rw [letter char first (by omega), letter char.toLower (by omega) (by omega)]

theorem split_lower (text : Text) : (text.map Char.toLower).splitOnP isWhitespace =
    (text.splitOnP isWhitespace).map (List.map Char.toLower) := by
  induction text with
  | nil => rfl
  | cons first rest ih =>
      rw [List.map_cons, List.splitOnP_cons_eq_if_modifyHead, List.splitOnP_cons_eq_if_modifyHead,
        lower_white, ih]
      split
      · rfl
      · cases rest.splitOnP isWhitespace with
        | nil => rfl
        | cons word others => rfl

theorem words_lower (text : Text) :
    words (text.map Char.toLower) = (words text).map (List.map Char.toLower) := by
  rw [words, split_lower, List.filter_map, words]
  congr 1
  apply List.filter_congr
  intro word _
  simp

theorem alike_lower {left right : Text}
    (same : left.map Char.toLower = right.map Char.toLower) : Alike left right := by
  have lowered : ∀ text, content text = (words (text.map Char.toLower)).map numeral := by
    intro text
    rw [words_lower, List.map_map]
    rfl
  rw [Alike, lowered, lowered, same]

def marked (word : Text) : Bool :=
  word.any fun char => !(char.toLower.isDigit || char.toLower = 'f' || char.toLower = 'l')

theorem canonical_marked {word : Text} (letters : marked word = true) :
    canonical word = word.map Char.toLower := by
  obtain ⟨char, member, odd⟩ := List.any_eq_true.mp letters
  have lowered : char.toLower ∈ word.map Char.toLower := List.mem_map_of_mem member
  simp only [Bool.not_eq_true', Bool.or_eq_false_iff, decide_eq_false_iff_not] at odd
  obtain ⟨⟨letter, notF⟩, notL⟩ := odd
  simp only [canonical, numeral]
  split
  next number =>
    have kept : char.toLower ∈
        ("fl".toList.isPrefixOf? (word.map Char.toLower)).getD (word.map Char.toLower) := by
      cases prefixed : "fl".toList.isPrefixOf? (word.map Char.toLower) with
      | none => exact lowered
      | some digits =>
          rw [← List.isPrefixOf?_eq_some_iff_append_eq.mp prefixed] at lowered
          simpa [notF, notL] using lowered
    have digit := List.all_eq_true.mp number.2 _ kept
    rw [digit] at letter
    cases letter
  next => rfl

theorem marked_append (left right : Text) :
    marked (left ++ right) = (marked left || marked right) :=
  List.any_append

def Follows (text shown : Text) : Prop :=
  List.Forall₂ (fun word other => (canonical other).length ≤ word.length) (words text) (words shown)

theorem follows_self (text : Text) : Follows text text :=
  List.forall₂_same.mpr fun word _ => canonical_length word

theorem follows_content {text shown : Text} (follows : Follows text shown) :
    (content text).length = (content shown).length := by
  rw [content, content, List.length_map, List.length_map]
  exact follows.length_eq

/-- Where the last word of a text runs into letters, the words are not those of a text
that shows it. -/
theorem joined_unlike {left shown letters : Text} (follows : Follows left shown)
    (nonempty : left ≠ []) (closed : endsBlank left = false) (present : letters ≠ [])
    (solid : ∀ char ∈ letters, isWhitespace char = false)
    (odd : marked letters = true ∨ ∀ word ∈ words left, marked word = true)
    (right : Text) (rest : List Text) :
    content (left ++ (letters ++ right)) ≠ content shown ++ rest := by
  obtain ⟨front, last, rfl, lastPresent, lastSolid, parts⟩ := words_last nonempty closed
  have own : words (front ++ last) = words front ++ [last] := by
    rw [parts, words_solid lastPresent lastSolid]
  obtain ⟨more, joined⟩ : ∃ more, words (front ++ last ++ (letters ++ right)) =
      words front ++ (last ++ (letters ++ right.takeWhile (!isWhitespace ·))) :: more := by
    have further : (letters ++ right).takeWhile (!isWhitespace ·) =
        letters ++ right.takeWhile (!isWhitespace ·) :=
      List.takeWhile_append_of_pos fun char member => by simp [solid char member]
    rw [List.append_assoc, parts, words_lead lastPresent lastSolid, further]
    exact ⟨_, rfl⟩
  have long : canonical (last ++ (letters ++ right.takeWhile (!isWhitespace ·))) =
      (last ++ (letters ++ right.takeWhile (!isWhitespace ·))).map Char.toLower := by
    apply canonical_marked
    rw [marked_append, marked_append]
    rcases odd with here | everywhere
    · simp [here]
    · simp [everywhere last (by simp [own])]
  -- the word in the place of the last one cannot be as long
  rw [Follows, own] at follows
  have counted := follows.length_eq
  have shownLast := List.forall₂_drop (words front).length follows
  rw [List.drop_left] at shownLast
  intro same
  have cut := congrArg (List.drop (words front).length) same
  rw [content, joined, List.map_append, content,
    List.drop_append_of_le_length (by simp), List.drop_append_of_le_length (by
      rw [List.length_map, ← counted]; simp), ← List.map_drop, ← List.map_drop] at cut
  cases shape : (words shown).drop (words front).length with
  | nil =>
      rw [shape] at shownLast
      cases shownLast
  | cons other others =>
      rw [shape] at shownLast cut
      obtain ⟨short, _⟩ := List.forall₂_cons.mp shownLast
      simp only [List.drop_length, List.map_nil, List.nil_append, List.map_cons,
        List.cons_append, List.cons.injEq] at cut
      have equal := congrArg List.length cut.1
      rw [long, List.length_map, List.length_append, List.length_append] at equal
      have positive := List.length_pos_iff.mpr present
      omega

end Comparing

/-! Numbers as they are written. -/
section Numbers

theorem digit_units {char : Char} (digit : char.isDigit = true) :
    ∃ units < 10, char = Nat.digitChar units := by
  simp only [Char.isDigit, Bool.and_eq_true, decide_eq_true_eq, ge_iff_le, UInt32.le_iff_toNat_le]
    at digit
  change 48 ≤ char.toNat ∧ char.toNat ≤ 57 at digit
  have small : char.toNat - 48 < 10 := by omega
  refine ⟨char.toNat - 48, small, ?_⟩
  apply Char.toNat_inj.mp
  rw [Nat.toNat_digitChar_of_lt_ten small]
  omega

theorem read_snoc (digits : Text) {units : Nat} (small : units < 10) :
    Nat.ofDigitChars 10 (digits ++ [units.digitChar]) 0 =
      10 * Nat.ofDigitChars 10 digits 0 + units := by
  rw [Nat.ofDigitChars_append, Nat.ofDigitChars_cons_digitChar_of_lt_ten small,
    Nat.ofDigitChars_nil]

theorem decimal_read {digits : Text} (nonempty : digits ≠ [])
    (allDigits : ∀ char ∈ digits, char.isDigit = true) (leading : digits.head? ≠ some '0') :
    decimal (Nat.ofDigitChars 10 digits 0) = digits := by
  induction digits using List.reverseRecOn with
  | nil => contradiction
  | append_singleton digits last ih =>
      obtain ⟨units, small, rfl⟩ := digit_units (allDigits last (by simp))
      rw [read_snoc digits small]
      by_cases alone : digits = []
      · rw [alone, Nat.ofDigitChars_nil, decimal, Nat.toDigits_of_lt_base (by omega)]
        simp
      · rw [List.head?_append_of_ne_nil _ alone] at leading
        have read := ih alone (fun char member => allDigits char (by simp [member])) leading
        have positive : 0 < Nat.ofDigitChars 10 digits 0 := by
          apply Nat.pos_of_ne_zero
          intro zero
          rw [zero] at read
          rw [← read] at leading
          exact leading rfl
        rw [decimal, ← Nat.toDigits_append_toDigits (by decide) positive small,
          Nat.toDigits_of_lt_base small]
        exact congrArg (· ++ [units.digitChar]) read

theorem decimal_leading {digits : Text} (allDigits : ∀ char ∈ digits, char.isDigit = true) :
    (decimal (Nat.ofDigitChars 10 digits 0)).dropWhile (· = '0') = digits.dropWhile (· = '0') := by
  induction digits with
  | nil => rfl
  | cons first rest ih =>
      by_cases zero : first = '0'
      · have later := ih fun char member => allDigits char (by simp [member])
        rw [zero, List.dropWhile_cons_of_pos (by simp), ← later]
        rfl
      · rw [decimal_read (by simp) allDigits (by simpa using zero)]

theorem lower_digit {char : Char} (digit : char.isDigit = true) : char.toLower = char := by
  obtain ⟨units, small, rfl⟩ := digit_units digit
  have all : ∀ units < 10, (Nat.digitChar units).toLower = Nat.digitChar units := by decide
  exact all units small

theorem lower_digits {digits : Text} (allDigits : ∀ char ∈ digits, char.isDigit = true) :
    digits.map Char.toLower = digits := by
  conv_rhs => rw [← List.map_id digits]
  exact List.map_congr_left fun char member => lower_digit (allDigits char member)

/-- Digits are a number as they stand, and behind the prefix of a flight level. -/
theorem canonical_number {mark digits : Text} (marking : mark = [] ∨ mark = "FL".toList)
    (nonempty : digits ≠ []) (allDigits : ∀ char ∈ digits, char.isDigit = true) :
    canonical (mark ++ digits) = digits.dropWhile (· = '0') := by
  have number : digits ≠ [] ∧ digits.all Char.isDigit = true :=
    ⟨nonempty, List.all_eq_true.mpr allDigits⟩
  have stripped : ("fl".toList.isPrefixOf? ((mark ++ digits).map Char.toLower)).getD
      ((mark ++ digits).map Char.toLower) = digits := by
    rw [List.map_append, lower_digits allDigits]
    rcases marking with rfl | rfl
    · cases prefixed : "fl".toList.isPrefixOf? digits with
      | none =>
          rw [List.map_nil, List.nil_append, prefixed]
          rfl
      | some rest =>
          have whole := List.isPrefixOf?_eq_some_iff_append_eq.mp prefixed
          have letter : 'f' ∈ digits := by
            rw [← whole]
            simp
          exact absurd (allDigits 'f' letter) (by decide)
    · have written : "FL".toList.map Char.toLower = "fl".toList := by decide
      rw [written, List.isPrefixOf?_eq_some_iff_append_eq.mpr rfl, Option.getD_some]
  simp only [canonical, numeral, stripped]
  rw [if_pos number]

theorem canonical_sign {word : Text} (signed : '+' ∈ word) : '+' ∈ canonical word := by
  have odd : marked word = true := List.any_eq_true.mpr ⟨'+', signed, by decide⟩
  rw [canonical_marked odd]
  exact List.mem_map_of_mem (f := Char.toLower) signed

end Numbers

end OpenLink.Words
