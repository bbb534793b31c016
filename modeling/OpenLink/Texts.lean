import Mathlib.Data.List.DropRight
import Mathlib.Tactic.Common

/-!
Text as a list of characters: white space and trimming, the first occurrence of
a needle, splitting at a separator, and decimal numbers.
-/
namespace OpenLink.Texts

abbrev Text := List Char

/-- The characters with the Unicode property `White_Space`. -/
def isWhitespace (char : Char) : Bool :=
  let code := char.toNat
  (9 ≤ code && code ≤ 13) || code == 0x20 || code == 0x85 || code == 0xA0 || code == 0x1680 ||
    (0x2000 ≤ code && code ≤ 0x200A) || code == 0x2028 || code == 0x2029 || code == 0x202F ||
    code == 0x205F || code == 0x3000

def trimStart (text : Text) : Text := text.dropWhile isWhitespace

def trimEnd (text : Text) : Text := text.rdropWhile isWhitespace

def trim (text : Text) : Text := trimEnd (trimStart text)

/-- The text before and after the first occurrence of the needle. -/
def splitOnce (needle : Text) : Text → Option (Text × Text)
  | [] => if needle = [] then some ([], []) else none
  | first :: rest =>
      match needle.isPrefixOf? (first :: rest) with
      | some after => some ([], after)
      | none => (splitOnce needle rest).map fun found => (first :: found.1, found.2)

/-- At most `count` pieces; the last one keeps the separators it contains. -/
def splitN (separator : Char) : Nat → Text → List Text
  | 0, _ => []
  | 1, text => [text]
  | count + 2, text =>
      match splitOnce [separator] text with
      | some (before, after) => before :: splitN separator (count + 1) after
      | none => [text]

def decimal (number : Nat) : Text := Nat.toDigits 10 number

/-- An unsigned number of at most `largest`, with an optional plus sign. -/
def parseDecimal (largest : Nat) (text : Text) : Option Nat :=
  let digits :=
    match text with
    | '+' :: rest => rest
    | _ => text
  if digits ≠ [] ∧ digits.all Char.isDigit then
    let number := Nat.ofDigitChars 10 digits 0
    if number ≤ largest then some number else none
  else none

section Trimming
variable {text : Text}

theorem trim_start_append (nonempty : text ≠ []) (kept : trimStart text = text) (rest : Text) :
    trimStart (text ++ rest) = text ++ rest := by
  cases text with
  | nil => contradiction
  | cons first tail =>
      have solid := List.dropWhile_eq_self_iff.mp kept (by simp)
      exact List.dropWhile_cons_of_neg (by simpa using solid)

theorem trim_start_blank {blank : Text} (white : ∀ char ∈ blank, isWhitespace char) (rest : Text) :
    trimStart (blank ++ rest) = trimStart rest :=
  List.dropWhile_append_of_pos white

theorem trim_end_append (nonempty : text ≠ []) (kept : trimEnd text = text) (before : Text) :
    trimEnd (before ++ text) = before ++ text := by
  have solid := List.rdropWhile_eq_self_iff.mp kept nonempty
  apply List.rdropWhile_eq_self_iff.mpr
  intro _
  rwa [List.getLast_append_of_ne_nil _ nonempty]

theorem trim_end_blank {blank : Text} (white : ∀ char ∈ blank, isWhitespace char) (before : Text) :
    trimEnd (before ++ blank) = trimEnd before := by
  induction blank using List.reverseRecOn with
  | nil => rw [List.append_nil]
  | append_singleton blank last ih =>
      rw [← List.append_assoc, trimEnd, List.rdropWhile_concat_pos _ _ _ (white last (by simp))]
      exact ih fun char member => white char (by simp [member])

/-- A solid character keeps what stands before it. -/
theorem trim_end_separator (separator : Char) (solid : isWhitespace separator = false)
    (before after : Text) :
    trimEnd (before ++ separator :: after) = before ++ separator :: trimEnd after := by
  have kept : trimEnd (separator :: trimEnd after) = separator :: trimEnd after := by
    by_cases empty : trimEnd after = []
    · rw [empty, trimEnd, List.rdropWhile_singleton]
      simp [solid]
    · exact trim_end_append empty (List.rdropWhile_idempotent _ _) [separator]
  have whole : before ++ separator :: after =
      before ++ separator :: trimEnd after ++ after.rtakeWhile isWhitespace := by
    rw [List.append_assoc, List.cons_append, trimEnd, List.rdropWhile_append_rtakeWhile]
  rw [whole, trim_end_blank fun _ member => List.mem_rtakeWhile_imp member]
  exact trim_end_append (by simp) kept before

theorem trim_start_trimmed (trimmed : trim text = text) : trimStart text = text := by
  have shorter : (trim text).length ≤ (trimStart text).length :=
    (List.rdropWhile_prefix _ _).length_le
  have suffix : trimStart text <:+ text := List.dropWhile_suffix _
  rw [trimmed] at shorter
  exact suffix.eq_of_length (Nat.le_antisymm suffix.length_le shorter)

theorem trim_end_trimmed (trimmed : trim text = text) : trimEnd text = text := by
  have start := trim_start_trimmed trimmed
  rwa [trim, start] at trimmed

theorem trim_of_ends (start : trimStart text = text) (stop : trimEnd text = text) :
    trim text = text := by
  rw [trim, start, stop]

theorem trim_solid (solid : ∀ char ∈ text, isWhitespace char = false) : trim text = text := by
  apply trim_of_ends
  · apply List.dropWhile_eq_self_iff.mpr
    intro nonempty
    simp [solid _ (List.getElem_mem nonempty)]
  · apply List.rdropWhile_eq_self_iff.mpr
    intro nonempty
    simp [solid _ (List.getLast_mem nonempty)]

theorem trim_trim (text : Text) : trim (trim text) = trim text := by
  apply trim_of_ends
  · by_cases empty : trim text = []
    · rw [empty]
      rfl
    · obtain ⟨rest, same⟩ : trim text <+: trimStart text := List.rdropWhile_prefix _ _
      have kept : trimStart (trim text ++ rest) = trim text ++ rest := by
        rw [same]
        exact List.dropWhile_idempotent _ _
      -- the first character is that of the text without its leading white space
      cases shape : trim text with
      | nil => exact absurd shape empty
      | cons first tail =>
          rw [shape] at kept
          have solid := List.dropWhile_eq_self_iff.mp kept (by simp)
          exact List.dropWhile_cons_of_neg (by simpa using solid)
  · exact List.rdropWhile_idempotent _ _

theorem trim_within (text : Text) : trim text <:+: text :=
  (List.rdropWhile_prefix _ _).isInfix.trans (List.dropWhile_suffix _).isInfix

theorem trim_start_within (text : Text) : trimStart text <:+: text :=
  (List.dropWhile_suffix _).isInfix

/-- The white space in front of a text, and behind what is left of it. -/
def leading (text : Text) : Text := text.takeWhile isWhitespace

def trailing (text : Text) : Text := (trimStart text).rtakeWhile isWhitespace

theorem leading_white (text : Text) : ∀ char ∈ leading text, isWhitespace char :=
  fun _ member => List.mem_takeWhile_imp member

theorem trailing_white (text : Text) : ∀ char ∈ trailing text, isWhitespace char :=
  fun _ member => List.mem_rtakeWhile_imp member

theorem trim_pieces (text : Text) : text = leading text ++ (trim text ++ trailing text) := by
  rw [trim, trimEnd, trailing, List.rdropWhile_append_rtakeWhile, leading, trimStart,
    List.takeWhile_append_dropWhile]

end Trimming

section Occurrence
variable {needle text before after : Text}

theorem split_once_empty (text : Text) : splitOnce [] text = some ([], text) := by
  cases text <;> simp [splitOnce, List.isPrefixOf?]

theorem split_once_sound (found : splitOnce needle text = some (before, after)) :
    text = before ++ needle ++ after := by
  induction text generalizing before after with
  | nil =>
      simp only [splitOnce] at found
      split at found <;> simp_all
  | cons first rest ih =>
      rw [splitOnce] at found
      split at found
      next tail here =>
        cases found
        simpa using (List.isPrefixOf?_eq_some_iff_append_eq.mp here).symm
      next =>
        obtain ⟨⟨earlier, later⟩, further, same⟩ := Option.map_eq_some_iff.mp found
        cases same
        simp [ih further]

theorem split_once_within (found : splitOnce needle text = some (before, after)) :
    before <:+: text ∧ after <:+: text := by
  have whole := split_once_sound found
  constructor
  · exact ⟨[], needle ++ after, by rw [whole]; simp⟩
  · exact ⟨before ++ needle, [], by rw [whole]; simp⟩

/-- What follows a first occurrence does not move it. -/
theorem split_once_append (found : splitOnce needle text = some (before, after)) (more : Text) :
    splitOnce needle (text ++ more) = some (before, after ++ more) := by
  induction text generalizing before after with
  | nil =>
      simp only [splitOnce] at found
      split at found
      · cases found
        subst needle
        exact split_once_empty more
      · contradiction
  | cons first rest ih =>
      rw [splitOnce] at found
      rw [List.cons_append, splitOnce]
      split at found
      next tail here =>
        cases found
        have longer : needle.isPrefixOf? (first :: (rest ++ more)) = some (after ++ more) := by
          rw [List.isPrefixOf?_eq_some_iff_append_eq] at here ⊢
          rw [← List.append_assoc, here, List.cons_append]
        rw [longer]
      next absent =>
        obtain ⟨⟨earlier, later⟩, further, same⟩ := Option.map_eq_some_iff.mp found
        cases same
        have still : needle.isPrefixOf? (first :: (rest ++ more)) = none := by
          cases here : needle.isPrefixOf? (first :: (rest ++ more)) with
          | none => rfl
          | some tail =>
              -- the needle fits into the shorter text, where it does occur later
              exfalso
              have whole := List.isPrefixOf?_eq_some_iff_append_eq.mp here
              have fits : needle.length ≤ (first :: rest).length := by
                rw [split_once_sound further]
                simp
                omega
              have prefixed : needle <+: first :: rest :=
                List.prefix_of_prefix_length_le ⟨tail, whole⟩
                  ⟨more, by simp⟩ fits
              obtain ⟨rest', same⟩ := prefixed
              rw [List.isPrefixOf?_eq_some_iff_append_eq.mpr same] at absent
              contradiction
        rw [still]
        simp [ih further]

theorem split_once_char {separator : Char} (absent : separator ∉ before) (after : Text) :
    splitOnce [separator] (before ++ separator :: after) = some (before, after) := by
  induction before with
  | nil => simp [splitOnce, List.isPrefixOf?]
  | cons first rest ih =>
      rw [List.mem_cons, not_or] at absent
      simp [splitOnce, List.isPrefixOf?, absent.1, ih absent.2]

theorem split_once_absent {separator : Char} (absent : separator ∉ text) :
    splitOnce [separator] text = none := by
  induction text with
  | nil => rfl
  | cons first rest ih =>
      rw [List.mem_cons, not_or] at absent
      simp [splitOnce, List.isPrefixOf?, absent.1, ih absent.2]

end Occurrence

section Numbers

theorem decimal_digits (number : Nat) : ∀ char ∈ decimal number, char.isDigit :=
  fun _ member => Nat.isDigit_of_mem_toDigits (by decide) (by decide) member

theorem digit_not_white {char : Char} (digit : char.isDigit) : isWhitespace char = false := by
  simp only [Char.isDigit, Bool.and_eq_true, decide_eq_true_eq, ge_iff_le, UInt32.le_iff_toNat_le]
    at digit
  change 48 ≤ char.toNat ∧ char.toNat ≤ 57 at digit
  simp only [isWhitespace, Bool.or_eq_false_iff, Bool.and_eq_false_iff, decide_eq_false_iff_not,
    beq_eq_false_iff_ne]
  omega

theorem decimal_nonempty (number : Nat) : decimal number ≠ [] := Nat.toDigits_ne_nil

theorem decimal_absent (number : Nat) {char : Char} (other : char.isDigit = false) :
    char ∉ decimal number := by
  intro member
  rw [decimal_digits number char member] at other
  contradiction

theorem parse_decimal {number largest : Nat} (small : number ≤ largest) :
    parseDecimal largest (decimal number) = some number := by
  have unsigned : (match decimal number with
      | '+' :: rest => rest
      | _ => decimal number) = decimal number := by
    have digits := decimal_digits number
    split
    next rest written =>
      rw [written] at digits
      exact absurd (digits '+' (by simp)) (by decide)
    next => rfl
  have allDigits : (decimal number).all Char.isDigit := by
    rw [List.all_eq_true]
    exact decimal_digits number
  have value : Nat.ofDigitChars 10 (decimal number) 0 = number :=
    Nat.ofDigitChars_ten_toDigits
  simp only [parseDecimal, unsigned]
  rw [if_pos ⟨decimal_nonempty number, allDigits⟩, value, if_pos small]

theorem signed_text (text : Text) :
    ∃ sign digits, text = sign ++ digits ∧ (sign = [] ∨ sign = ['+']) ∧
      (match text with
      | '+' :: rest => rest
      | _ => text) = digits := by
  by_cases plus : ∃ rest, text = '+' :: rest
  · obtain ⟨rest, rfl⟩ := plus
    exact ⟨['+'], rest, rfl, .inr rfl, rfl⟩
  · refine ⟨[], text, rfl, .inl rfl, ?_⟩
    split
    next rest => exact absurd ⟨rest, rfl⟩ plus
    next => rfl

/-- The digits of a number that was read, behind its sign. -/
theorem parsed_digits {largest number : Nat} {text : Text}
    (parsed : parseDecimal largest text = some number) :
    ∃ sign digits, text = sign ++ digits ∧ (sign = [] ∨ sign = ['+']) ∧ digits ≠ [] ∧
      (∀ char ∈ digits, char.isDigit = true) ∧ number = Nat.ofDigitChars 10 digits 0 ∧
      number ≤ largest := by
  obtain ⟨sign, digits, whole, signing, same⟩ := signed_text text
  simp only [parseDecimal, same] at parsed
  by_cases written : digits ≠ [] ∧ digits.all Char.isDigit = true
  · rw [if_pos written] at parsed
    split at parsed
    next small =>
      cases parsed
      exact ⟨sign, digits, whole, signing, written.1, List.all_eq_true.mp written.2, rfl, small⟩
    next => cases parsed
  · rw [if_neg written] at parsed
    cases parsed

end Numbers

end OpenLink.Texts
