import OpenLink.DecodedElements
import OpenLink.Words

/-!
When decoding a text loses nothing: the element, rendered, says what the body says, up to
the case of letters, the length of white space, and the prefix and the leading zeros of
numbers.
-/
namespace OpenLink.LosslessDecoding
open Cpdlc DecodedElements MessageRegistry Rendering TemplateMatching Templates TextRoundTrip Texts
open Translator Words

def Lossless (body : Text) (direction : MessageDirection) : Prop :=
  Alike (trim body) (renderElement
    ⟨(matchBodyToElement body direction).1, (matchBodyToElement body direction).2⟩)

/-! What a body has to be like. -/
section Conditions

def zeroLevel (value : Text) : Bool :=
  ("fl".toList.isPrefixOf? (value.map Char.toLower)).any fun zeros =>
    zeros ≠ [] && zeros.all (· = '0')

/-- A number that is read has no sign, and degrees that are not read are level zero. -/
def legible (argType : ArgType) (value : Text) : Bool :=
  match argType with
  | .level => parseLevel value = none || '+' ∉ value
  | .degrees => if parseDecimal 65535 value = none then zeroLevel value else '+' ∉ value
  | _ => true

/-- Each literal is there, between white space, nothing stands behind the last one, and
each value in front of one is legible. -/
def standing : List Text → List ArgType → Text → Bool
  | segment :: segments, argType :: argTypes, remaining =>
      if segment = [] then legible argType (trim remaining) && standing segments argTypes []
      else
        match splitOnce (trim segment) remaining with
        | some (before, after) =>
            endsBlank before && legible argType (trim before) &&
              (after = [] || startsBlank after) && standing segments argTypes (trimStart after)
        | none => false
  | _, _, remaining => remaining = []

def opensBracket : List Text → Text → Bool
  | segment :: next :: segments, remaining =>
      match splitOnce (trim segment) remaining with
      | some (before, after) =>
          before.contains '[' || opensBracket (next :: segments) (trimStart after)
      | none => false
  | _, _ => false

end Conditions

/-! A value and what is shown of it. -/
section Values

def shownValue (value : Text) (argType : ArgType) : Text :=
  displayArgument (textToArgument value argType)

theorem shown_text {argType : ArgType} (value : Text) (notLevel : argType ≠ .level)
    (notDegrees : argType ≠ .degrees) : shownValue value argType = value := by
  cases argType with
  | level => contradiction
  | degrees => contradiction
  | _ => simp [shownValue, textToArgument, displayArgument]

theorem level_read {value : Text} {level : FlightLevel} (parsed : parseLevel value = some level) :
    ∃ mark sign digits, value = mark ++ (sign ++ digits) ∧ (mark = [] ∨ mark = "FL".toList) ∧
      (sign = [] ∨ sign = ['+']) ∧ digits ≠ [] ∧ (∀ char ∈ digits, char.isDigit = true) ∧
      displayLevel level = "FL".toList ++ decimal (Nat.ofDigitChars 10 digits 0) := by
  obtain ⟨mark, numeric, whole, marking, stripped⟩ : ∃ mark numeric, value = mark ++ numeric ∧
      (mark = [] ∨ mark = "FL".toList) ∧
      ("FL".toList.isPrefixOf? value).getD value = numeric := by
    cases prefixed : "FL".toList.isPrefixOf? value with
    | none => exact ⟨[], value, rfl, .inl rfl, rfl⟩
    | some numeric =>
        exact ⟨_, numeric, (List.isPrefixOf?_eq_some_iff_append_eq.mp prefixed).symm, .inr rfl, rfl⟩
  simp only [parseLevel, stripped] at parsed
  cases number : parseDecimal 65535 numeric with
  | none => simp only [number, reduceCtorEq] at parsed
  | some found =>
      simp only [number] at parsed
      obtain ⟨sign, digits, text, signing, nonempty, allDigits, read, _⟩ := parsed_digits number
      by_cases high : 999 < found
      · rw [if_pos high] at parsed
        cases parsed
      · rw [if_neg high] at parsed
        cases parsed
        have small : found % 65536 = found := by omega
        have low : UInt16.ofNat found < 1000 := by
          rw [UInt16.lt_iff_toNat_lt]
          change found % 65536 < 1000
          omega
        refine ⟨mark, sign, digits, by rw [whole, text], marking, signing, nonempty, allDigits, ?_⟩
        rw [displayLevel, if_pos low, ← read]
        change _ ++ decimal (found % 65536) = _
        rw [small]

theorem sign_absent {mark digits : Text} (marking : mark = [] ∨ mark = "FL".toList)
    (allDigits : ∀ char ∈ digits, char.isDigit = true) : '+' ∉ mark ++ digits := by
  rw [List.mem_append, not_or]
  constructor
  · rcases marking with rfl | rfl <;> decide
  · intro signed
    exact absurd (allDigits '+' signed) (by decide)

theorem number_word {mark sign digits : Text} (marking : mark = [] ∨ mark = "FL".toList)
    (signing : sign = [] ∨ sign = ['+']) (nonempty : digits ≠ [])
    (allDigits : ∀ char ∈ digits, char.isDigit = true) :
    words (mark ++ (sign ++ digits)) = [mark ++ (sign ++ digits)] := by
  apply words_solid
  · simp [nonempty]
  · intro char member
    rcases List.mem_append.mp member with letter | member
    · rcases marking with rfl | rfl
      · cases letter
      · have named : char = 'F' ∨ char = 'L' := by simpa using letter
        rcases named with rfl | rfl <;> decide
    · rcases List.mem_append.mp member with plus | digit
      · rcases signing with rfl | rfl
        · cases plus
        · rw [List.mem_singleton.mp plus]
          decide
      · exact digit_not_white (allDigits char digit)

theorem number_alike {mark sign digits shown : Text} (marking : mark = [] ∨ mark = "FL".toList)
    (signing : sign = [] ∨ sign = ['+']) (nonempty : digits ≠ [])
    (allDigits : ∀ char ∈ digits, char.isDigit = true) (shownWord : words shown = [shown])
    (same : canonical shown = digits.dropWhile (· = '0')) :
    (Alike (mark ++ (sign ++ digits)) shown ↔ '+' ∉ mark ++ (sign ++ digits)) ∧
      Follows (mark ++ (sign ++ digits)) shown := by
  have valueWord := number_word marking signing nonempty allDigits
  have trimmed := List.dropWhile_suffix (l := digits) (· = '0')
  constructor
  · have single : Alike (mark ++ (sign ++ digits)) shown ↔
        canonical (mark ++ (sign ++ digits)) = digits.dropWhile (· = '0') := by
      rw [Alike, content, content, valueWord, shownWord, List.map_singleton, List.map_singleton,
        List.singleton_inj, same]
    rw [single]
    rcases signing with rfl | rfl
    · rw [List.nil_append]
      exact iff_of_true (canonical_number marking nonempty allDigits)
        (sign_absent marking allDigits)
    · have signed : '+' ∈ mark ++ (['+'] ++ digits) := by simp
      apply iff_of_false _ (not_not_intro signed)
      intro written
      have kept := canonical_sign signed
      rw [written] at kept
      exact absurd (allDigits '+' (trimmed.subset kept)) (by decide)
  · rw [Follows, valueWord, shownWord]
    apply List.Forall₂.cons _ .nil
    have shorter := trimmed.length_le
    rw [same, List.length_append, List.length_append]
    omega

theorem decimal_word (number : Nat) : words (decimal number) = [decimal number] :=
  words_solid (decimal_nonempty number)
    fun char member => digit_not_white (decimal_digits number char member)

theorem canonical_decimal {digits : Text} (allDigits : ∀ char ∈ digits, char.isDigit = true)
    {mark : Text} (marking : mark = [] ∨ mark = "FL".toList) :
    canonical (mark ++ decimal (Nat.ofDigitChars 10 digits 0)) =
      digits.dropWhile (· = '0') := by
  rw [canonical_number marking (decimal_nonempty _) (decimal_digits _), decimal_leading allDigits]

theorem level_alike {value : Text} {level : FlightLevel} (parsed : parseLevel value = some level) :
    (Alike value (displayLevel level) ↔ '+' ∉ value) ∧ Follows value (displayLevel level) := by
  obtain ⟨mark, sign, digits, rfl, marking, signing, nonempty, allDigits, written⟩ :=
    level_read parsed
  rw [written]
  apply number_alike marking signing nonempty allDigits
  · exact number_word (.inr rfl) (.inl rfl) (decimal_nonempty _) (decimal_digits _)
  · exact canonical_decimal allDigits (.inr rfl)

theorem degrees_alike {value : Text} {degrees : Nat}
    (parsed : parseDecimal 65535 value = some degrees) :
    Alike value (decimal degrees) ↔ '+' ∉ value := by
  obtain ⟨sign, digits, rfl, signing, nonempty, allDigits, rfl, _⟩ := parsed_digits parsed
  exact (number_alike (.inl rfl) signing nonempty allDigits (decimal_word _)
    (canonical_decimal allDigits (.inl rfl))).1

theorem lower_zero {char : Char} : char.toLower = '0' ↔ char = '0' := by
  constructor
  · intro lowered
    rcases lower_cases char with same | ⟨_, _, shifted⟩
    · rwa [same] at lowered
    · rw [lowered] at shifted
      have code : '0'.toNat = 48 := rfl
      omega
  · rintro rfl
    rfl

theorem parse_zeros {value : Text} (nonempty : value ≠ []) (zeros : ∀ char ∈ value, char = '0')
    (largest : Nat) : parseDecimal largest value = some 0 := by
  obtain ⟨count, written⟩ : ∃ count, value = List.replicate (count + 1) '0' := by
    refine ⟨value.length - 1, ?_⟩
    have positive := List.length_pos_iff.mpr nonempty
    rw [Nat.sub_add_cancel positive]
    exact List.eq_replicate_of_mem zeros
  have digits : (List.replicate (count + 1) '0').all Char.isDigit = true := by
    rw [List.all_eq_true]
    intro char member
    rw [List.eq_of_mem_replicate member]
    decide
  have number : Nat.ofDigitChars 10 (List.replicate (count + 1) '0') 0 = 0 := by simp
  rw [written, List.replicate_succ]
  rw [List.replicate_succ] at digits number
  change (if '0' :: List.replicate count '0' ≠ [] ∧
      ('0' :: List.replicate count '0').all Char.isDigit = true then
      if Nat.ofDigitChars 10 ('0' :: List.replicate count '0') 0 ≤ largest then
        some (Nat.ofDigitChars 10 ('0' :: List.replicate count '0') 0) else none
    else none) = some 0
  rw [if_pos ⟨by simp, digits⟩, number, if_pos (Nat.zero_le _)]

/-- A text without content that is no number is level zero. -/
theorem silent_zero {value : Text} (nonempty : value ≠ []) (trimmed : trim value = value)
    (unread : parseDecimal 65535 value = none) (silent : content value = [[]]) :
    zeroLevel value = true := by
  obtain ⟨word, single, silent⟩ := List.map_eq_singleton_iff.mp silent
  obtain rfl := words_single trimmed single
  rw [canonical, numeral] at silent
  split at silent
  next number =>
    have zeros := List.dropWhile_eq_nil_iff.mp silent
    cases prefixed : "fl".toList.isPrefixOf? (value.map Char.toLower) with
    | some digits =>
        rw [prefixed, Option.getD_some] at number zeros
        simp only [zeroLevel, prefixed, Option.any_some]
        simpa [number.1] using zeros
    | none =>
        rw [prefixed, Option.getD_none] at zeros
        have plain : ∀ char ∈ value, char = '0' := by
          intro char member
          have lowered := zeros _ (List.mem_map_of_mem member)
          exact lower_zero.mp (of_decide_eq_true lowered)
        rw [parse_zeros nonempty plain] at unread
        cases unread
  next => exact absurd (List.map_eq_nil_iff.mp silent) nonempty

theorem zero_silent {value : Text} (nonempty : value ≠ []) (zero : zeroLevel value = true) :
    content value = [[]] := by
  obtain ⟨zeros, prefixed, present, plain⟩ : ∃ zeros,
      "fl".toList.isPrefixOf? (value.map Char.toLower) = some zeros ∧ zeros ≠ [] ∧
        ∀ char ∈ zeros, char = '0' := by
    simpa [zeroLevel, Option.any_eq_true, and_assoc] using zero
  have lowered := List.isPrefixOf?_eq_some_iff_append_eq.mp prefixed
  have single : words value = [value] := by
    apply words_solid nonempty
    intro char member
    have inside : char.toLower ∈ "fl".toList ++ zeros := by
      rw [lowered]
      exact List.mem_map_of_mem member
    rw [← lower_white]
    rcases List.mem_append.mp inside with letter | zero
    · have named : char.toLower = 'f' ∨ char.toLower = 'l' := by simpa using letter
      rcases named with same | same <;> rw [same] <;> decide
    · rw [plain _ zero]
      decide
  have digits : zeros ≠ [] ∧ zeros.all Char.isDigit = true := by
    refine ⟨present, List.all_eq_true.mpr ?_⟩
    intro char member
    rw [plain char member]
    decide
  rw [content, single, List.map_singleton, canonical, numeral, prefixed, Option.getD_some,
    if_pos digits, List.dropWhile_eq_nil_iff.mpr fun char member => by simp [plain char member]]

theorem zero_alike {value : Text} (nonempty : value ≠ []) (trimmed : trim value = value)
    (unread : parseDecimal 65535 value = none) :
    Alike value (decimal 0) ↔ zeroLevel value = true := by
  have shown : content (decimal 0) = [[]] := by decide
  rw [Alike, shown]
  exact ⟨silent_zero nonempty trimmed unread, zero_silent nonempty⟩

theorem legible_iff {value : Text} (nonempty : value ≠ []) (trimmed : trim value = value)
    (argType : ArgType) : Alike value (shownValue value argType) ↔ legible argType value = true := by
  by_cases leveled : argType = .level
  · subst leveled
    cases parsed : parseLevel value with
    | none => simp [shownValue, textToArgument, parsed, displayArgument, legible, Alike]
    | some level =>
        have alike := (level_alike parsed).1
        simpa [shownValue, textToArgument, parsed, displayArgument, legible] using alike
  · by_cases turned : argType = .degrees
    · subst turned
      cases parsed : parseDecimal 65535 value with
      | none =>
          have alike := zero_alike nonempty trimmed parsed
          simpa [shownValue, textToArgument, parsed, displayArgument, legible] using alike
      | some degrees =>
          have alike := degrees_alike parsed
          obtain ⟨_, _, _, _, _, _, _, small⟩ := parsed_digits parsed
          have kept : degrees % 65536 = degrees := by omega
          simpa [shownValue, textToArgument, parsed, displayArgument, legible, kept] using alike
    · rw [shown_text value leveled turned]
      cases argType with
      | level => contradiction
      | degrees => contradiction
      | _ => exact iff_of_true rfl rfl

theorem shown_follows (value : Text) {argType : ArgType} (notDegrees : argType ≠ .degrees) :
    Follows value (shownValue value argType) := by
  by_cases leveled : argType = .level
  · subst leveled
    cases parsed : parseLevel value with
    | none =>
        have shown : shownValue value .level = value := by
          simp [shownValue, textToArgument, parsed, displayArgument]
        rw [shown]
        exact follows_self value
    | some level =>
        have shown : shownValue value .level = displayLevel level := by
          simp [shownValue, textToArgument, parsed, displayArgument]
        rw [shown]
        exact (level_alike parsed).2
  · rw [shown_text value leveled notDegrees]
    exact follows_self value

theorem shown_plain {value : Text} (plain : '[' ∉ value) (argType : ArgType) :
    '[' ∉ shownValue value argType := by
  by_cases leveled : argType = .level
  · subst leveled
    cases parsed : parseLevel value with
    | none => simpa [shownValue, textToArgument, parsed, displayArgument] using plain
    | some level =>
        have solid := (level_solid level).plain
        simpa [shownValue, textToArgument, parsed, displayArgument] using solid
  · by_cases turned : argType = .degrees
    · subst turned
      rw [shownValue, textToArgument]
      split <;> exact decimal_absent _ (by decide)
    · rw [shown_text value leveled turned]
      exact plain

end Values

/-! The literals of the templates that can match. -/
section Literals

/-- A text that is not blank, each of whose words has a letter that no number has. -/
def literal (text : Text) : Bool := trim text ≠ [] && (words text).all marked

def spacedSlots : List Text → List ArgType → Bool
  | segment :: segments, argType :: argTypes =>
      (segment = [] || (literal segment && startsBlank segment && argType ≠ .degrees &&
        (segments = [] || endsBlank segment))) && spacedSlots segments argTypes
  | _, _ => true

def spaced (definition : MessageDefinition) : Bool :=
  match splitTemplate definition.template.toList with
  | lead :: following =>
      (lead = [] || (literal lead && endsBlank lead)) && spacedSlots following definition.args
  | [] => false

theorem registry_spaced : ∀ definition ∈ messageRegistry,
    definition.args = [] ∨ adjacent definition = true ∨ spaced definition = true := by
  intro definition member
  rw [adjacent, spaced, registry_text member]
  revert definition
  decide +kernel

theorem literal_present {text : Text} (solid : literal text = true) : trim text ≠ [] := by
  intro blank
  simp [literal, blank] at solid

theorem literal_marked {text : Text} (solid : literal text = true) :
    ∀ word ∈ words text, marked word = true :=
  List.all_eq_true.mp (Bool.and_eq_true_iff.mp solid).2

theorem literal_content {text : Text} (solid : literal text = true) : content text ≠ [] := by
  intro none
  apply literal_present solid
  rw [trim, content_eq_nil.mp none]
  rfl

/-- Nothing runs into the last word of a literal unless it is another word. -/
theorem literal_gap {text after : Text} {rest : List Text} (nonempty : text ≠ [])
    (closed : endsBlank text = false) (letters : ∀ word ∈ words text, marked word = true)
    (same : content (text ++ after) = content text ++ rest) :
    after = [] ∨ startsBlank after = true := by
  by_contra joined
  rw [not_or, Bool.not_eq_true] at joined
  obtain ⟨word, more, rfl, present, solid, _⟩ := words_first joined.1 joined.2
  exact joined_unlike (follows_self text) nonempty closed present solid (.inr letters) more rest
    same

/-- A literal does not run into the value in front of it. -/
theorem value_gap {before shown segment after : Text} {rest : List Text}
    (nonempty : trim before ≠ []) (follows : Follows before shown) (solid : literal segment = true)
    (same : content (before ++ (trim segment ++ after)) = content shown ++ rest) :
    endsBlank before = true := by
  by_contra joined
  have opened := starts_solid (trim_start_trimmed (trim_trim segment))
  obtain ⟨word, more, whole, present, plain, inside⟩ :=
    words_first (literal_present solid) opened
  rw [words_trim] at inside
  have start : before ≠ [] := by
    rintro rfl
    exact nonempty rfl
  rw [whole, List.append_assoc] at same
  exact joined_unlike follows start (by simpa using joined) present plain
    (.inl (literal_marked solid word inside)) (more ++ after) rest same

end Literals

/-! The body against the template filled with what is shown of its values. -/
section Standing

def shownAll (values : List Text) (argTypes : List ArgType) : List Text :=
  (values.zip argTypes).map fun item => shownValue item.1 item.2

theorem shown_cons (value : Text) (values : List Text) (argType : ArgType)
    (argTypes : List ArgType) : shownAll (value :: values) (argType :: argTypes) =
      shownValue value argType :: shownAll values argTypes := rfl

theorem exhausted {segments : List Text} (present : segments ≠ []) :
    [] ∈ extractRemaining segments [] := by
  cases segments with
  | nil => contradiction
  | cons segment rest =>
      rw [extractRemaining]
      split
      · exact List.mem_cons_self
      · split
        next before after found =>
          have whole := split_once_sound found
          have none : before = [] := by
            cases before with
            | nil => rfl
            | cons first tail => cases whole
          rw [none]
          exact List.mem_cons_self
        next => exact List.mem_cons_self

theorem content_followed (left : Text) {right : Text}
    (gap : right = [] ∨ startsBlank right = true) :
    content (left ++ right) = content left ++ content right := by
  rcases gap with rfl | opened
  · rw [List.append_nil]
    exact (List.append_nil _).symm
  · exact content_spaced left right (.inr opened)

theorem standing_found {segment before after shown filled : Text} (solid : literal segment = true)
    (opened : startsBlank segment = true) (closed : filled = [] ∨ endsBlank segment = true)
    (nonempty : trim before ≠ []) (follows : Follows before shown) :
    content (before ++ (trim segment ++ after)) = content (shown ++ (segment ++ filled)) ↔
      endsBlank before = true ∧ content before = content shown ∧
        (after = [] ∨ startsBlank after = true) ∧ content after = content filled := by
  have template : content (shown ++ (segment ++ filled)) =
      content shown ++ (content (trim segment) ++ content filled) := by
    have front : startsBlank (segment ++ filled) = true := by
      cases segment with
      | nil => cases opened
      | cons first tail => exact opened
    rw [content_spaced shown _ (.inr front), content_trim]
    rcases closed with rfl | closed
    · rw [List.append_nil]
      congr 1
      exact (List.append_nil _).symm
    · rw [content_spaced segment filled (.inl closed)]
  rw [template]
  constructor
  · intro same
    have gap := value_gap nonempty follows solid same
    rw [content_spaced before _ (.inl gap)] at same
    obtain ⟨alike, later⟩ := List.append_inj same (follows_content follows)
    have ends := ends_solid (trim_end_trimmed (trim_trim segment))
    have letters : ∀ word ∈ words (trim segment), marked word = true := by
      rw [words_trim]
      exact literal_marked solid
    have behind := literal_gap (literal_present solid) ends letters later
    rw [content_followed _ behind] at later
    exact ⟨gap, alike, behind, List.append_cancel_left later⟩
  · rintro ⟨gap, alike, behind, later⟩
    rw [content_spaced before _ (.inl gap), content_followed _ behind, alike, later]

theorem lead_found {lead behind filled : Text} (solid : literal lead = true)
    (closed : endsBlank lead = true) (present : behind ≠ []) :
    content (trimEnd lead ++ behind) = content (lead ++ filled) ↔
      startsBlank behind = true ∧ content behind = content filled := by
  have text : content lead = content (trimEnd lead) := (content_trim_end lead).symm
  have nonempty : trimEnd lead ≠ [] := by
    intro none
    apply literal_content solid
    rw [text, none]
    rfl
  have letters : ∀ word ∈ words (trimEnd lead), marked word = true := by
    rw [words_trim_end]
    exact literal_marked solid
  rw [content_spaced lead _ (.inl closed), text]
  constructor
  · intro same
    have gap := literal_gap nonempty (ends_solid (List.rdropWhile_idempotent _ _)) letters same
    rw [content_followed _ gap] at same
    exact ⟨gap.resolve_left present, List.append_cancel_left same⟩
  · rintro ⟨gap, later⟩
    rw [content_followed _ (.inr gap), later]

/-- A literal that was not found: the template has more words than the body. -/
theorem missing_unlike {segment remaining shown : Text} (solid : literal segment = true)
    (opened : startsBlank segment = true) (follows : Follows remaining shown) :
    content remaining ≠ content (shown ++ segment) := by
  intro same
  have longer := congrArg List.length same
  rw [content_spaced shown segment (.inr opened), List.length_append,
    follows_content follows] at longer
  have present := List.length_pos_iff.mpr (literal_content solid)
  omega

/-! The three ways in which a segment is read. -/
section Segment
variable {segment remaining : Text} {rest : List Text} {argType : ArgType} {argTypes : List ArgType}

theorem extract_missing (present : segment ≠ []) (found : splitOnce (trim segment) remaining = none) :
    extractRemaining (segment :: rest) remaining = [trim remaining] := by
  rw [extractRemaining, if_neg present, found]

theorem extract_found {before after : Text} (present : segment ≠ [])
    (found : splitOnce (trim segment) remaining = some (before, after)) :
    extractRemaining (segment :: rest) remaining =
      trim before :: extractRemaining rest (trimStart after) := by
  rw [extractRemaining, if_neg present, found]

theorem shown_fill (value : Text) (values : List Text) :
    fill ((shownAll (value :: values) (argType :: argTypes)).zip (segment :: rest)) =
      shownValue value argType ++ (segment ++ fill ((shownAll values argTypes).zip rest)) := by
  rw [shown_cons, List.zip_cons_cons, fill_cons]

theorem solid_follows (value : Text) (notDegrees : argType ≠ .degrees) :
    Follows value (shownValue (trim value) argType) := by
  rw [Follows, ← words_trim]
  exact shown_follows _ notDegrees

theorem standing_last (nonempty : trim remaining ≠ []) :
    content remaining =
        content (fill ((shownAll [trim remaining] (argType :: argTypes)).zip [[]])) ↔
      standing [[]] (argType :: argTypes) remaining = true := by
  have ruled : standing [[]] (argType :: argTypes) remaining =
      legible argType (trim remaining) := by
    simp [standing]
  have own := legible_iff nonempty (trim_trim remaining) argType
  rw [Alike, content_trim] at own
  rw [ruled, ← own, shown_fill, List.zip_nil_right, fill_nil, List.append_nil, List.append_nil]

theorem standing_missing (present : segment ≠ []) (solid : literal segment = true)
    (opened : startsBlank segment = true) (notDegrees : argType ≠ .degrees)
    (found : splitOnce (trim segment) remaining = none) :
    content remaining =
        content (fill ((shownAll [trim remaining] (argType :: argTypes)).zip [segment])) ↔
      standing [segment] (argType :: argTypes) remaining = true := by
  have ruled : standing [segment] (argType :: argTypes) remaining = false := by
    simp [standing, present, found]
  have unlike := missing_unlike solid opened (solid_follows remaining notDegrees)
  rw [ruled, shown_fill, List.zip_nil_right, fill_nil, List.append_nil]
  exact iff_of_false unlike Bool.false_ne_true

theorem standing_step {before after : Text} {values : List Text} (present : segment ≠ [])
    (solid : literal segment = true) (opened : startsBlank segment = true)
    (closed : rest = [] ∨ endsBlank segment = true) (notDegrees : argType ≠ .degrees)
    (nonempty : trim before ≠ [])
    (found : splitOnce (trim segment) remaining = some (before, after))
    (later : content after = content (fill ((shownAll values argTypes).zip rest)) ↔
      standing rest argTypes (trimStart after) = true) :
    content remaining = content (fill ((shownAll (trim before :: values)
        (argType :: argTypes)).zip (segment :: rest))) ↔
      standing (segment :: rest) (argType :: argTypes) remaining = true := by
  have ruled : standing (segment :: rest) (argType :: argTypes) remaining = true ↔
      endsBlank before = true ∧ legible argType (trim before) = true ∧
        (after = [] ∨ startsBlank after = true) ∧
        standing rest argTypes (trimStart after) = true := by
    simp only [standing, if_neg present, found, Bool.and_eq_true, Bool.or_eq_true,
      decide_eq_true_eq, and_assoc]
  have own := legible_iff nonempty (trim_trim before) argType
  rw [Alike, content_trim] at own
  have last : fill ((shownAll values argTypes).zip rest) = [] ∨ endsBlank segment = true := by
    rcases closed with rfl | closed
    · rw [List.zip_nil_right]
      exact .inl rfl
    · exact .inr closed
  have whole : remaining = before ++ (trim segment ++ after) := by
    rw [split_once_sound found, List.append_assoc]
  rw [ruled, ← own, ← later, shown_fill, whole]
  exact standing_found solid opened last nonempty (solid_follows before notDegrees)

end Segment

/-- The words of the body are those of the filled template exactly when its literals stand
by themselves and its values are legible. -/
theorem standing_iff (segments : List Text) (argTypes : List ArgType) (remaining : Text)
    (slots : spacedSlots segments argTypes = true) (typed : segments.length = argTypes.length)
    (counted : (extractRemaining segments remaining).length = segments.length)
    (full : [] ∉ extractRemaining segments remaining) (start : trimStart remaining = remaining) :
    content remaining =
        content (fill ((shownAll (extractRemaining segments remaining) argTypes).zip segments)) ↔
      standing segments argTypes remaining = true := by
  induction segments generalizing argTypes remaining with
  | nil =>
      have done : standing [] argTypes remaining = decide (remaining = []) := by
        simp only [standing]
      rw [done, decide_eq_true_iff, List.zip_nil_right, fill_nil]
      have blank := @content_eq_nil remaining
      rwa [start] at blank
  | cons segment rest ih =>
      cases argTypes with
      | nil => cases typed
      | cons argType argTypes =>
          simp only [spacedSlots, Bool.and_eq_true, Bool.or_eq_true, decide_eq_true_eq] at slots
          obtain ⟨slot, slots⟩ := slots
          by_cases empty : segment = []
          · subst empty
            rw [extractRemaining, if_pos rfl] at full ⊢
            rw [List.mem_cons, not_or] at full
            -- behind all that remains there is no further value
            have last : rest = [] := by
              by_contra more
              exact full.2 (exhausted more)
            subst last
            exact standing_last (Ne.symm full.1)
          · rcases slot with absent | ⟨⟨⟨solid, opened⟩, notDegrees⟩, closed⟩
            · exact absurd absent empty
            · cases found : splitOnce (trim segment) remaining with
              | none =>
                  rw [extract_missing empty found] at counted ⊢
                  rw [List.length_singleton, List.length_cons] at counted
                  obtain rfl := List.length_eq_zero_iff.mp (Nat.succ.inj counted).symm
                  exact standing_missing empty solid opened notDegrees found
              | some cut =>
                  rw [extract_found empty found] at counted full ⊢
                  rw [List.length_cons, List.length_cons] at counted
                  rw [List.mem_cons, not_or] at full
                  have later := ih argTypes (trimStart cut.2) slots (Nat.succ.inj typed)
                    (Nat.succ.inj counted) full.2 (List.dropWhile_idempotent _ _)
                  rw [content_trim_start] at later
                  exact standing_step empty solid opened closed notDegrees (Ne.symm full.1) found
                    later

end Standing

/-! The rendered element, where the values stay out of each other's way. -/
section Rendered

theorem brackets_plain (segments : List Text) (argTypes : List ArgType) (remaining : Text)
    (counted : (extractRemaining segments remaining).length = segments.length)
    (full : [] ∉ extractRemaining segments remaining)
    (plain : opensBracket segments remaining = false) :
    ∀ shown ∈ (shownAll (extractRemaining segments remaining) argTypes).dropLast,
      '[' ∉ shown := by
  -- a value is what stands before the next segment, so its brackets are among those tested there
  induction segments generalizing argTypes remaining with
  | nil => simp [extractRemaining, shownAll]
  | cons segment rest ih =>
      cases argTypes with
      | nil => simp [shownAll]
      | cons argType argTypes =>
          cases rest with
          | nil =>
              obtain ⟨value, single⟩ := List.length_eq_one_iff.mp counted
              simp [single, shownAll]
          | cons next more =>
              by_cases empty : segment = []
              · rw [extractRemaining, if_pos empty, List.mem_cons, not_or] at full
                exact absurd (exhausted (List.cons_ne_nil next more)) full.2
              · cases found : splitOnce (trim segment) remaining with
                | none =>
                    rw [extract_missing empty found] at counted
                    cases counted
                | some cut =>
                    obtain ⟨before, after⟩ := cut
                    rw [extract_found empty found] at counted full ⊢
                    rw [opensBracket, found, Bool.or_eq_false_iff] at plain
                    rw [List.mem_cons, not_or] at full
                    have own : '[' ∉ trim before := by
                      intro opened
                      have inside := (trim_within before).subset opened
                      simp [inside] at plain
                    have later := ih argTypes (trimStart after) (Nat.succ.inj counted) full.2
                      plain.2
                    intro shown member
                    rw [shown_cons] at member
                    cases shape : shownAll (extractRemaining (next :: more) (trimStart after))
                        argTypes with
                    | nil => simp [shape] at member
                    | cons other others =>
                        rw [shape, List.dropLast_cons_cons] at member
                        rw [shape] at later
                        rcases List.mem_cons.mp member with rfl | inside
                        · exact shown_plain own argType
                        · exact later shown inside

def behindLead (definition : MessageDefinition) (body : Text) : Text :=
  body.drop (trimEnd ((splitTemplate definition.template.toList).headD [])).length

def standsIn (definition : MessageDefinition) (body : Text) : Bool :=
  match splitTemplate definition.template.toList with
  | lead :: following =>
      (lead = [] || startsBlank (behindLead definition body)) &&
        standing following definition.args (trimStart (behindLead definition body))
  | [] => false

def bracketsIn (definition : MessageDefinition) (body : Text) : Bool :=
  opensBracket (splitTemplate definition.template.toList).tail
    (trimStart (behindLead definition body))

/-- A template that matches, as the matcher goes through it. -/
structure Walk (definition : MessageDefinition) (body lead : Text) (following : List Text) : Prop where
  cut : splitTemplate definition.template.toList = lead :: following
  opened : body = trimEnd lead ++ behindLead definition body
  values : valuesOf body definition =
    extractRemaining following (trimStart (behindLead definition body))
  counted : following.length = definition.args.length

theorem walk_matched {definition : MessageDefinition} (member : definition ∈ messageRegistry)
    {body : Text} (start : trimStart body = body) (slotted : definition.args ≠ [])
    (arity : (valuesOf body definition).length = definition.args.length) :
    ∃ lead following, Walk definition body lead following := by
  have typed := following_length member
  cases cut : splitTemplate definition.template.toList with
  | nil =>
      rw [valuesOf, cut] at arity
      exact absurd (List.length_eq_zero_iff.mp arity.symm) slotted
  | cons lead following =>
      rw [cut, List.tail_cons] at typed
      by_cases empty : lead = []
      · have whole : behindLead definition body = body := by
          rw [behindLead, cut, List.headD_cons, empty]
          rfl
        refine ⟨lead, following, cut, ?_, ?_, typed⟩
        · rw [whole, empty]
          rfl
        · rw [whole, start, valuesOf, cut, extractValuesBetweenSegments, if_pos empty]
      · cases opened : (trimEnd lead).isPrefixOf? body with
        | none =>
            rw [valuesOf, cut, extractValuesBetweenSegments, if_neg empty, opened] at arity
            exact absurd (List.length_eq_zero_iff.mp arity.symm) slotted
        | some after =>
            have whole := List.isPrefixOf?_eq_some_iff_append_eq.mp opened
            have behind : behindLead definition body = after := by
              rw [behindLead, cut, List.headD_cons, ← whole, List.drop_left]
            refine ⟨lead, following, cut, ?_, ?_, typed⟩
            · rw [behind, whole]
            · rw [behind, valuesOf, cut, extractValuesBetweenSegments, if_neg empty, opened]

theorem rendered_filled {definition : MessageDefinition} (member : definition ∈ messageRegistry)
    {body lead : Text} {following : List Text} (walk : Walk definition body lead following)
    (arity : (valuesOf body definition).length = definition.args.length)
    (full : [] ∉ valuesOf body definition) (plain : bracketsIn definition body = false) :
    render definition (((valuesOf body definition).zip definition.args).map
        fun item => textToArgument item.1 item.2) =
      lead ++ fill ((shownAll (valuesOf body definition) definition.args).zip following) := by
  obtain ⟨layout, template, count, _⟩ := registry_layout member
  have segments := walk.cut
  rw [← template, split_template_layout, Layout.segments] at segments
  obtain ⟨rfl, rfl⟩ := List.cons.inj segments
  have shown : (((valuesOf body definition).zip definition.args).map
      fun item => textToArgument item.1 item.2).map displayArgument =
      shownAll (valuesOf body definition) definition.args := by
    rw [List.map_map]
    rfl
  have free : ∀ value ∈ (shownAll (valuesOf body definition) definition.args).dropLast,
      '[' ∉ value := by
    rw [bracketsIn, walk.cut, List.tail_cons] at plain
    rw [walk.values] at arity full ⊢
    exact brackets_plain layout.following definition.args _ (arity.trans walk.counted.symm) full
      plain
  rw [render, shown, ← template]
  apply replace_exactly layout.slots layout.plainSlots _ _ free _ layout.plainLead
  simp [shownAll, arity, count]

end Rendered

/-! When nothing is lost. -/
section Exactly

theorem filled_alike {definition : MessageDefinition} {body lead : Text} {following : List Text}
    (apart : spaced definition = true) (walk : Walk definition body lead following)
    (arity : (valuesOf body definition).length = definition.args.length)
    (slotted : definition.args ≠ []) (full : [] ∉ valuesOf body definition) :
    content body = content (lead ++
        fill ((shownAll (valuesOf body definition) definition.args).zip following)) ↔
      standsIn definition body = true := by
  simp only [spaced, walk.cut, Bool.and_eq_true, Bool.or_eq_true, decide_eq_true_eq] at apart
  obtain ⟨leading, slots⟩ := apart
  rw [walk.values] at arity full ⊢
  have slotwise := standing_iff following definition.args
    (trimStart (behindLead definition body)) slots walk.counted (arity.trans walk.counted.symm)
    full (List.dropWhile_idempotent _ _)
  rw [content_trim_start] at slotwise
  have ruled : standsIn definition body = true ↔
      (lead = [] ∨ startsBlank (behindLead definition body) = true) ∧
        standing following definition.args (trimStart (behindLead definition body)) = true := by
    simp only [standsIn, walk.cut, Bool.and_eq_true, Bool.or_eq_true, decide_eq_true_eq]
  rw [ruled, ← slotwise]
  -- the literal in front is either absent, or has a blank behind it that the matcher skips
  rcases leading with empty | ⟨solid, closed⟩
  · have whole : body = behindLead definition body := by
      conv_lhs => rw [walk.opened, empty]
      rfl
    rw [empty, List.nil_append, ← whole]
    simp
  · have present : behindLead definition body ≠ [] := by
      intro none
      have more : following ≠ [] := by
        rintro rfl
        exact slotted (List.length_eq_zero_iff.mp walk.counted.symm)
      rw [none] at full
      exact full (exhausted more)
    have led : lead ≠ [] := by
      rintro rfl
      exact literal_content solid rfl
    have whole : content body = content (trimEnd lead ++ behindLead definition body) :=
      congrArg content walk.opened
    rw [whole, lead_found solid closed present, or_iff_right led]

structure Chosen (body : Text) (direction : MessageDirection) (definition : MessageDefinition) :
    Prop where
  member : definition ∈ messageRegistry
  facing : definition.direction = direction
  matched : (tryMatchTemplate (trim body) definition).isSome
  alone : Unrivalled definition (trim body)

def Standing (body : Text) (direction : MessageDirection) : Prop :=
  ∀ definition, Chosen body direction definition → definition.args ≠ [] →
    standsIn definition (trim body) = true

def Bracketed (body : Text) (direction : MessageDirection) : Prop :=
  ∃ definition, Chosen body direction definition ∧ definition.args ≠ [] ∧
    bracketsIn definition (trim body) = true

theorem chosen_decoded {body : Text} {direction : MessageDirection}
    {definition : MessageDefinition} (chosen : Chosen body direction definition) :
    ∃ args, tryMatchTemplate (trim body) definition = some args ∧
      matchBodyToElement body direction = (definition.id, args) := by
  obtain ⟨args, matched⟩ := Option.isSome_iff_exists.mp chosen.matched
  have best := (chosen_iff chosen.member matched).mpr chosen.alone
  rw [chosen.facing] at best
  exact ⟨args, matched, by simp only [matchBodyToElement, best]⟩

theorem chosen_unique {body : Text} {direction : MessageDirection}
    {definition other : MessageDefinition} (chosen : Chosen body direction definition)
    (second : Chosen body direction other) : other = definition := by
  obtain ⟨_, _, first⟩ := chosen_decoded chosen
  obtain ⟨_, _, decoded⟩ := chosen_decoded second
  rw [first] at decoded
  exact eq_of_id chosen.member second.member (Prod.mk.inj decoded).1.symm

/-- A definition with arguments: where no value opens a bracket for a later one. -/
theorem rendered_alike {definition : MessageDefinition} (member : definition ∈ messageRegistry)
    {body : Text} {args : List CpdlcArgument} (trimmed : trim body = body)
    (matched : tryMatchTemplate body definition = some args) (slotted : definition.args ≠ [])
    (plain : bracketsIn definition body = false) :
    Alike body (render definition args) ↔ standsIn definition body = true := by
  rcases matched_cases matched with ⟨bare, _, _⟩ | ⟨_, arity, full, rfl⟩
  · exact absurd bare slotted
  · rcases registry_spaced definition member with bare | tight | apart
    · exact absurd bare slotted
    · rw [adjacent_unmatched member tight] at matched
      cases matched
    · obtain ⟨lead, following, walk⟩ :=
        walk_matched member (trim_start_trimmed trimmed) slotted arity
      rw [Alike, rendered_filled member walk arity full plain]
      exact filled_alike apart walk arity slotted full

theorem fallback_rendered (direction : MessageDirection) :
    renderElement ⟨fallbackId direction, [.freeText ""]⟩ = [] := by
  cases direction <;> decide +kernel

/-- A body is decoded without loss where its literals stand by themselves and its values
are legible, unless a value opens a bracket for a later one to be put in; and nowhere
else, but for such values. -/
theorem lossless_iff (body : Text) (direction : MessageDirection) :
    (Standing body direction ∧ ¬ Bracketed body direction → Lossless body direction) ∧
      (Lossless body direction → Standing body direction ∨ Bracketed body direction) := by
  rcases decoded_cases body direction with
    ⟨definition, member, args, facing, matched, alone, decoded⟩ | ⟨blank, unmatched, decoded⟩
  · have chosen : Chosen body direction definition :=
      ⟨member, facing, by rw [matched]; rfl, alone⟩
    have lossless : Lossless body direction ↔ Alike (trim body) (render definition args) := by
      rw [Lossless, decoded, renderElement]
      dsimp only
      rw [find_definition_of_mem definition member]
    -- without slots the match itself says that the texts are alike
    by_cases bare : definition.args = []
    · have same : Alike (trim body) (render definition args) := by
        rcases matched_cases matched with ⟨_, rfl, alike⟩ | ⟨slotted, _⟩
        · exact alike_lower (beq_iff_eq.mp alike)
        · exact absurd bare slotted
      refine ⟨fun _ => lossless.mpr same, fun _ => .inl ?_⟩
      intro other second slotted
      rw [chosen_unique chosen second] at slotted
      exact absurd bare slotted
    · by_cases plain : bracketsIn definition (trim body) = false
      · have exactly := rendered_alike member (trim_trim body) matched bare plain
        constructor
        · rintro ⟨stands, _⟩
          exact lossless.mpr (exactly.mpr (stands definition chosen bare))
        · intro kept
          left
          intro other second _
          rw [chosen_unique chosen second]
          exact exactly.mp (lossless.mp kept)
      -- a bracket in a value is read as a slot by the renderer, and nothing is claimed
      · have bracketed : Bracketed body direction :=
          ⟨definition, chosen, bare, by simpa using plain⟩
        exact ⟨fun free => absurd bracketed free.2, fun _ => .inr bracketed⟩
  · constructor
    · intro _
      rw [Lossless, decoded, blank]
      exact congrArg content (fallback_rendered direction).symm
    · intro _
      left
      intro definition chosen _
      have matched := chosen.matched
      rw [unmatched definition chosen.member chosen.facing] at matched
      cases matched

/-- The literal that asks for a speed is not in the body, and what is rendered is not either
what the body says. -/
theorem level_taken_for_speed :
    matchBodyToElement "MAINTAIN FL350".toList .uplink = ("UM108", [.speed "FL350"]) ∧
      renderElement ⟨"UM108", [.speed "FL350"]⟩ = "MAINTAIN FL350 OR GREATER".toList ∧
      ¬ Lossless "MAINTAIN FL350".toList .uplink := by
  have decoded : matchBodyToElement "MAINTAIN FL350".toList .uplink =
      ("UM108", [.speed "FL350"]) := by
    decide +kernel
  have rendered : renderElement ⟨"UM108", [.speed "FL350"]⟩ =
      "MAINTAIN FL350 OR GREATER".toList := by
    decide +kernel
  refine ⟨decoded, rendered, ?_⟩
  rw [Lossless, decoded, rendered]
  decide +kernel

end Exactly

end OpenLink.LosslessDecoding
