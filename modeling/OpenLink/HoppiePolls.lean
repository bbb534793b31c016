import OpenLink.HoppieClient
import OpenLink.Nesting
import OpenLink.Utf8Text

/-!
The answer to a poll on Hoppie: blocks of a sender, a type and a packet, each in
braces. The loop works on the bytes of the answer and the search for the closing
brace counts in 32 bits.
-/
namespace OpenLink.HoppiePolls
open HoppieClient Nesting Texts Utf8Text

/-- An error that the function returns, or a fault that ends the program: an index out
of range, or an overflow. -/
inductive PollFailure where
  | returned (message : String)
  | panicked
  deriving DecidableEq

abbrev Poll := Except PollFailure

def i32 (value : Int) : Poll Int :=
  if -2147483648 ≤ value ∧ value ≤ 2147483647 then .ok value else .error .panicked

def sliceTo (bytes : Bytes) (stop : Nat) : Poll Bytes :=
  if stop ≤ bytes.length then .ok (bytes.take stop) else .error .panicked

def sliceFrom (bytes : Bytes) (start : Nat) : Poll Bytes :=
  if start ≤ bytes.length then .ok (bytes.drop start) else .error .panicked

def textFrom : Text → Nat → Poll Text
  | text, 0 => .ok text
  | [], _ + 1 => .error .panicked
  | char :: rest, offset + 1 =>
      if char.utf8Size ≤ offset + 1 then textFrom rest (offset + 1 - char.utf8Size)
      else .error .panicked

def leftBrace : UInt8 := 0x7B

def rightBrace : UInt8 := 0x7D

def blank (byte : UInt8) : Bool := byte == 0x20 || byte == 0x0A

/-- The search for the closing brace: the depth at its end and the place it has found. -/
def findClosing : Bytes → Nat → Int → Nat → Poll (Int × Nat)
  | [], _, depth, stop => .ok (depth, stop)
  | byte :: rest, index, depth, stop =>
      if byte = leftBrace then do
        let depth ← i32 (depth + 1)
        findClosing rest (index + 1) depth stop
      else if byte = rightBrace then do
        let depth ← i32 (depth - 1)
        if depth = 0 then .ok (depth, index) else findClosing rest (index + 1) depth stop
      else findClosing rest (index + 1) depth stop

def stripBraces (text : Text) : Text :=
  match text with
  | '{' :: rest => if rest.getLast? = some '}' then rest.dropLast else text
  | _ => text

theorem slice_from_shorter {bytes rest : Bytes} {start : Nat} (positive : 0 < start)
    (cut : sliceFrom bytes start = .ok rest) : rest.length < bytes.length := by
  unfold sliceFrom at cut
  split at cut
  next within =>
    cases cut
    rw [List.length_drop]
    omega
  next => cases cut

section Parsing
variable (toLowercase : String → String)

def parseMessageBlock (block : Text) : Option HoppieMessage :=
  match splitOnce [' '] block with
  | none => none
  | some (sender, rest) =>
      match splitOnce [' '] rest with
      | none => none
      | some (msgType, packet) =>
          some ⟨String.ofList sender, .fromStr toLowercase (String.ofList msgType),
            stripBraces (trim packet)⟩

/-- The loop over the blocks; `messages` is what the earlier ones have added. -/
def parseBlocks (bytes : Bytes) (messages : List HoppieMessage) : Poll (List HoppieMessage) :=
  match _skipped : bytes.dropWhile blank with
  | [] => .ok messages
  | first :: remaining =>
      -- what does not open a block, or does not close it, ends the loop
      if first ≠ leftBrace then .ok messages
      else
        match findClosing remaining 0 1 0 with
        | .error failure => .error failure
        | .ok (depth, stop) =>
            if depth ≠ 0 then .ok messages
            else
              match sliceTo remaining stop with
              | .error failure => .error failure
              | .ok block =>
                  match decode block with
                  | none => .error (.returned "invalid UTF-8 in Hoppie block")
                  | some text =>
                      match _behind : sliceFrom remaining (stop + 1) with
                      | .error failure => .error failure
                      | .ok rest =>
                          match parseMessageBlock toLowercase (trim text) with
                          | some message => parseBlocks rest (messages ++ [message])
                          | none => parseBlocks rest messages
termination_by bytes.length
decreasing_by
  all_goals
    have shorter := slice_from_shorter (Nat.succ_pos stop) _behind
    have skipped := (List.dropWhile_suffix blank (l := bytes)).length_le
    rw [_skipped, List.length_cons] at skipped
    omega

def parsePollResponse (body : Text) : Poll (List HoppieMessage) :=
  let body := trim body
  if body = "ok".toList ∨ body = "ok {}".toList then .ok []
  else if !"ok".toList.isPrefixOf body then
    .error (.returned ("unexpected Hoppie response: " ++ String.ofList body))
  else
    match textFrom body 2 with
    | .error failure => .error failure
    | .ok content => parseBlocks toLowercase (encode (trim content)) []

end Parsing

/-! The search for the closing brace. -/
section Search

theorem i32_within {value : Int} (low : -2147483648 ≤ value) (high : value ≤ 2147483647) :
    i32 value = .ok value := if_pos ⟨low, high⟩

/-- While there is room for the depth, the search ends, and where it ends inside no block it
has found a closing brace. -/
theorem find_closing_ends (bytes : Bytes) (index : Nat) (depth : Int) (stop : Nat)
    (inside : 1 ≤ depth) (room : depth + bytes.length ≤ 2147483647) :
    ∃ final place, findClosing bytes index depth stop = .ok (final, place) ∧
      (final = 0 → ∃ inner after, bytes = inner ++ rightBrace :: after ∧
        place = index + inner.length) := by
  induction bytes generalizing index depth with
  | nil => exact ⟨depth, stop, rfl, fun none => by omega⟩
  | cons byte rest ih =>
      rw [List.length_cons, Int.natCast_succ] at room
      have onwards : ∀ next : Int, 1 ≤ next → next + rest.length ≤ 2147483647 →
          ∃ final place, findClosing rest (index + 1) next stop = .ok (final, place) ∧
            (final = 0 → ∃ inner after, byte :: rest = inner ++ rightBrace :: after ∧
              place = index + inner.length) := by
        intro next positive small
        obtain ⟨final, place, found, closed⟩ := ih (index + 1) next positive small
        refine ⟨final, place, found, fun none => ?_⟩
        obtain ⟨inner, after, split, same⟩ := closed none
        exact ⟨byte :: inner, after, by rw [split]; rfl, by rw [same, List.length_cons]; omega⟩
      by_cases opens : byte = leftBrace
      · have fits : i32 (depth + 1) = .ok (depth + 1) := i32_within (by omega) (by omega)
        simp only [findClosing, if_pos opens, fits]
        exact onwards (depth + 1) (by omega) (by omega)
      · by_cases ends : byte = rightBrace
        · have fits : i32 (depth - 1) = .ok (depth - 1) := i32_within (by omega) (by omega)
          simp only [findClosing, if_neg opens, if_pos ends, fits]
          by_cases last : depth - 1 = 0
          · refine ⟨0, index, ?_, fun _ => ⟨[], rest, by rw [ends]; rfl, rfl⟩⟩
            simp only [bind, Except.bind, last, if_true]
          · simp only [bind, Except.bind, if_neg last]
            exact onwards (depth - 1) (by omega) (by omega)
        · simp only [findClosing, if_neg opens, if_neg ends]
          exact onwards depth inside (by omega)

theorem braces_apart : rightBrace ≠ leftBrace := by decide

theorem find_closing_plain {plain : Bytes} (free : Plain leftBrace rightBrace plain)
    (rest : Bytes) (index : Nat) (depth : Int) (stop : Nat) :
    findClosing (plain ++ rest) index depth stop =
      findClosing rest (index + plain.length) depth stop := by
  induction plain generalizing index with
  | nil => rfl
  | cons byte plain ih =>
      obtain ⟨notOpening, notClosing⟩ := free
      rw [List.mem_cons, not_or] at notOpening notClosing
      rw [List.cons_append, findClosing, if_neg (Ne.symm notOpening.1),
        if_neg (Ne.symm notClosing.1), ih ⟨notOpening.2, notClosing.2⟩, List.length_cons,
        Nat.add_assoc, Nat.add_comm 1]

/-- The search stops at the brace that closes the level it has started in. -/
theorem find_closing_balanced (inner after : Bytes) (index levels stop : Nat)
    (closed : closes leftBrace rightBrace levels inner = true)
    (room : levels + 1 + inner.length ≤ 2147483647) :
    findClosing (inner ++ rightBrace :: after) index (levels + 1) stop =
      .ok (0, index + inner.length) := by
  -- the depth of the loop is one more than the levels open in the text, so it is 0 at the end only
  induction inner generalizing index levels with
  | nil =>
      have none : levels = 0 := by simpa [closes] using closed
      rw [none, List.nil_append, findClosing, if_neg braces_apart, if_pos rfl]
      rfl
  | cons byte inner ih =>
      rw [List.length_cons] at room
      rw [closes] at closed
      rw [List.cons_append, findClosing]
      have place : index + 1 + inner.length = index + (byte :: inner).length := by
        rw [List.length_cons]
        omega
      split at closed
      next opens =>
        have deeper := ih (index + 1) (levels + 1) closed (by omega)
        rw [if_pos opens, i32_within (by omega) (by omega), ← place, ← deeper, Int.natCast_succ]
        rfl
      next other =>
        split at closed
        next ends =>
          obtain ⟨positive, later⟩ := Bool.and_eq_true_iff.mp closed
          obtain ⟨outer, rfl⟩ := Nat.exists_eq_succ_of_ne_zero
            (Nat.pos_iff_ne_zero.mp (of_decide_eq_true positive))
          have higher := ih (index + 1) outer later (by omega)
          rw [if_neg other, if_pos ends, i32_within (by omega) (by omega), ← place, ← higher]
          have inside : ((outer.succ : Int) + 1 - 1) = outer + 1 := by omega
          simp only [bind, Except.bind, inside]
          rw [if_neg (by omega)]
        next plain =>
          have level := ih (index + 1) levels closed (by omega)
          rw [if_neg other, if_neg plain, ← place, ← level]

/-- So many opening braces at once are more than the depth can count. -/
theorem find_closing_overflow (count : Nat) (rest : Bytes) (index : Nat) (depth : Int)
    (stop : Nat) (counted : 0 ≤ depth ∧ depth ≤ 2147483647) (many : 2147483647 < depth + count) :
    findClosing (List.replicate count leftBrace ++ rest) index depth stop = .error .panicked := by
  induction count generalizing index depth with
  | zero => omega
  | succ count ih =>
      rw [List.replicate_succ, List.cons_append, findClosing, if_pos rfl]
      by_cases last : depth + 1 ≤ 2147483647
      · rw [i32_within (by omega) last]
        exact ih (index + 1) (depth + 1) (by omega) (by omega)
      · rw [i32, if_neg (fun fits => last fits.2)]
        rfl

end Search

/-! The loop over the blocks. -/
section Blocks
variable (toLowercase : String → String)

theorem parse_blocks_end {bytes : Bytes} (skipped : bytes.dropWhile blank = [])
    (messages : List HoppieMessage) : parseBlocks toLowercase bytes messages = .ok messages := by
  rw [parseBlocks]
  split
  · rfl
  · next first remaining found =>
      rw [skipped] at found
      cases found

theorem parse_blocks_stray {bytes remaining : Bytes} {first : UInt8}
    (skipped : bytes.dropWhile blank = first :: remaining) (stray : first ≠ leftBrace)
    (messages : List HoppieMessage) : parseBlocks toLowercase bytes messages = .ok messages := by
  rw [parseBlocks]
  split
  · rfl
  · next other rest found =>
      rw [skipped] at found
      cases found
      exact if_pos stray

theorem parse_blocks_open {bytes remaining : Bytes} {final : Int} {place : Nat}
    (skipped : bytes.dropWhile blank = leftBrace :: remaining)
    (searched : findClosing remaining 0 1 0 = .ok (final, place)) (unbalanced : final ≠ 0)
    (messages : List HoppieMessage) : parseBlocks toLowercase bytes messages = .ok messages := by
  rw [parseBlocks]
  split
  · rfl
  · next other rest found =>
      rw [skipped] at found
      cases found
      simp only [searched, unbalanced, ne_eq, not_true_eq_false, not_false_eq_true, if_true,
        if_false]

theorem parse_blocks_fault {bytes remaining : Bytes} {failure : PollFailure}
    (skipped : bytes.dropWhile blank = leftBrace :: remaining)
    (searched : findClosing remaining 0 1 0 = .error failure) (messages : List HoppieMessage) :
    parseBlocks toLowercase bytes messages = .error failure := by
  rw [parseBlocks]
  split
  · next found =>
      rw [skipped] at found
      cases found
  · next other rest found =>
      rw [skipped] at found
      cases found
      simp only [searched, ne_eq, not_true_eq_false, if_false]

/-- A block that is closed adds its message, if it has one, and is taken off. -/
theorem parse_blocks_block {bytes inner after : Bytes} {text : Text}
    (skipped : bytes.dropWhile blank = leftBrace :: (inner ++ rightBrace :: after))
    (searched : findClosing (inner ++ rightBrace :: after) 0 1 0 = .ok (0, inner.length))
    (decoded : decode inner = some text) (messages : List HoppieMessage) :
    parseBlocks toLowercase bytes messages =
      parseBlocks toLowercase after
        (messages ++ (parseMessageBlock toLowercase (trim text)).toList) := by
  have block : sliceTo (inner ++ rightBrace :: after) inner.length = .ok inner := by
    rw [sliceTo, if_pos (by simp), List.take_left]
  have behind : sliceFrom (inner ++ rightBrace :: after) (inner.length + 1) = .ok after := by
    rw [sliceFrom, if_pos (by simp), ← List.drop_drop, List.drop_left, List.drop_one,
      List.tail_cons]
  conv_lhs => rw [parseBlocks]
  split
  · next found =>
      rw [skipped] at found
      cases found
  · next other rest found =>
      rw [skipped] at found
      cases found
      simp only [searched, block, decoded, ne_eq, not_true_eq_false, if_false]
      split
      · next failed =>
          rw [behind] at failed
          cases failed
      · next rest cut =>
          rw [behind] at cut
          cases cut
          cases parseMessageBlock toLowercase (trim text) <;> simp

/-- On the bytes of a text the loop ends well, whatever the text is. -/
theorem blocks_parsed (text : Text) (room : (encode text).length ≤ 2147483646)
    (messages : List HoppieMessage) :
    ∃ result, parseBlocks toLowercase (encode text) messages = .ok result := by
  induction size : (encode text).length using Nat.strong_induction_on generalizing text messages with
  | _ size ih =>
    cases skipped : (encode text).dropWhile blank with
    | nil => exact ⟨messages, parse_blocks_end toLowercase skipped messages⟩
    | cons first remaining =>
        by_cases stray : first = leftBrace
        · subst stray
          -- the cuts lie at braces, so what is left is a text again
          have whole := List.takeWhile_append_dropWhile (p := blank) (l := encode text)
          rw [skipped] at whole
          obtain ⟨_, _, back, _, _, _, _, rfl⟩ := encode_cut (by decide) whole.symm
          have shorter : (encode back).length < (encode text).length := by
            rw [← whole, List.length_append, List.length_cons]
            omega
          obtain ⟨final, place, searched, closed⟩ :=
            find_closing_ends (encode back) 0 1 0 (by decide) (by omega)
          by_cases balanced : final = 0
          · obtain ⟨inner, after, split, same⟩ := closed balanced
            obtain ⟨front, _, rest, _, _, _, rfl, rfl⟩ := encode_cut (by decide) split
            rw [Nat.zero_add] at same
            rw [split, balanced, same] at searched
            rw [split] at skipped
            rw [parse_blocks_block toLowercase skipped searched (decode_encode front)]
            have further : (encode rest).length < (encode back).length := by
              rw [split, List.length_append, List.length_cons]
              omega
            exact ih _ (by omega) rest (by omega) _ rfl
          · exact ⟨messages, parse_blocks_open toLowercase skipped searched balanced messages⟩
        · exact ⟨messages, parse_blocks_stray toLowercase skipped stray messages⟩

end Blocks

/-! The whole answer. -/
section Answer
variable (toLowercase : String → String)

theorem encode_trim_length (text : Text) : (encode (trim text)).length ≤ (encode text).length := by
  have whole := congrArg List.length (congrArg encode (trim_pieces text))
  rw [encode_append, encode_append, List.length_append, List.length_append] at whole
  omega

theorem text_from_ok (rest : Text) : textFrom ("ok".toList ++ rest) 2 = .ok rest := by
  have letters : "ok".toList = ['o', 'k'] := by decide
  have first : 'o'.utf8Size = 1 := by decide
  have second : 'k'.utf8Size = 1 := by decide
  simp [letters, textFrom, first, second]

theorem parse_response_blocks {body rest : Text} (whole : trim body = "ok".toList ++ rest)
    (filled : ¬ (trim body = "ok".toList ∨ trim body = "ok {}".toList)) :
    parsePollResponse toLowercase body = parseBlocks toLowercase (encode (trim rest)) [] := by
  simp only [parsePollResponse]
  rw [if_neg filled, whole, text_from_ok, List.isPrefixOf_iff_prefix.mpr (List.prefix_append _ _)]
  rfl

theorem long_filled {text : Text} (long : 5 < text.length) :
    ¬ (text = "ok".toList ∨ text = "ok {}".toList) := by
  rintro (rfl | rfl)
  · exact absurd long (by decide)
  · exact absurd long (by decide)

/-- An answer that starts with `ok` is parsed, however its braces are nested, and any other
one is the only error: no block is cut inside a character, no index is out of range and the
depth does not overflow. -/
theorem poll_response_total (body : Text) (small : (encode body).length < 2147483648) :
    ("ok".toList <+: trim body →
      ∃ messages, parsePollResponse toLowercase body = .ok messages) ∧
    (¬ "ok".toList <+: trim body →
      parsePollResponse toLowercase body =
        .error (.returned ("unexpected Hoppie response: " ++ String.ofList (trim body)))) ∧
    parsePollResponse toLowercase body ≠ .error (.returned "invalid UTF-8 in Hoppie block") ∧
    parsePollResponse toLowercase body ≠ .error .panicked := by
  -- behind an `ok`, every loop reads on in a shorter text, so all of it is parsed
  have accepted : "ok".toList <+: trim body →
      ∃ messages, parsePollResponse toLowercase body = .ok messages := by
    rintro ⟨rest, whole⟩
    by_cases bare : trim body = "ok".toList ∨ trim body = "ok {}".toList
    · exact ⟨[], by simp only [parsePollResponse, if_pos bare]⟩
    · rw [parse_response_blocks toLowercase whole.symm bare]
      have shorter := encode_trim_length body
      rw [← whole, encode_append, List.length_append] at shorter
      have content := encode_trim_length rest
      have letters : (encode "ok".toList).length = 2 := by decide
      exact blocks_parsed toLowercase (trim rest) (by omega) []
  have refused : ¬ "ok".toList <+: trim body → parsePollResponse toLowercase body =
      .error (.returned ("unexpected Hoppie response: " ++ String.ofList (trim body))) := by
    intro other
    have foreign : "ok".toList.isPrefixOf (trim body) = false := by
      rw [← Bool.not_eq_true, List.isPrefixOf_iff_prefix]
      exact other
    simp only [parsePollResponse]
    rw [if_neg, foreign]
    · rfl
    · rintro (bare | empty)
      · exact other (bare ▸ List.prefix_rfl)
      · exact other (empty ▸ by decide)
  refine ⟨accepted, refused, ?_, ?_⟩
  · intro invalid
    by_cases start : "ok".toList <+: trim body
    · obtain ⟨messages, parsed⟩ := accepted start
      rw [parsed] at invalid
      cases invalid
    · rw [refused start] at invalid
      have texts := congrArg String.toList (PollFailure.returned.inj (Except.error.inj invalid))
      rw [String.toList_append] at texts
      simp at texts
  · intro fault
    by_cases start : "ok".toList <+: trim body
    · obtain ⟨messages, parsed⟩ := accepted start
      rw [parsed] at fault
      cases fault
    · rw [refused start] at fault
      cases fault

/-- Unbalanced braces around a character of two bytes. -/
theorem poll_response_total_unbalanced :
    ∃ messages, parsePollResponse id "ok \x7bé \x7b\x7bé\x7d".toList = .ok messages :=
  (poll_response_total id _ (by decide +kernel)).1 (by decide +kernel)

end Answer

end OpenLink.HoppiePolls
