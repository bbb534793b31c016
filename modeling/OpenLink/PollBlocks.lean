import OpenLink.HoppiePolls

/-!
What a poll delivers: an answer made of blocks, with any blanks between them, is
parsed into one message for each block, in their order.
-/
namespace OpenLink.PollBlocks
open HoppieClient HoppiePolls Nesting Texts Utf8Text

structure Field (text : Text) : Prop where
  nonempty : text ≠ []
  solid : ∀ char ∈ text, isWhitespace char = false
  plain : Plain '{' '}' text

instance (text : Text) : Decidable (Field text) :=
  decidable_of_iff (text ≠ [] ∧ (text.all fun char => !isWhitespace char) = true ∧
      Plain '{' '}' text)
    ⟨fun field => ⟨field.1, by simpa using field.2.1, field.2.2⟩,
      fun field => ⟨field.nonempty, by simpa using field.solid, field.plain⟩⟩

structure PollBlock where
  sender : Text
  msgType : Text
  packet : Text
  senderField : Field sender
  typeField : Field msgType
  balanced : Paired '{' '}' packet

def Gap (text : Text) : Prop := ∀ char ∈ text, char = ' ' ∨ char = '\n'

namespace PollBlock
variable (block : PollBlock)

def inner : Text :=
  block.sender ++ ' ' :: (block.msgType ++ ' ' :: ('{' :: (block.packet ++ ['}'])))

def text : Text := '{' :: (block.inner ++ ['}'])

def message (toLowercase : String → String) : HoppieMessage :=
  ⟨String.ofList block.sender, .fromStr toLowercase (String.ofList block.msgType), block.packet⟩

end PollBlock

def spread (blocks : List (PollBlock × Text)) : Text :=
  blocks.flatMap fun item => item.1.text ++ item.2

def answer (lead : Text) (blocks : List (PollBlock × Text)) : Text :=
  "ok".toList ++ (lead ++ spread blocks)

/-! Braces in a text and in its bytes. -/
section Braces

theorem ascii_left : Ascii '{' := by decide

theorem ascii_right : Ascii '}' := by decide

theorem closes_encode (text : Text) (depth : Nat) :
    closes leftBrace rightBrace depth (encode text) = closes '{' '}' depth text := by
  induction text generalizing depth with
  | nil => rfl
  | cons char rest ih =>
      by_cases ascii : Ascii char
      · have opens : asciiByte char = leftBrace ↔ char = '{' :=
          ⟨fun same => ascii_byte_injective ascii ascii_left same, fun same => by rw [same]; rfl⟩
        have ends : asciiByte char = rightBrace ↔ char = '}' :=
          ⟨fun same => ascii_byte_injective ascii ascii_right same, fun same => by rw [same]; rfl⟩
        rw [encode_cons_ascii ascii, closes, closes, ih, ih, ih]
        simp only [opens, ends]
      · have high := encode_high ascii
        have free : Plain leftBrace rightBrace (String.utf8EncodeChar char) :=
          ⟨fun member => absurd (high _ member) (by decide),
            fun member => absurd (high _ member) (by decide)⟩
        have notLeft : char ≠ '{' := fun same => ascii (same ▸ ascii_left)
        have notRight : char ≠ '}' := fun same => ascii (same ▸ ascii_right)
        rw [encode_cons, closes_plain _ _ free, ih, closes, if_neg notLeft, if_neg notRight]

theorem field_spaceless {text : Text} (field : Field text) : ' ' ∉ text := by
  intro member
  have solid := field.solid ' ' member
  revert solid
  decide

/-- The braces of a block: those of its packet, inside a pair of their own. -/
theorem inner_balanced (block : PollBlock) : Paired '{' '}' block.inner := by
  have spaces : ∀ text : Text, Field text → Plain '{' '}' (text ++ [' ']) := by
    intro text field
    simp [Plain, field.plain.1, field.plain.2]
  have pieces : block.inner = (block.sender ++ [' ']) ++
      ((block.msgType ++ [' ']) ++ ('{' :: (block.packet ++ ['}']))) := by
    simp [PollBlock.inner]
  rw [Paired, pieces, closes_plain _ _ (spaces _ block.senderField),
    closes_plain _ _ (spaces _ block.typeField)]
  exact balanced_bracketed _ _ (by decide) block.balanced

end Braces

/-! One block. -/
section Block
variable (block : PollBlock)

theorem trim_start_solid {text : Text} {first : Char} (solid : isWhitespace first = false) :
    trimStart (first :: text) = first :: text :=
  List.dropWhile_cons_of_neg (by simp [solid])

theorem trim_end_brace (text : Text) : trimEnd (text ++ ['}']) = text ++ ['}'] := by
  have closed := trim_end_separator '}' (by decide) text []
  rwa [show trimEnd [] = [] from rfl] at closed

theorem inner_trimmed : trim block.inner = block.inner := by
  apply trim_of_ends
  · cases written : block.sender with
    | nil => exact absurd written block.senderField.nonempty
    | cons first rest =>
        rw [PollBlock.inner, written]
        exact trim_start_solid (block.senderField.solid first (by simp [written]))
  · have pieces : block.inner =
        (block.sender ++ ' ' :: (block.msgType ++ ' ' :: ('{' :: block.packet))) ++ ['}'] := by
      simp [PollBlock.inner]
    rw [pieces, trim_end_brace]

theorem packet_stripped : stripBraces (trim ('{' :: (block.packet ++ ['}']))) = block.packet := by
  have trimmed : trim ('{' :: (block.packet ++ ['}'])) = '{' :: (block.packet ++ ['}']) := by
    apply trim_of_ends
    · exact trim_start_solid (by decide)
    · exact trim_end_brace ('{' :: block.packet)
  simp [trimmed, stripBraces]

theorem block_parsed (toLowercase : String → String) :
    parseMessageBlock toLowercase block.inner = some (block.message toLowercase) := by
  rw [parseMessageBlock, PollBlock.inner, split_once_char (field_spaceless block.senderField)]
  simp only [split_once_char (field_spaceless block.typeField), packet_stripped, PollBlock.message]

end Block

/-! Any number of blocks. -/
section Spread
variable (toLowercase : String → String)

theorem encode_gap {gap : Text} (white : Gap gap) : ∀ byte ∈ encode gap, blank byte = true := by
  induction gap with
  | nil => simp
  | cons char rest ih =>
      have ascii : Ascii char := by
        rcases white char (by simp) with rfl | rfl <;> decide
      have first : blank (asciiByte char) = true := by
        rcases white char (by simp) with rfl | rfl <;> decide
      intro byte member
      rw [encode_cons_ascii ascii] at member
      rcases List.mem_cons.mp member with rfl | later
      · exact first
      · exact ih (fun other inside => white other (List.mem_cons_of_mem _ inside)) byte later

theorem gap_white {gap : Text} (white : Gap gap) : ∀ char ∈ gap, isWhitespace char := by
  intro char member
  rcases white char member with rfl | rfl <;> decide

/-- The loop takes off one block after the other, with the blanks in front of it. -/
theorem spread_parsed (lead : Text) (blocks : List (PollBlock × Text)) (white : Gap lead)
    (gaps : ∀ item ∈ blocks, Gap item.2)
    (room : (encode (lead ++ spread blocks)).length ≤ 2147483646)
    (messages : List HoppieMessage) :
    parseBlocks toLowercase (encode (lead ++ spread blocks)) messages =
      .ok (messages ++ blocks.map fun item => item.1.message toLowercase) := by
  -- the loop takes one block a round, and the gap behind it is the lead of the next round
  induction blocks generalizing lead messages with
  | nil =>
      have skipped : (encode (lead ++ spread [])).dropWhile blank = [] := by
        rw [List.dropWhile_eq_nil_iff]
        simpa [spread] using encode_gap white
      rw [parse_blocks_end toLowercase skipped]
      simp
  | cons item rest ih =>
      obtain ⟨block, gap⟩ := item
      have text : encode (lead ++ spread ((block, gap) :: rest)) =
          encode lead ++ leftBrace ::
            (encode block.inner ++ rightBrace :: encode (gap ++ spread rest)) := by
        have pieces : lead ++ spread ((block, gap) :: rest) =
            lead ++ '{' :: (block.inner ++ '}' :: (gap ++ spread rest)) := by
          simp [spread, PollBlock.text]
        rw [pieces, encode_append, encode_cons_ascii ascii_left, encode_append,
          encode_cons_ascii ascii_right]
        rfl
      rw [text] at room ⊢
      simp only [List.length_append, List.length_cons] at room
      have skipped : (encode lead ++ leftBrace ::
          (encode block.inner ++ rightBrace :: encode (gap ++ spread rest))).dropWhile blank =
            leftBrace :: (encode block.inner ++ rightBrace :: encode (gap ++ spread rest)) := by
        rw [List.dropWhile_append_of_pos (encode_gap white),
          List.dropWhile_cons_of_neg (by decide)]
      have closed : closes leftBrace rightBrace 0 (encode block.inner) = true :=
        (closes_encode block.inner 0).trans (inner_balanced block)
      have searched := find_closing_balanced (encode block.inner)
        (encode (gap ++ spread rest)) 0 0 0 closed (by omega)
      rw [Nat.zero_add] at searched
      rw [parse_blocks_block toLowercase skipped searched (decode_encode block.inner),
        inner_trimmed, block_parsed,
        ih gap (gaps (block, gap) List.mem_cons_self)
          (fun item member => gaps item (List.mem_cons_of_mem _ member)) (by omega)]
      simp

end Spread

/-! The whole answer. -/
section Answer
variable (toLowercase : String → String)

theorem spread_trimmed (blocks : List (PollBlock × Text)) (gaps : ∀ item ∈ blocks, Gap item.2)
    (present : blocks ≠ []) :
    ∃ closed, closed ≠ [] ∧ closed.map Prod.fst = blocks.map Prod.fst ∧
      (∀ item ∈ closed, Gap item.2) ∧
      ∀ before, trimEnd (before ++ spread blocks) = before ++ spread closed := by
  obtain ⟨front, ⟨block, gap⟩, rfl⟩ : ∃ front last, blocks = front ++ [last] :=
    ⟨_, _, (List.dropLast_append_getLast present).symm⟩
  refine ⟨front ++ [(block, [])], by simp, by simp, ?_, fun before => ?_⟩
  · intro item member
    rcases List.mem_append.mp member with earlier | last
    · exact gaps item (List.mem_append_left _ earlier)
    · rw [List.mem_singleton.mp last]
      exact fun _ none => absurd none List.not_mem_nil
  · have white := gap_white (gaps (block, gap) (by simp))
    have whole : before ++ spread (front ++ [(block, gap)]) =
        (before ++ spread front ++ '{' :: block.inner ++ ['}']) ++ gap := by
      simp [spread, PollBlock.text]
    have closed : before ++ spread (front ++ [(block, [])]) =
        before ++ spread front ++ '{' :: block.inner ++ ['}'] := by
      simp [spread, PollBlock.text]
    rw [whole, closed, trim_end_blank white, trim_end_brace]

theorem spread_opens (blocks : List (PollBlock × Text)) (present : blocks ≠ []) :
    trimStart (spread blocks) = spread blocks ∧ 3 < (spread blocks).length := by
  cases blocks with
  | nil => contradiction
  | cons item rest =>
      constructor
      · exact trim_start_solid (by decide)
      · simp only [spread, PollBlock.text, PollBlock.inner, List.flatMap_cons, List.length_append,
          List.length_cons]
        omega

/-- Every message of an answer is delivered once, in order and as it is. -/
theorem poll_delivers (lead : Text) (blocks : List (PollBlock × Text)) (white : Gap lead)
    (gaps : ∀ item ∈ blocks, Gap item.2)
    (small : (encode (answer lead blocks)).length < 2147483648) :
    parsePollResponse toLowercase (answer lead blocks) =
      .ok (blocks.map fun item => item.1.message toLowercase) := by
  have opening : trimStart "ok".toList = "ok".toList := by decide
  have trimmed : trim (answer lead blocks) =
      trimEnd ("ok".toList ++ (lead ++ spread blocks)) := by
    rw [trim, answer, trim_start_append (by decide) opening]
  by_cases present : blocks = []
  · subst present
    have bare : trim (answer lead []) = "ok".toList := by
      rw [trimmed, spread, List.flatMap_nil, List.append_nil, trim_end_blank (gap_white white)]
      decide
    simp only [parsePollResponse, bare, true_or, if_true, List.map_nil]
  -- the answer is trimmed as a whole, and once more behind its `ok`: both times only the gap behind
  -- the last block is at stake
  · obtain ⟨closed, some, same, blank, trimming⟩ := spread_trimmed blocks gaps present
    obtain ⟨opens, long⟩ := spread_opens closed some
    have body : trim (answer lead blocks) = "ok".toList ++ (lead ++ spread closed) := by
      rw [trimmed, ← List.append_assoc, trimming, List.append_assoc]
    obtain ⟨shut, _, again, kept, closing⟩ := spread_trimmed closed blank some
    have content : trim (lead ++ spread closed) = spread shut := by
      have ended := closing []
      rw [trim, trim_start_blank (gap_white white), opens]
      exact ended
    have room : (encode ([] ++ spread shut)).length ≤ 2147483646 := by
      have shorter := encode_trim_length (answer lead blocks)
      have inside := encode_trim_length (lead ++ spread closed)
      have letters : (encode "ok".toList).length = 2 := by decide
      rw [body, encode_append, List.length_append] at shorter
      rw [content] at inside
      rw [List.nil_append]
      omega
    have parsed := spread_parsed toLowercase [] shut (fun _ none => absurd none List.not_mem_nil)
      kept room []
    have messages : shut.map (fun item => item.1.message toLowercase) =
        blocks.map fun item => item.1.message toLowercase := by
      have mapped := congrArg (List.map fun block : PollBlock => block.message toLowercase)
        (again.trans same)
      rwa [List.map_map, List.map_map] at mapped
    have filled : 5 < (trim (answer lead blocks)).length := by
      rw [body, List.length_append, List.length_append]
      have letters : "ok".toList.length = 2 := by decide
      omega
    rw [List.nil_append] at parsed
    rw [parse_response_blocks toLowercase body (long_filled filled), content, parsed,
      List.nil_append, messages]

def nested (count : Nat) : PollBlock where
  sender := ['A']
  msgType := ['B']
  packet := List.replicate count '{' ++ List.replicate count '}'
  senderField := by decide
  typeField := by decide
  balanced := by
    rw [Paired, closes_openings, Nat.zero_add]
    exact closes_closings '{' '}' (by decide) count

/-- Two messages, the first of them with a brace of its own. -/
theorem poll_delivers_two :
    parsePollResponse id (answer [' '] [(nested 1, ['\n']), (nested 0, [])]) =
      .ok ([(nested 1, ['\n']), (nested 0, [])].map fun item => item.1.message id) :=
  poll_delivers id [' '] [(nested 1, ['\n']), (nested 0, [])] (by simp [Gap]) (by simp [Gap])
    (by decide +kernel)

theorem encode_openings (count : Nat) :
    encode (List.replicate count '{') = List.replicate count leftBrace := by
  induction count with
  | zero => rfl
  | succ count ih =>
      rw [List.replicate_succ, encode_cons_ascii ascii_left, ih]
      rfl

theorem nested_overflows (count : Nat) (many : 2147483647 < count) :
    parsePollResponse toLowercase (answer [] [(nested count, [])]) = .error .panicked := by
  have written : answer [] [(nested count, [])] =
      "ok".toList ++ ('{' :: ((nested count).inner ++ ['}'])) := by
    simp [answer, spread, PollBlock.text]
  have body : trim (answer [] [(nested count, [])]) = answer [] [(nested count, [])] := by
    rw [written]
    apply trim_of_ends
    · exact trim_start_append (by decide) (by decide) _
    · exact trim_end_brace ("ok".toList ++ '{' :: (nested count).inner)
  have content : trim ('{' :: ((nested count).inner ++ ['}'])) =
      '{' :: ((nested count).inner ++ ['}']) := by
    apply trim_of_ends
    · exact trim_start_solid (by decide)
    · exact trim_end_brace ('{' :: (nested count).inner)
  have bytes : encode ('{' :: ((nested count).inner ++ ['}'])) =
      leftBrace :: (encode ['A', ' ', 'B', ' '] ++ (List.replicate (count + 1) leftBrace ++
        encode (List.replicate count '}' ++ ['}', '}']))) := by
    have pieces : (nested count).inner ++ ['}'] = ['A', ' ', 'B', ' '] ++
        (List.replicate (count + 1) '{' ++ (List.replicate count '}' ++ ['}', '}'])) := by
      simp [PollBlock.inner, nested, List.replicate_succ]
    rw [encode_cons_ascii ascii_left, pieces, encode_append, encode_append, encode_openings]
    rfl
  have free : Plain leftBrace rightBrace (encode ['A', ' ', 'B', ' ']) := by decide
  have searched := find_closing_plain free
    (List.replicate (count + 1) leftBrace ++ encode (List.replicate count '}' ++ ['}', '}'])) 0 1 0
  rw [find_closing_overflow (count + 1) _ _ 1 0 (by decide) (by omega)] at searched
  have length : 5 < (answer [] [(nested count, [])]).length := by
    rw [written]
    simp only [PollBlock.inner, nested, List.length_append, List.length_cons]
    omega
  rw [← body] at length
  rw [parse_response_blocks toLowercase (body.trans written) (long_filled length), content, bytes]
  exact parse_blocks_fault toLowercase (List.dropWhile_cons_of_neg (by decide)) searched []

/-- Not every answer is parsed completely, when it may be of any length. -/
theorem deep_packet_lost :
    ¬ ∀ (lead : Text) (blocks : List (PollBlock × Text)), Gap lead →
      (∀ item ∈ blocks, Gap item.2) →
      parsePollResponse id (answer lead blocks) =
        .ok (blocks.map fun item => item.1.message id) := by
  intro complete
  have parsed := complete [] [(nested 2147483648, [])] (by simp [Gap]) (by simp [Gap])
  rw [nested_overflows id 2147483648 (by omega)] at parsed
  cases parsed

end Answer

end OpenLink.PollBlocks
