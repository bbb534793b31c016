import OpenLink.Texts

/-!
A text as the bytes of its UTF-8 encoding. A byte below 128 is a character of its
own, so the bytes before it and the bytes behind it encode texts themselves.
-/
namespace OpenLink.Utf8Text
open Texts

abbrev Bytes := List UInt8

def encode (text : Text) : Bytes := text.flatMap String.utf8EncodeChar

def decode (bytes : Bytes) : Option Text := bytes.toByteArray.utf8Decode?.map Array.toList

def Ascii (char : Char) : Prop := char.toNat < 128

instance (char : Char) : Decidable (Ascii char) := inferInstanceAs (Decidable (_ < _))

def asciiByte (char : Char) : UInt8 := UInt8.ofNat char.toNat

@[simp] theorem encode_nil : encode [] = [] := rfl

@[simp] theorem encode_cons (char : Char) (text : Text) :
    encode (char :: text) = String.utf8EncodeChar char ++ encode text := rfl

@[simp] theorem encode_append (text rest : Text) :
    encode (text ++ rest) = encode text ++ encode rest := List.flatMap_append

theorem decode_encode (text : Text) : decode (encode text) = some text := by
  have same : (encode text).toByteArray = text.utf8Encode := rfl
  rw [decode, same, List.utf8Decode?_utf8Encode, Option.map_some]

theorem encode_ascii {char : Char} (ascii : Ascii char) :
    String.utf8EncodeChar char = [asciiByte char] := by
  have small : char.val.toNat ≤ 127 := Nat.le_of_lt_succ ascii
  rw [String.utf8EncodeChar, if_pos small]
  rfl

theorem encode_cons_ascii {char : Char} (ascii : Ascii char) (text : Text) :
    encode (char :: text) = asciiByte char :: encode text := by
  rw [encode_cons, encode_ascii ascii, List.singleton_append]

theorem ascii_byte_injective {left right : Char} (ascii : Ascii left) (other : Ascii right)
    (same : asciiByte left = asciiByte right) : left = right := by
  have numbers := congrArg UInt8.toNat same
  simp only [asciiByte, UInt8.toNat_ofNat', Ascii] at numbers ascii other
  apply Char.toNat_inj.mp
  omega

/-- Every byte of another character is at least 128. -/
theorem encode_high {char : Char} (high : ¬ Ascii char) :
    ∀ byte ∈ String.utf8EncodeChar char, 128 ≤ byte.toNat := by
  have large : ¬ char.val.toNat ≤ 127 := fun small => high (Nat.lt_succ_of_le small)
  intro byte member
  simp only [String.utf8EncodeChar, if_neg large] at member
  split_ifs at member <;>
    simp only [List.mem_cons, List.not_mem_nil, or_false] at member <;>
    rcases member with rfl | member <;>
    grind [UInt8.toNat_ofNat']

/-! The characters of a string that has none but ASCII ones, read off its bytes. -/
section Strings

def asciiText (text : String) : Text :=
  text.toByteArray.data.toList.map fun byte => Char.ofNat byte.toNat

theorem bytes_encode (text : String) : text.toByteArray.data.toList = encode text.toList := by
  rw [← String.utf8Encode_toList, List.utf8Encode, List.toList_data_toByteArray, encode]

theorem ascii_decoded {char : Char} (ascii : Ascii char) :
    Char.ofNat (asciiByte char).toNat = char := by
  have code : (asciiByte char).toNat = char.toNat := by
    simp only [asciiByte, UInt8.toNat_ofNat', Ascii] at ascii ⊢
    omega
  rw [code, Char.ofNat_toNat]

theorem ascii_encoded {text : Text} (low : ∀ byte ∈ encode text, byte.toNat < 128) :
    (encode text).map (fun byte => Char.ofNat byte.toNat) = text := by
  induction text with
  | nil => rfl
  | cons char rest ih =>
      have ascii : Ascii char := by
        by_contra high
        obtain ⟨byte, member⟩ := List.exists_mem_of_ne_nil _ (String.utf8EncodeChar_ne_nil (c := char))
        have small := low byte (List.mem_append_left _ member)
        have large := encode_high high byte member
        omega
      rw [encode_cons_ascii ascii] at low ⊢
      rw [List.map_cons, ascii_decoded ascii, ih fun byte member => low byte (.tail _ member)]

theorem ascii_text {text : String}
    (low : (text.toByteArray.data.toList.all fun byte => decide (byte.toNat < 128)) = true) :
    text.toList = asciiText text := by
  have small : ∀ byte ∈ encode text.toList, byte.toNat < 128 := by
    intro byte member
    rw [← bytes_encode] at member
    simpa using List.all_eq_true.mp low byte member
  rw [asciiText, bytes_encode, ascii_encoded small]

end Strings

/-- A cut at a byte below 128 is a cut at a character. -/
theorem encode_cut {text : Text} {before after : Bytes} {byte : UInt8} (low : byte.toNat < 128)
    (cut : encode text = before ++ byte :: after) :
    ∃ front char back, text = front ++ char :: back ∧ Ascii char ∧ asciiByte char = byte ∧
      encode front = before ∧ encode back = after := by
  induction text generalizing before with
  | nil => simp at cut
  | cons char rest ih =>
      have shifted : ∀ later, before = String.utf8EncodeChar char ++ later →
          encode rest = later ++ byte :: after →
          ∃ front char' back, char :: rest = front ++ char' :: back ∧ Ascii char' ∧
            asciiByte char' = byte ∧ encode front = before ∧ encode back = after := by
        intro later same further
        obtain ⟨front, found, back, rfl, ascii, spelled, encoded, behind⟩ := ih further
        exact ⟨char :: front, found, back, rfl, ascii, spelled, by simp [same, encoded], behind⟩
      by_cases ascii : Ascii char
      · rw [encode_cons_ascii ascii] at cut
        cases before with
        | nil =>
            obtain ⟨spelled, behind⟩ := List.cons.inj cut
            exact ⟨[], char, rest, rfl, ascii, spelled, rfl, behind⟩
        | cons first later =>
            obtain ⟨same, further⟩ := List.cons.inj cut
            exact shifted later (by rw [encode_ascii ascii, same]; rfl) further
      · rw [encode_cons] at cut
        rcases List.append_eq_append_iff.mp cut with ⟨later, same, further⟩ | ⟨inside, same, behind⟩
        · exact shifted later same further
        · cases inside with
          | nil => exact shifted [] (by simpa using same.symm) behind.symm
          | cons first more =>
              -- the byte would be one of those of the character
              obtain ⟨rfl, _⟩ := List.cons.inj behind
              have high := encode_high ascii byte (by simp [same])
              omega

end OpenLink.Utf8Text
