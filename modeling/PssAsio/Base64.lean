import PssAsio.HttpFormatCore

/-!
`base64_encode` and `base64_decode` of Base64.hpp. The bytes that wait in `char_array_3`, and the
characters that wait in `char_array_4`, are lists of the length that `i` has.
-/

namespace PssAsio

namespace Base64

def base64Chars : List UInt8 :=
  asciiBytes "ABCDEFGHIJKLMNOPQRSTUVWXYZabcdefghijklmnopqrstuvwxyz0123456789+/"

def padChar : UInt8 := 61

def isBase64 (c : UInt8) : Bool :=
  48 ≤ c && c ≤ 57 || 65 ≤ c && c ≤ 90 || 97 ≤ c && c ≤ 122 || c == 43 || c == 47

def charArray4 (first second third : UInt8) : List UInt8 :=
  [(first &&& 0xfc) >>> 2, ((first &&& 0x03) <<< 4) + ((second &&& 0xf0) >>> 4),
    ((second &&& 0x0f) <<< 2) + ((third &&& 0xc0) >>> 6), third &&& 0x3f]

def encodeChar (index : UInt8) : UInt8 := base64Chars.getD index.toNat 0

def encodeRest (held : List UInt8) : List UInt8 :=
  if held = [] then []
  else
    ((charArray4 (held.getD 0 0) (held.getD 1 0) (held.getD 2 0)).take (held.length + 1)).map
      encodeChar ++ List.replicate (3 - held.length) padChar

def encodeLoop (held : List UInt8) : List UInt8 → List UInt8
  | [] => encodeRest held
  | byte :: rest =>
      match held with
      | [first, second] => (charArray4 first second byte).map encodeChar ++ encodeLoop [] rest
      | _ => encodeLoop (held ++ [byte]) rest

/-- `none` where `in_len` reaches beyond the bytes. -/
def base64Encode (bytesToEncode : List UInt8) (inLen : UInt32) : Option (List UInt8) :=
  if inLen.toNat ≤ bytesToEncode.length then
    some (encodeLoop [] (bytesToEncode.take inLen.toNat))
  else none

/-- `find`, whose `npos` becomes 0xFF as an `unsigned char`. -/
def find (c : UInt8) : UInt8 :=
  match base64Chars.idxOf? c with
  | some index => UInt8.ofNat index
  | none => 0xFF

def charArray3 (first second third fourth : UInt8) : List UInt8 :=
  [(find first <<< 2) + ((find second &&& 0x30) >>> 4),
    ((find second &&& 0xf) <<< 4) + ((find third &&& 0x3c) >>> 2),
    ((find third &&& 0x3) <<< 6) + find fourth]

def decodeRest (held : List UInt8) : List UInt8 :=
  if held = [] then []
  else
    (charArray3 (held.getD 0 0) (held.getD 1 0) (held.getD 2 0) (held.getD 3 0)).take
      (held.length - 1)

def decodeLoop (held : List UInt8) : List UInt8 → List UInt8
  | [] => decodeRest held
  | char :: rest =>
      if char ≠ padChar ∧ isBase64 char then
        match held with
        | [first, second, third] => charArray3 first second third char ++ decodeLoop [] rest
        | _ => decodeLoop (held ++ [char]) rest
      else decodeRest held

/-- `none` where the size is no `int`, in which `in_len` and `in_` count. -/
def base64Decode (encodedString : List UInt8) : Option (List UInt8) :=
  if encodedString.length < 2 ^ 31 then some (decodeLoop [] encodedString) else none

@[elab_as_elim]
theorem forall_byte {holds : UInt8 → Prop} (all : ∀ n < 256, holds (UInt8.ofNat n))
    (byte : UInt8) : holds byte := by
  simpa using all byte.toNat byte.toNat_lt

theorem encodeChar_read (index : UInt8) :
    index.toNat < 64 → find (encodeChar index) = index ∧ encodeChar index ≠ padChar ∧
      isBase64 (encodeChar index) = true := by
  refine forall_byte ?_ index
  decide +kernel

theorem split_toNat (byte : UInt8) :
    ((byte &&& 0xfc) >>> 2).toNat = byte.toNat / 4 ∧
      ((byte &&& 0x03) <<< 4).toNat = byte.toNat % 4 * 16 ∧
      ((byte &&& 0xf0) >>> 4).toNat = byte.toNat / 16 ∧
      ((byte &&& 0x0f) <<< 2).toNat = byte.toNat % 16 * 4 ∧
      ((byte &&& 0xc0) >>> 6).toNat = byte.toNat / 64 ∧
      (byte &&& 0x3f).toNat = byte.toNat % 64 := by
  refine forall_byte ?_ byte
  decide +kernel

theorem join_toNat (byte : UInt8) :
    (byte <<< 2).toNat = byte.toNat * 4 % 256 ∧
      ((byte &&& 0x30) >>> 4).toNat = byte.toNat / 16 % 4 ∧
      ((byte &&& 0xf) <<< 4).toNat = byte.toNat % 16 * 16 ∧
      ((byte &&& 0x3c) >>> 2).toNat = byte.toNat / 4 % 16 ∧
      ((byte &&& 0x3) <<< 6).toNat = byte.toNat % 4 * 64 := by
  refine forall_byte ?_ byte
  decide +kernel

/-- The characters of a group are taken by the decoder, and give its bytes back. -/
theorem charArray4_read (first second third : UInt8) :
    ∃ w x y z, (charArray4 first second third).map encodeChar = [w, x, y, z] ∧
      (∀ char ∈ [w, x, y, z], char ≠ padChar ∧ isBase64 char = true) ∧
      (find w <<< 2) + ((find x &&& 0x30) >>> 4) = first ∧
      ((find x &&& 0xf) <<< 4) + ((find y &&& 0x3c) >>> 2) = second ∧
      ((find y &&& 0x3) <<< 6) + find z = third := by
  have ofFirst := split_toNat first
  have ofSecond := split_toNat second
  have ofThird := split_toNat third
  have firstBound := first.toNat_lt
  have secondBound := second.toNat_lt
  have thirdBound := third.toNat_lt
  have x := UInt8.toNat_add ((first &&& 0x03) <<< 4) ((second &&& 0xf0) >>> 4)
  have y := UInt8.toNat_add ((second &&& 0x0f) <<< 2) ((third &&& 0xc0) >>> 6)
  refine ⟨_, _, _, _, rfl, ?_⟩
  obtain ⟨readW, takenW⟩ := encodeChar_read ((first &&& 0xfc) >>> 2) (by omega)
  obtain ⟨readX, takenX⟩ := encodeChar_read (((first &&& 0x03) <<< 4) + ((second &&& 0xf0) >>> 4))
    (by omega)
  obtain ⟨readY, takenY⟩ := encodeChar_read (((second &&& 0x0f) <<< 2) + ((third &&& 0xc0) >>> 6))
    (by omega)
  obtain ⟨readZ, takenZ⟩ := encodeChar_read (third &&& 0x3f) (by omega)
  have joinW := join_toNat ((first &&& 0xfc) >>> 2)
  have joinX := join_toNat (((first &&& 0x03) <<< 4) + ((second &&& 0xf0) >>> 4))
  have joinY := join_toNat (((second &&& 0x0f) <<< 2) + ((third &&& 0xc0) >>> 6))
  refine ⟨by simp only [List.forall_mem_cons]; exact ⟨takenW, takenX, takenY, takenZ, by simp⟩, ?_⟩
  simp only [readW, readX, readY, readZ, ← UInt8.toNat_inj]
  rw [UInt8.toNat_add, UInt8.toNat_add, UInt8.toNat_add]
  omega

theorem groupsOfThree {holds : List UInt8 → Prop} (nil : holds []) (one : ∀ first, holds [first])
    (two : ∀ first second, holds [first, second])
    (three : ∀ first second third rest, holds rest → holds (first :: second :: third :: rest)) :
    ∀ bytes, holds bytes
  | [] => nil
  | [first] => one first
  | [first, second] => two first second
  | first :: second :: third :: rest =>
      three first second third rest (groupsOfThree nil one two three rest)

theorem encoded_read (bytes : List UInt8) :
    decodeLoop [] (encodeLoop [] bytes) = bytes ∧
      (encodeLoop [] bytes).length = (bytes.length + 2) / 3 * 4 := by
  induction bytes using groupsOfThree with
  | nil => exact ⟨rfl, rfl⟩
  | one first =>
    obtain ⟨w, x, y, z, group, taken, readFirst, -⟩ := charArray4_read first 0 0
    simp only [List.forall_mem_cons] at taken
    simp [encodeLoop, encodeRest, group, decodeLoop, taken, decodeRest, charArray3, readFirst]
  | two first second =>
    obtain ⟨w, x, y, z, group, taken, readFirst, readSecond, -⟩ := charArray4_read first second 0
    simp only [List.forall_mem_cons] at taken
    simp [encodeLoop, encodeRest, group, decodeLoop, taken, decodeRest, charArray3, readFirst,
      readSecond]
  | three first second third rest ih =>
    obtain ⟨w, x, y, z, group, taken, readFirst, readSecond, readThird⟩ :=
      charArray4_read first second third
    simp only [List.forall_mem_cons] at taken
    constructor
    · simp [encodeLoop, group, decodeLoop, taken, charArray3, readFirst, readSecond, readThird,
        ih.1]
    · simp only [encodeLoop, group, List.nil_append, List.cons_append, List.length_cons, ih.2]
      omega

theorem base64Encode_whole {bytes : List UInt8} {inLen : UInt32}
    (whole : inLen.toNat = bytes.length) :
    base64Encode bytes inLen = some (encodeLoop [] bytes) := by
  rw [base64Encode, whole, if_pos (Nat.le_refl _), List.take_length]

theorem base64Decode_encoded {bytes : List UInt8} (fits : (bytes.length + 2) / 3 * 4 < 2 ^ 31) :
    base64Decode (encodeLoop [] bytes) = some bytes := by
  obtain ⟨decoded, length⟩ := encoded_read bytes
  rw [base64Decode, if_pos (length ▸ fits), decoded]

/-- As long as an `int` counts the code, decoding gives the bytes back, and no other bytes have
that code. -/
theorem base64_round_trip (bytes : List UInt8) (fits : (bytes.length + 2) / 3 * 4 < 2 ^ 31) :
    ∃ text, base64Encode bytes (.ofNat bytes.length) = some text ∧
      text.length = (bytes.length + 2) / 3 * 4 ∧ base64Decode text = some bytes ∧
      ∀ other : List UInt8, other.length < 2 ^ 32 →
        base64Encode other (.ofNat other.length) = some text → other = bytes := by
  have counted : ∀ {list : List UInt8}, list.length < 2 ^ 32 →
      base64Encode list (.ofNat list.length) = some (encodeLoop [] list) :=
    fun short => base64Encode_whole (UInt32.toNat_ofNat_of_lt' short)
  obtain ⟨decoded, length⟩ := encoded_read bytes
  refine ⟨encodeLoop [] bytes, counted (by omega), length, base64Decode_encoded fits, ?_⟩
  intro other short same
  rw [counted short, Option.some.injEq] at same
  rw [← (encoded_read other).1, same, decoded]

theorem base64_round_trip_two :
    ∃ text, base64Encode [77, 97] 2 = some text ∧ text.length = 4 ∧
      base64Decode text = some [77, 97] ∧ ∀ other : List UInt8, other.length < 2 ^ 32 →
        base64Encode other (.ofNat other.length) = some text → other = [77, 97] :=
  base64_round_trip [77, 97] (by decide)

end Base64

end PssAsio
