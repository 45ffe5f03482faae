import Mathlib.Data.List.Basic
import Mathlib.Tactic.Ring

/-!
Byte memory as lists, little-endian words, and long words joined from two halves.
-/

namespace ByteMemory

def patch {α : Type} (memory : List α) (offset : Nat) (data : List α) : List α :=
  memory.take offset ++ data ++ memory.drop (offset + data.length)

theorem patch_length {α : Type} (memory : List α) (offset : Nat) (data : List α)
    (fits : offset + data.length ≤ memory.length) :
    (patch memory offset data).length = memory.length := by
  simp only [patch, List.length_append, List.length_take, List.length_drop]
  omega

theorem patch_take {α : Type} (memory : List α) (offset : Nat) (data : List α)
    (fits : offset ≤ memory.length) :
    (patch memory offset data).take (offset + data.length) = memory.take offset ++ data := by
  have front : (memory.take offset ++ data).length = offset + data.length := by
    simp only [List.length_append, List.length_take]
    omega
  rw [patch, ← front, List.take_left]

theorem take_drop_of_take {α : Type} (memory : List α) (offset size limit : Nat)
    (within : offset + size ≤ limit) :
    (memory.drop offset).take size = ((memory.take limit).drop offset).take size := by
  rw [List.drop_take, List.take_take, Nat.min_eq_left (by omega)]

/-! Accesses to a block, `none` for one that leaves it. -/

def load {α : Type} (memory : List α) (offset length : Nat) : Option (List α) :=
  if offset + length ≤ memory.length then some ((memory.drop offset).take length) else none

def store {α : Type} (memory : List α) (offset : Nat) (data : List α) : Option (List α) :=
  if offset + data.length ≤ memory.length then some (patch memory offset data) else none

def memmove {α : Type} (memory : List α) (target source length : Nat) : Option (List α) :=
  (load memory source length).bind fun data => store memory target data

theorem memmove_eq_some {α : Type} {memory : List α} {target source length : Nat}
    (sourceFits : source + length ≤ memory.length) (targetFits : target + length ≤ memory.length) :
    memmove memory target source length =
      some (patch memory target ((memory.drop source).take length)) := by
  have moved : ((memory.drop source).take length).length = length := by
    simp only [List.length_take, List.length_drop]
    omega
  simp [memmove, load, store, sourceFits, moved, targetFits]

def littleEndian : List UInt8 → Nat
  | [] => 0
  | byte :: rest => byte.toNat + 256 * littleEndian rest

def wordBytes : Nat → Nat → List UInt8
  | 0, _ => []
  | width + 1, value => UInt8.ofNat value :: wordBytes width (value / 256)

@[simp] theorem wordBytes_length (width value : Nat) : (wordBytes width value).length = width := by
  induction width generalizing value with
  | zero => rfl
  | succ width ih => simp [wordBytes, ih]

theorem littleEndian_wordBytes (width value : Nat) (fits : value < 256 ^ width) :
    littleEndian (wordBytes width value) = value := by
  induction width generalizing value with
  | zero =>
    simp only [Nat.pow_zero, Nat.lt_one_iff] at fits
    simp [wordBytes, littleEndian, fits]
  | succ width ih =>
    have quotient : value / 256 < 256 ^ width := by
      rw [Nat.div_lt_iff_lt_mul (by omega)]
      rwa [Nat.pow_succ] at fits
    simp only [wordBytes, littleEndian, ih _ quotient, UInt8.toNat_ofNat']
    omega

variable (bytes : List UInt8)

theorem littleEndian_lt : littleEndian bytes < 256 ^ bytes.length := by
  induction bytes with
  | nil => simp [littleEndian]
  | cons byte rest ih =>
    have small := byte.toNat_lt
    simp only [littleEndian, List.length_cons, Nat.pow_succ]
    omega

theorem wordBytes_littleEndian : wordBytes bytes.length (littleEndian bytes) = bytes := by
  induction bytes with
  | nil => rfl
  | cons byte rest ih =>
    have small : byte.toNat < 256 := byte.toNat_lt
    have quotient : (byte.toNat + 256 * littleEndian rest) / 256 = littleEndian rest := by omega
    have low : UInt8.ofNat (byte.toNat + 256 * littleEndian rest) = byte := by
      apply UInt8.toNat_inj.mp
      rw [UInt8.toNat_ofNat']
      omega
    simp only [littleEndian, List.length_cons, wordBytes, quotient, low, ih]

def bytesOf {width : Nat} (word : BitVec (8 * width)) : List UInt8 := wordBytes width word.toNat

def wordOf (width : Nat) (bytes : List UInt8) : BitVec (8 * width) :=
  BitVec.ofNat (8 * width) (littleEndian bytes)

@[simp] theorem bytesOf_length {width : Nat} (word : BitVec (8 * width)) :
    (bytesOf word).length = width :=
  wordBytes_length width word.toNat

@[simp] theorem wordOf_bytesOf {width : Nat} (word : BitVec (8 * width)) :
    wordOf width (bytesOf word) = word := by
  have fits : word.toNat < 256 ^ width := by
    rw [show 256 = 2 ^ 8 from rfl, ← Nat.pow_mul]
    exact word.isLt
  rw [wordOf, bytesOf, littleEndian_wordBytes width word.toNat fits, BitVec.ofNat_toNat,
    BitVec.setWidth_eq]

theorem bytesOf_wordOf : bytesOf (wordOf bytes.length bytes) = bytes := by
  have fits : littleEndian bytes < 2 ^ (8 * bytes.length) := by
    rw [Nat.pow_mul]
    exact littleEndian_lt bytes
  rw [bytesOf, wordOf, BitVec.toNat_ofNat, Nat.mod_eq_of_lt fits, wordBytes_littleEndian]

def byteReverse {width : Nat} (word : BitVec (8 * width)) : BitVec (8 * width) :=
  wordOf width (bytesOf word).reverse

@[simp] theorem byteReverse_byteReverse {width : Nat} (word : BitVec (8 * width)) :
    byteReverse (byteReverse word) = word := by
  have back := bytesOf_wordOf (bytesOf word).reverse
  rw [List.length_reverse, bytesOf_length] at back
  rw [byteReverse, byteReverse, back, List.reverse_reverse, wordOf_bytesOf]

def joinHalves (high low : BitVec 32) : BitVec 64 := high.setWidth 64 <<< 32 ||| low.setWidth 64

variable (word : BitVec 64)

def lowHalf : BitVec 32 := (word <<< 32 >>> 32).setWidth 32

def highHalf : BitVec 32 := (word >>> 32).setWidth 32

@[simp] theorem lowHalf_joinHalves (high low : BitVec 32) :
    lowHalf (joinHalves high low) = low := by
  ext index small
  grind [lowHalf, joinHalves]

@[simp] theorem highHalf_joinHalves (high low : BitVec 32) :
    highHalf (joinHalves high low) = high := by
  ext index small
  grind [highHalf, joinHalves]

@[simp] theorem joinHalves_halves (word : BitVec 64) :
    joinHalves (highHalf word) (lowHalf word) = word := by
  ext index small
  grind [lowHalf, highHalf, joinHalves]

/-- The sign that an arithmetic shift carries down does not reach the bits that are kept. -/
theorem lowHalf_signed : ((word <<< 32).sshiftRight 32).setWidth 32 = lowHalf word := by
  ext index small
  grind [lowHalf]

theorem highHalf_signed : (word.sshiftRight 32).setWidth 32 = highHalf word := by
  ext index small
  grind [highHalf]

theorem and_shiftRight_byte (value shift : Nat) :
    (value &&& (0xFF <<< shift)) >>> shift = value / 2 ^ shift % 256 := by
  rw [Nat.shiftRight_and_distrib, Nat.shiftLeft_shiftRight, Nat.shiftRight_eq_div_pow]
  exact Nat.and_two_pow_sub_one_eq_mod _ 8

variable (bits : BitVec 8)

theorem bitVec_top_set : (bits ||| 0x80#8) &&& 0x80#8 ≠ 0#8 := by
  revert bits
  decide

theorem bitVec_low_kept : (bits ||| 0x80#8) &&& 0x7F#8 = bits &&& 0x7F#8 := by
  revert bits
  decide

theorem bitVec_top_clear_iff : bits &&& 0x80#8 = 0#8 ↔ bits.toNat < 128 := by
  revert bits
  decide

theorem bitVec_nibble_kept : (bits ||| 0x80#8) &&& 0x0F#8 = bits &&& 0x0F#8 := by
  revert bits
  decide

theorem bitVec_nibble_self : bits.toNat < 16 → bits &&& 0x0F#8 = bits := by
  revert bits
  decide

variable (byte : UInt8)

theorem top_set : (byte ||| 0x80) &&& 0x80 ≠ 0 := by
  intro cleared
  exact bitVec_top_set byte.toBitVec (congrArg UInt8.toBitVec cleared)

theorem low_kept : (byte ||| 0x80) &&& 0x7F = byte &&& 0x7F :=
  UInt8.toBitVec_inj.mp (bitVec_low_kept byte.toBitVec)

theorem top_clear_iff : byte &&& 0x80 = 0 ↔ byte.toNat < 128 := by
  rw [← UInt8.toBitVec_inj]
  exact bitVec_top_clear_iff byte.toBitVec

theorem nibble_kept : (byte ||| 0x80) &&& 0x0F = byte &&& 0x0F :=
  UInt8.toBitVec_inj.mp (bitVec_nibble_kept byte.toBitVec)

theorem nibble_self {byte : UInt8} (small : byte.toNat < 16) : byte &&& 0x0F = byte :=
  UInt8.toBitVec_inj.mp (bitVec_nibble_self byte.toBitVec small)

end ByteMemory
