import Mathlib.Algebra.Group.Nat.Defs
import PssAsio.BlockStream

/-!
The secure hash SHA-1 of a message of bytes.
-/

namespace SecureHash

open BlockStream

abbrev Word := BitVec 32

structure Words where
  (a b c d e : Word)

def joinBytes (first second third fourth : UInt8) : Word :=
  first.toBitVec.setWidth 32 <<< 24 ||| second.toBitVec.setWidth 32 <<< 16 |||
    third.toBitVec.setWidth 32 <<< 8 ||| fourth.toBitVec.setWidth 32

def message (bytes : List UInt8) (t : Nat) : Word :=
  joinBytes (bytes.getD (4 * t) 0) (bytes.getD (4 * t + 1) 0) (bytes.getD (4 * t + 2) 0)
    (bytes.getD (4 * t + 3) 0)

def scheduleWord (bytes : List UInt8) (t : Nat) : Word :=
  if t < 16 then message bytes t
  else (scheduleWord bytes (t - 3) ^^^ scheduleWord bytes (t - 8) ^^^
    scheduleWord bytes (t - 14) ^^^ scheduleWord bytes (t - 16)).rotateLeft 1

def logical (t : Nat) (x y z : Word) : Word :=
  if t < 20 then (x &&& y) ^^^ (~~~x &&& z) else if t < 40 then x ^^^ y ^^^ z
  else if t < 60 then (x &&& y) ^^^ (x &&& z) ^^^ (y &&& z) else x ^^^ y ^^^ z

def roundConstant (t : Nat) : Word :=
  if t < 20 then 0x5A827999#32 else if t < 40 then 0x6ED9EBA1#32
  else if t < 60 then 0x8F1BBCDC#32 else 0xCA62C1D6#32

def mixRound (bytes : List UInt8) (t : Nat) (words : Words) : Words where
  a := words.a.rotateLeft 5 + logical t words.b words.c words.d + words.e + roundConstant t +
    scheduleWord bytes t
  b := words.a
  c := words.b.rotateLeft 30
  d := words.c
  e := words.d

def mixRounds (bytes : List UInt8) (words : Words) : Nat → Words
  | 0 => words
  | t + 1 => mixRound bytes t (mixRounds bytes words t)

def compress (words : Words) (bytes : List UInt8) : Words :=
  let mixed := mixRounds bytes words 80
  ⟨words.a + mixed.a, words.b + mixed.b, words.c + mixed.c, words.d + mixed.d, words.e + mixed.e⟩

def initial : Words := ⟨0x67452301#32, 0xEFCDAB89#32, 0x98BADCFE#32, 0x10325476#32, 0xC3D2E1F0#32⟩

def lengthBytes (length : Nat) : List UInt8 :=
  (List.range 8).map fun i => UInt8.ofNat (8 * length / 2 ^ ((7 - i) * 8))

def padding (length : Nat) : List UInt8 :=
  0x80 :: List.replicate ((119 - length % 64) % 64) 0 ++ lengthBytes length

def bigEndian (word : Word) : List UInt8 :=
  [word >>> 24, word >>> 16, word >>> 8, word].map fun shifted =>
    UInt8.ofBitVec (shifted.setWidth 8)

def sha1 (bytes : List UInt8) : List UInt8 :=
  let words := absorb 64 compress initial (bytes ++ padding bytes.length)
  [words.a, words.b, words.c, words.d, words.e].flatMap bigEndian

end SecureHash
