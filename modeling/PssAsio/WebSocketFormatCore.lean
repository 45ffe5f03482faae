import Mathlib.Data.List.Basic

/-!
`WebSocketFormat`. The random bytes of a masked frame are an argument.
-/

namespace PssAsio

/-- The enumeration is cast from and to bytes, so it has a value for each byte. -/
structure WebSocketFrameType where
  code : UInt8
  deriving DecidableEq, Repr

namespace WebSocketFrameType

def errorFrame : WebSocketFrameType := ⟨0xff⟩
def continuationFrame : WebSocketFrameType := ⟨0x00⟩
def textFrame : WebSocketFrameType := ⟨0x01⟩

def opcode (frameType : WebSocketFrameType) : WebSocketFrameType := ⟨frameType.code &&& 0x0F⟩

end WebSocketFrameType

abbrev MaskKey := Fin 4 → UInt8

def applyMask (mask : MaskKey) (data : List UInt8) : List UInt8 :=
  data.mapIdx fun index byte => byte ^^^ mask (Fin.ofNat 4 index)

namespace WebSocketFormat

def frameHead (frameType : WebSocketFrameType) (isFin : Bool) : UInt8 :=
  frameType.code ||| (if isFin then 0x80 else 0x00)

def lengthBytes (payloadLen : Nat) : List UInt8 :=
  if payloadLen ≤ 125 then [UInt8.ofNat payloadLen]
  else if payloadLen ≤ 0xFFFF then
    [126, UInt8.ofNat ((payloadLen &&& 0xFF00) >>> 8), UInt8.ofNat (payloadLen &&& 0x00FF)]
  else
    [127, 0x00, 0x00, 0x00, 0x00,
      UInt8.ofNat ((payloadLen &&& 0xFF000000) >>> 24),
      UInt8.ofNat ((payloadLen &&& 0x00FF0000) >>> 16),
      UInt8.ofNat ((payloadLen &&& 0x0000FF00) >>> 8),
      UInt8.ofNat (payloadLen &&& 0x000000FF)]

def wsFrameBuild (payload : List UInt8) (frameType : WebSocketFrameType) (isFin masking : Bool)
    (mask : MaskKey) : List UInt8 :=
  let frame := frameHead frameType isFin :: lengthBytes payload.length
  if masking then
    frame.modify 1 (· ||| 0x80) ++ List.ofFn mask ++ applyMask mask payload
  else frame ++ payload

structure FrameOut where
  payload : List UInt8
  outopcode : WebSocketFrameType
  frameSize : Nat
  outfin : Bool
  deriving DecidableEq, Repr

variable (buffer : List UInt8)

def byteAt (index : Nat) : UInt8 := buffer.getD index 0

def extendedLength (payloadlen : UInt8) (buffer : List UInt8) : Option (Nat × Nat) :=
  if payloadlen = 126 then
    if buffer.length < 4 then none
    else some (((byteAt buffer 2).toNat <<< 8) + (byteAt buffer 3).toNat, 4)
  else if payloadlen = 127 then
    if buffer.length < 10 then none
    else if byteAt buffer 2 ≠ 0 ∨ byteAt buffer 3 ≠ 0 ∨ byteAt buffer 4 ≠ 0 ∨
        byteAt buffer 5 ≠ 0 then none
    else if byteAt buffer 6 &&& 0x80 ≠ 0 then none
    else some (((byteAt buffer 6).toNat <<< 24) + ((byteAt buffer 7).toNat <<< 16) +
      ((byteAt buffer 8).toNat <<< 8) + (byteAt buffer 9).toNat, 10)
  else some (payloadlen.toNat, 2)

def payloadLength : Option (Nat × Nat) :=
  extendedLength (byteAt buffer 1 &&& 0x7F) buffer

def wsFrameExtractBuffer (out : FrameOut) : Bool × FrameOut :=
  if buffer.length < 2 then (false, out)
  else
    let seen := { out with
      outfin := byteAt buffer 0 &&& 0x80 ≠ 0
      outopcode := ⟨byteAt buffer 0 &&& 0x0F⟩ }
    match payloadLength buffer with
    | none => (false, seen)
    | some (payloadlen, pos) =>
        if byteAt buffer 1 &&& 0x80 ≠ 0 then
          if buffer.length < pos + 4 then (false, seen)
          else if buffer.length < pos + 4 + payloadlen then (false, seen)
          else
            let mask : MaskKey := fun index => byteAt buffer (pos + index)
            (true, { seen with
              payload := out.payload ++
                applyMask mask ((buffer.drop (pos + 4)).take payloadlen)
              frameSize := payloadlen + (pos + 4) })
        else if buffer.length < pos + payloadlen then (false, seen)
        else
          (true, { seen with
            payload := out.payload ++ (buffer.drop pos).take payloadlen
            frameSize := payloadlen + pos })

end WebSocketFormat

end PssAsio
