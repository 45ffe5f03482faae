import PssAsio.ByteMemory

/-!
`CWriteBuffer` and `CReadBuffer`. Positions are `uint32` and wrap; `accessed` are the spans that
were copied from.
-/

namespace PssAsio

open ByteMemory

inductive ByteOrder where
  | littleEndian
  | bigEndian
  deriving DecidableEq, Repr

/-- `byteSort` is `BYTE_SORT_SWITCH_STATE`, `outside` the memory around a string. -/
structure BufferHost where
  order : ByteOrder
  byteSort : Bool
  outside : Nat → UInt8

def BufferHost.sorts (host : BufferHost) (netSort : Bool) : Bool := host.byteSort && netSort

namespace ByteOrder

def memoryBytes {width : Nat} (order : ByteOrder) (word : BitVec (8 * width)) : List UInt8 :=
  match order with
  | .littleEndian => bytesOf word
  | .bigEndian => (bytesOf word).reverse

variable (order : ByteOrder)

def memoryWord (width : Nat) (bytes : List UInt8) : BitVec (8 * width) :=
  match order with
  | .littleEndian => wordOf width bytes
  | .bigEndian => wordOf width bytes.reverse

def networkOrder (width : Nat) (word : BitVec (8 * width)) : BitVec (8 * width) :=
  match order with
  | .littleEndian => byteReverse word
  | .bigEndian => word

def hostToNetworkShort : BitVec 16 → BitVec 16 := order.networkOrder 2

def hostToNetworkLong : BitVec 32 → BitVec 32 := order.networkOrder 4

def networkToHostShort : BitVec 16 → BitVec 16 := order.networkOrder 2

def networkToHostLong : BitVec 32 → BitVec 32 := order.networkOrder 4

variable (val : BitVec 64)

def htonllUint64 : BitVec 64 :=
  (order.hostToNetworkLong ((val <<< 32 >>> 32).setWidth 32)).setWidth 64 <<< 32 |||
    (order.hostToNetworkLong ((val >>> 32).setWidth 32)).setWidth 64

def htonllInt64 : BitVec 64 :=
  (order.hostToNetworkLong (((val <<< 32).sshiftRight 32).setWidth 32)).setWidth 64 <<< 32 |||
    (order.hostToNetworkLong ((val.sshiftRight 32).setWidth 32)).setWidth 64

def ntohllUint64 : BitVec 64 :=
  (order.networkToHostLong ((val <<< 32 >>> 32).setWidth 32)).setWidth 64 <<< 32 |||
    (order.networkToHostLong ((val >>> 32).setWidth 32)).setWidth 64

def ntohllInt64 : BitVec 64 :=
  (order.networkToHostLong (((val <<< 32).sshiftRight 32).setWidth 32)).setWidth 64 <<< 32 |||
    (order.networkToHostLong ((val.sshiftRight 32).setWidth 32)).setWidth 64

@[simp] theorem memoryBytes_length {width : Nat} (order : ByteOrder) (word : BitVec (8 * width)) :
    (order.memoryBytes word).length = width := by
  cases order <;> simp [memoryBytes]

@[simp] theorem memoryWord_memoryBytes {width : Nat} (order : ByteOrder)
    (word : BitVec (8 * width)) : order.memoryWord width (order.memoryBytes word) = word := by
  cases order <;> simp [memoryWord, memoryBytes]

@[simp] theorem networkOrder_networkOrder (order : ByteOrder) (width : Nat)
    (word : BitVec (8 * width)) :
    order.networkOrder width (order.networkOrder width word) = word := by
  cases order <;> simp [networkOrder]

theorem networkToHostShort_hostToNetworkShort (word : BitVec 16) :
    order.networkToHostShort (order.hostToNetworkShort word) = word :=
  order.networkOrder_networkOrder 2 word

theorem networkToHostLong_hostToNetworkLong (word : BitVec 32) :
    order.networkToHostLong (order.hostToNetworkLong word) = word :=
  order.networkOrder_networkOrder 4 word

theorem htonllUint64_eq : order.htonllUint64 val =
    joinHalves (order.hostToNetworkLong (lowHalf val)) (order.hostToNetworkLong (highHalf val)) :=
  rfl

theorem htonllInt64_eq : order.htonllInt64 val = order.htonllUint64 val := by
  rw [htonllInt64, lowHalf_signed, highHalf_signed]
  rfl

theorem ntohllUint64_eq : order.ntohllUint64 val =
    joinHalves (order.networkToHostLong (lowHalf val)) (order.networkToHostLong (highHalf val)) :=
  rfl

theorem ntohllInt64_eq : order.ntohllInt64 val = order.ntohllUint64 val := by
  rw [ntohllInt64, lowHalf_signed, highHalf_signed]
  rfl

theorem ntohllUint64_htonllUint64 : order.ntohllUint64 (order.htonllUint64 val) = val := by
  rw [ntohllUint64_eq, htonllUint64_eq, lowHalf_joinHalves, highHalf_joinHalves,
    networkToHostLong_hostToNetworkLong, networkToHostLong_hostToNetworkLong, joinHalves_halves]

theorem ntohllInt64_htonllInt64 : order.ntohllInt64 (order.htonllInt64 val) = val := by
  rw [ntohllInt64_eq, htonllInt64_eq, ntohllUint64_htonllUint64]

end ByteOrder

inductive NumberType where
  | uint8
  | uint16
  | uint32
  | uint64
  | int8
  | int16
  | int32
  | int64
  | float32
  | float64
  deriving DecidableEq, Repr

namespace NumberType

def size : NumberType → Nat
  | .uint8 | .int8 => 1
  | .uint16 | .int16 => 2
  | .uint32 | .int32 | .float32 => 4
  | .uint64 | .int64 | .float64 => 8

abbrev Number (type : NumberType) : Type := BitVec (8 * type.size)

variable (order : ByteOrder)

/-- Bytes and floating-point numbers are written as they are. -/
def hostToNetwork : (type : NumberType) → type.Number → type.Number
  | .uint16, value | .int16, value => order.hostToNetworkShort value
  | .uint32, value | .int32, value => order.hostToNetworkLong value
  | .uint64, value => order.htonllUint64 value
  | .int64, value => order.htonllInt64 value
  | .uint8, value | .int8, value | .float32, value | .float64, value => value

def networkToHost : (type : NumberType) → type.Number → type.Number
  | .uint16, value | .int16, value => order.networkToHostShort value
  | .uint32, value | .int32, value => order.networkToHostLong value
  | .uint64, value => order.ntohllUint64 value
  | .int64, value => order.ntohllInt64 value
  | .uint8, value | .int8, value | .float32, value | .float64, value => value

theorem networkToHost_hostToNetwork (type : NumberType) (value : type.Number) :
    type.networkToHost order (type.hostToNetwork order value) = value := by
  cases type with
  | uint16 | int16 => exact order.networkToHostShort_hostToNetworkShort value
  | uint32 | int32 => exact order.networkToHostLong_hostToNetworkLong value
  | uint64 => exact order.ntohllUint64_htonllUint64 value
  | int64 => exact order.ntohllInt64_htonllInt64 value
  | uint8 | int8 | float32 | float64 => rfl

end NumberType

theorem toInt_toInt32 {word : UInt32} (small : word.toNat < 2 ^ 31) :
    word.toInt32.toInt = word.toNat := by
  change word.toBitVec.toInt = word.toBitVec.toNat
  apply BitVec.toInt_eq_toNat_of_lt
  change 2 * word.toNat < 2 ^ 32
  omega

theorem toNat_toUInt64 {number : Int32} (natural : 0 ≤ number.toInt) :
    (number.toInt64.toUInt64.toNat : Int) = number.toInt := by
  have wide : 0 ≤ number.toInt64 := by
    rw [Int64.le_iff_toInt_le, Int32.toInt_toInt64]
    exact natural
  rw [Int64.toNat_toUInt64_of_le wide]
  change ((number.toInt64.toInt).toNat : Int) = number.toInt
  rw [Int32.toInt_toInt64, Int.toNat_of_nonneg natural]

theorem toNat_toUInt32 {number : Int32} (natural : 0 ≤ number) :
    (number.toUInt32.toNat : Int) = number.toInt := by
  rw [Int32.toNat_toUInt32_of_le natural]
  exact Int.toNat_of_nonneg (Int32.le_iff_toInt_le.mp natural)

theorem toNat_toUInt32_of_neg {number : Int32} (negative : number < 0) :
    (number.toUInt32.toNat : Int) = 2 ^ 32 + number.toInt := by
  have below : number.toUInt32.toBitVec.toInt < 0 := Int32.lt_iff_toInt_lt.mp negative
  change (number.toUInt32.toBitVec.toNat : Int) = 2 ^ 32 + number.toUInt32.toBitVec.toInt
  rw [BitVec.toInt_eq_toNat_cond] at below ⊢
  split at below
  · omega
  · omega

structure WriteBuffer where
  buffer : List UInt8
  writePtr : UInt32
  isNetSort : Bool

namespace WriteBuffer

def onString (buffer : List UInt8) (netSort : Bool) : WriteBuffer where
  buffer := buffer
  writePtr := UInt32.ofNat buffer.length
  isNetSort := netSort

def writeNumber (host : BufferHost) (writer : WriteBuffer) (type : NumberType)
    (value : type.Number) : WriteBuffer :=
  let sorted :=
    if host.sorts writer.isNetSort then type.hostToNetwork host.order value else value
  { writer with
    buffer := writer.buffer ++ host.order.memoryBytes sorted
    writePtr := writer.writePtr + UInt32.ofNat type.size }

def writeString (host : BufferHost) (writer : WriteBuffer) (str : List UInt8) : WriteBuffer :=
  let prefixed := writer.writeNumber host .uint32 (BitVec.ofNat _ str.length)
  { prefixed with
    buffer := prefixed.buffer ++ str
    -- The size of the length is added, not the length.
    writePtr := prefixed.writePtr + 8 }

def writeDataFromString (writer : WriteBuffer) (data : List UInt8) : WriteBuffer :=
  { writer with
    buffer := writer.buffer ++ data
    writePtr := writer.writePtr + UInt32.ofNat data.length }

end WriteBuffer

structure ByteSpan where
  offset : Nat
  length : Nat
  deriving DecidableEq, Repr

structure ReadBuffer where
  buffer : List UInt8
  readPtr : UInt32
  writePtr : UInt32
  isNetSort : Bool
  accessed : List ByteSpan

namespace ReadBuffer

def onString (buffer : List UInt8) (netSort : Bool) : ReadBuffer where
  buffer := buffer
  readPtr := 0
  writePtr := UInt32.ofNat buffer.length
  isNetSort := netSort
  accessed := []

variable (reader : ReadBuffer)

def remaining : UInt32 := reader.writePtr - reader.readPtr

variable (host : BufferHost)

def bytesAt (reader : ReadBuffer) (length : Nat) : List UInt8 :=
  (List.range length).map fun index =>
    reader.buffer.getD (reader.readPtr.toNat + index) (host.outside (reader.readPtr.toNat + index))

def copied (length : Nat) : ReadBuffer :=
  { reader with
    readPtr := reader.readPtr + UInt32.ofNat length
    accessed := reader.accessed ++ [⟨reader.readPtr.toNat, length⟩] }

def fits (length : Nat) : Bool := length ≤ reader.remaining.toNat

def storedNumber (reader : ReadBuffer) (type : NumberType) : type.Number :=
  if reader.fits type.size then host.order.memoryWord type.size (reader.bytesAt host type.size)
  else 0

/-- The value an overload of `operator>>` leaves, and the reader after it. -/
def readNumber (reader : ReadBuffer) (type : NumberType) : type.Number × ReadBuffer :=
  let stored := reader.storedNumber host type
  (if host.sorts reader.isNetSort then type.networkToHost host.order stored else stored,
    if reader.fits type.size then reader.copied type.size else reader)

def readString (reader : ReadBuffer) (str : List UInt8) : List UInt8 × ReadBuffer :=
  let (len, next) := reader.readNumber host .uint32
  if len.toNat ≠ 0 ∧ next.fits len.toNat then (next.bytesAt host len.toNat, next.copied len.toNat)
  else (str, next)

def readData (reader : ReadBuffer) (size length : UInt32) : List UInt8 × ReadBuffer :=
  if size < length then ([], reader)
  else
    let taken := if reader.remaining < length then reader.remaining else length
    (reader.bytesAt host taken.toNat, reader.copied taken.toNat)

def stringLength (length : Int32) : Int32 :=
  let asked := if length = -1 then reader.remaining.toInt32 else length
  if reader.remaining.toInt32 < asked then reader.remaining.toInt32 else asked

/-- The bytes that `read_data_to_string` appends to `data`; the length is passed on as a
`size_t`. -/
def readDataToString (reader : ReadBuffer) (length : Int32) : List UInt8 × ReadBuffer :=
  let count := (reader.stringLength length).toInt64.toUInt64.toNat
  (reader.bytesAt host count, reader.copied count)

def readOffset (offsetSize : Int32) : Bool × ReadBuffer :=
  if offsetSize ≤ reader.remaining.toInt32 ∧ 0 < offsetSize then
    (true, { reader with readPtr := reader.readPtr + offsetSize.toUInt32 })
  else if offsetSize < 0 then
    -- The sum is unsigned, so that it is positive unless it is zero, and the offset is taken away
    -- from the position.
    if 0 < reader.readPtr + offsetSize.toUInt32 then
      (true, { reader with readPtr := reader.readPtr - offsetSize.toUInt32 })
    else (true, { reader with readPtr := 0 })
  else (false, reader)

/-- The position is inside the string, whose size a `uint32` and an `int` can hold. -/
structure Inside : Prop where
  sized : reader.writePtr.toNat = reader.buffer.length
  short : reader.buffer.length < 2 ^ 31
  ordered : reader.readPtr.toNat ≤ reader.buffer.length

variable {reader}

theorem onString_inside {buffer : List UInt8} (short : buffer.length < 2 ^ 31) (netSort : Bool) :
    (onString buffer netSort).Inside where
  sized := by
    simp only [onString, UInt32.toNat_ofNat']
    omega
  short := short
  ordered := Nat.zero_le _

namespace Inside

theorem remaining_toNat (inside : reader.Inside) :
    reader.remaining.toNat = reader.buffer.length - reader.readPtr.toNat := by
  have ordered : reader.readPtr ≤ reader.writePtr := by
    rw [UInt32.le_iff_toNat_le, inside.sized]
    exact inside.ordered
  rw [remaining, UInt32.toNat_sub_of_le _ _ ordered, inside.sized]

theorem remaining_toInt (inside : reader.Inside) :
    reader.remaining.toInt32.toInt = reader.buffer.length - reader.readPtr.toNat := by
  have short := inside.short
  have ordered := inside.ordered
  have left := inside.remaining_toNat
  rw [toInt_toInt32 (by omega), left]
  omega

theorem fits_iff (inside : reader.Inside) (length : Nat) :
    reader.fits length = true ↔ reader.readPtr.toNat + length ≤ reader.buffer.length := by
  have ordered := inside.ordered
  simp only [fits, decide_eq_true_eq, inside.remaining_toNat]
  omega

theorem copied_readPtr (inside : reader.Inside) {length : Nat}
    (room : reader.readPtr.toNat + length ≤ reader.buffer.length) :
    (reader.copied length).readPtr.toNat = reader.readPtr.toNat + length := by
  have short := inside.short
  simp only [copied, UInt32.toNat_add, UInt32.toNat_ofNat']
  omega

theorem copied (inside : reader.Inside) {length : Nat}
    (room : reader.readPtr.toNat + length ≤ reader.buffer.length) :
    (reader.copied length).Inside where
  sized := inside.sized
  short := inside.short
  ordered := by
    rw [inside.copied_readPtr room]
    exact room

end Inside

@[simp] theorem bytesAt_length (host : BufferHost) (reader : ReadBuffer) (length : Nat) :
    (reader.bytesAt host length).length = length := by
  simp [bytesAt]

theorem bytesAt_eq (host : BufferHost) {length : Nat}
    (room : reader.readPtr.toNat + length ≤ reader.buffer.length) :
    reader.bytesAt host length = (reader.buffer.drop reader.readPtr.toNat).take length := by
  apply List.ext_getElem
  · simp only [bytesAt_length, List.length_take, List.length_drop]
    omega
  · intro index first second
    have bound : reader.readPtr.toNat + index < reader.buffer.length := by
      rw [bytesAt_length] at first
      omega
    simp [bytesAt, List.getElem?_eq_getElem bound]

end ReadBuffer

end PssAsio
