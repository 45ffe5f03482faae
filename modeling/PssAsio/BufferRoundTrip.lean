import PssAsio.ReadWriteBufferCore

/-!
Reading back what was written.
-/

namespace PssAsio

open ByteMemory

inductive FieldType where
  | number (type : NumberType)
  | string
  deriving DecidableEq, Repr

def FieldType.Value : FieldType → Type
  | .number type => type.Number
  | .string => List UInt8

structure BufferField where
  type : FieldType
  written : type.Value
  held : type.Value

variable (host : BufferHost)

def WriteBuffer.write (writer : WriteBuffer) :
    (type : FieldType) → type.Value → WriteBuffer
  | .number type, value => writer.writeNumber host type value
  | .string, str => writer.writeString host str

def ReadBuffer.read (reader : ReadBuffer) :
    (type : FieldType) → (held : type.Value) → type.Value × ReadBuffer
  | .number type, _ => reader.readNumber host type
  | .string, held => reader.readString host held

def WriteBuffer.writeFields (writer : WriteBuffer) (fields : List BufferField) : WriteBuffer :=
  fields.foldl (fun writer field => writer.write host field.type field.written) writer

def ReadBuffer.readFields (host : BufferHost) :
    ReadBuffer → List BufferField → List (Sigma FieldType.Value) × ReadBuffer
  | reader, [] => ([], reader)
  | reader, field :: rest =>
      let (value, next) := reader.read host field.type field.held
      let (values, last) := readFields host next rest
      (⟨field.type, value⟩ :: values, last)

section Encoding

variable (order : ByteOrder) (sorted : Bool)

def encodeNumber (type : NumberType) (value : type.Number) : List UInt8 :=
  order.memoryBytes (if sorted then type.hostToNetwork order value else value)

def encodeString (str : List UInt8) : List UInt8 :=
  encodeNumber order sorted .uint32 (BitVec.ofNat _ str.length) ++ str

def encodeValue : (type : FieldType) → type.Value → List UInt8
  | .number type, value => encodeNumber order sorted type value
  | .string, str => encodeString order sorted str

def encodeFields (fields : List BufferField) : List UInt8 :=
  fields.flatMap fun field => encodeValue order sorted field.type field.written

@[simp] theorem encodeNumber_length (type : NumberType) (value : type.Number) :
    (encodeNumber order sorted type value).length = type.size := by
  simp [encodeNumber]

@[simp] theorem encodeFields_cons (field : BufferField) (rest : List BufferField) :
    encodeFields order sorted (field :: rest) =
      encodeValue order sorted field.type field.written ++ encodeFields order sorted rest :=
  List.flatMap_cons

end Encoding

namespace WriteBuffer

theorem write_buffer (host : BufferHost) (writer : WriteBuffer) (type : FieldType)
    (value : type.Value) :
    (writer.write host type value).buffer =
        writer.buffer ++ encodeValue host.order (host.sorts writer.isNetSort) type value ∧
      (writer.write host type value).isNetSort = writer.isNetSort := by
  cases type with
  | number type => exact ⟨rfl, rfl⟩
  | string => exact ⟨List.append_assoc _ _ _, rfl⟩

theorem writeFields_buffer (host : BufferHost) (writer : WriteBuffer)
    (fields : List BufferField) :
    (writer.writeFields host fields).buffer =
      writer.buffer ++ encodeFields host.order (host.sorts writer.isNetSort) fields := by
  induction fields generalizing writer with
  | nil => exact (List.append_nil _).symm
  | cons field rest ih =>
    obtain ⟨added, same⟩ := writer.write_buffer host field.type field.written
    change ((writer.write host field.type field.written).writeFields host rest).buffer = _
    rw [ih, added, same, encodeFields_cons, List.append_assoc]

end WriteBuffer

def BufferField.Returns : BufferField → Prop
  | ⟨.number _, _, _⟩ => True
  | ⟨.string, written, held⟩ => written = [] → held = []

namespace ReadBuffer

structure Faces (host : BufferHost) (sorted : Bool) (reader : ReadBuffer) (bytes : List UInt8) :
    Prop where
  inside : reader.Inside
  ahead : reader.buffer.drop reader.readPtr.toNat = bytes
  agrees : host.sorts reader.isNetSort = sorted

variable {host : BufferHost} {sorted : Bool} {reader : ReadBuffer}

namespace Faces

variable {front rest : List UInt8}

theorem room (faces : reader.Faces host sorted (front ++ rest)) :
    reader.readPtr.toNat + front.length ≤ reader.buffer.length := by
  have ordered := faces.inside.ordered
  have lengths := congrArg List.length faces.ahead
  rw [List.length_drop, List.length_append] at lengths
  omega

theorem fits (faces : reader.Faces host sorted (front ++ rest)) : reader.fits front.length = true :=
  (faces.inside.fits_iff front.length).mpr faces.room

theorem bytesAt (faces : reader.Faces host sorted (front ++ rest)) :
    reader.bytesAt host front.length = front := by
  rw [bytesAt_eq host faces.room, faces.ahead, List.take_left]

theorem copied (faces : reader.Faces host sorted (front ++ rest)) :
    (reader.copied front.length).Faces host sorted rest where
  inside := faces.inside.copied faces.room
  ahead := by
    rw [faces.inside.copied_readPtr faces.room, ← List.drop_drop]
    change List.drop front.length (reader.buffer.drop reader.readPtr.toNat) = rest
    rw [faces.ahead, List.drop_left]
  agrees := faces.agrees

theorem at_end (faces : reader.Faces host sorted []) :
    reader.readPtr.toNat = reader.buffer.length := by
  have ordered := faces.inside.ordered
  have passed := List.drop_eq_nil_iff.mp faces.ahead
  omega

end Faces

theorem readNumber_encoded {type : NumberType} {value : type.Number} {rest : List UInt8}
    (faces : reader.Faces host sorted (encodeNumber host.order sorted type value ++ rest)) :
    reader.readNumber host type = (value, reader.copied type.size) ∧
      (reader.copied type.size).Faces host sorted rest := by
  have fitting := faces.fits
  have read := faces.bytesAt
  have moved := faces.copied
  rw [encodeNumber_length] at fitting read moved
  refine ⟨?_, moved⟩
  simp only [readNumber, storedNumber, fitting, if_true, read, encodeNumber,
    ByteOrder.memoryWord_memoryBytes, faces.agrees]
  split
  · rw [NumberType.networkToHost_hostToNetwork]
  · rfl

theorem readString_encoded {str rest : List UInt8} (held : List UInt8)
    (faces : reader.Faces host sorted (encodeString host.order sorted str ++ rest)) :
    ∃ next, reader.readString host held = (if str = [] then held else str, next) ∧
      next.buffer = reader.buffer ∧ next.Faces host sorted rest := by
  rw [encodeString, List.append_assoc] at faces
  obtain ⟨read, afterLength⟩ := readNumber_encoded faces
  have short : str.length < 2 ^ 32 := by
    have bound := afterLength.room
    have limit := afterLength.inside.short
    omega
  have length : (BitVec.ofNat (8 * NumberType.uint32.size) str.length).toNat = str.length := by
    rw [BitVec.toNat_ofNat]
    exact Nat.mod_eq_of_lt short
  simp only [readString, read, length]
  by_cases empty : str = []
  · subst empty
    exact ⟨reader.copied NumberType.uint32.size, by simp, rfl, afterLength⟩
  · have nonzero : str.length ≠ 0 := by simpa using empty
    refine ⟨(reader.copied NumberType.uint32.size).copied str.length, ?_, rfl, afterLength.copied⟩
    simp [nonzero, empty, afterLength.fits, afterLength.bytesAt]

theorem string_left_iff {written held : List UInt8} :
    (if written = [] then held else written) = written ↔ (written = [] → held = []) := by
  by_cases empty : written = []
  · simp [empty]
  · simp [empty]

theorem read_encoded (field : BufferField) {rest : List UInt8}
    (faces : reader.Faces host sorted
      (encodeValue host.order sorted field.type field.written ++ rest)) :
    ∃ value next, reader.read host field.type field.held = (value, next) ∧
      next.buffer = reader.buffer ∧ next.Faces host sorted rest ∧
      (value = field.written ↔ field.Returns) := by
  obtain ⟨type, written, held⟩ := field
  cases type with
  | number type =>
    obtain ⟨read, ahead⟩ := readNumber_encoded faces
    exact ⟨written, _, read, rfl, ahead, iff_of_true rfl trivial⟩
  | string =>
    obtain ⟨next, read, same, ahead⟩ := readString_encoded held faces
    exact ⟨_, next, read, same, ahead, string_left_iff⟩

theorem readFields_encoded (fields : List BufferField)
    (faces : reader.Faces host sorted (encodeFields host.order sorted fields)) :
    ∃ values last, reader.readFields host fields = (values, last) ∧
      last.buffer = reader.buffer ∧ last.Faces host sorted [] ∧
      (values = fields.map (fun field => ⟨field.type, field.written⟩) ↔
        ∀ field ∈ fields, field.Returns) := by
  induction fields generalizing reader with
  | nil => exact ⟨[], reader, rfl, rfl, faces, by simp⟩
  | cons field rest ih =>
    rw [encodeFields_cons] at faces
    obtain ⟨value, next, read, same, ahead, returned⟩ := read_encoded field faces
    obtain ⟨values, last, readRest, sameRest, ended, returnedRest⟩ := ih ahead
    refine ⟨⟨field.type, value⟩ :: values, last, ?_, sameRest.trans same, ended, ?_⟩
    · simp only [readFields, read, readRest]
    · rw [List.map_cons, List.cons.injEq, List.forall_mem_cons, ← returned, ← returnedRest]
      simp

end ReadBuffer

def Restored (host : BufferHost) (writeSort readSort : Bool) (fields : List BufferField) : Prop :=
  let buffer := ((WriteBuffer.onString [] writeSort).writeFields host fields).buffer
  let outcome := (ReadBuffer.onString buffer readSort).readFields host fields
  outcome.1 = fields.map (fun field => ⟨field.type, field.written⟩) ∧
    outcome.2.readPtr.toNat = buffer.length

/-- The buffers undo each other unless an empty string is read into a variable with another value.
-/
theorem restored_iff_returns (host : BufferHost) (writeSort readSort : Bool)
    (fields : List BufferField) (agreed : host.byteSort = true → writeSort = readSort)
    (short : ((WriteBuffer.onString [] writeSort).writeFields host fields).buffer.length < 2 ^ 31) :
    Restored host writeSort readSort fields ↔ ∀ field ∈ fields, field.Returns := by
  have sorts : host.sorts readSort = host.sorts writeSort := by
    cases sorting : host.byteSort with
    | false => simp [BufferHost.sorts, sorting]
    | true => rw [agreed sorting]
  have encoded := WriteBuffer.writeFields_buffer host (.onString [] writeSort) fields
  have faces : (ReadBuffer.onString ((WriteBuffer.onString [] writeSort).writeFields host
      fields).buffer readSort).Faces host (host.sorts writeSort)
      (encodeFields host.order (host.sorts writeSort) fields) :=
    ⟨ReadBuffer.onString_inside short readSort, encoded, sorts⟩
  obtain ⟨values, last, read, same, ended, returned⟩ := ReadBuffer.readFields_encoded fields faces
  simp only [Restored, read]
  rw [returned, ended.at_end, same]
  exact and_iff_left rfl

def sortingHost : BufferHost where
  order := .littleEndian
  byteSort := true
  outside := fun _ => 0

def numberAndName : List BufferField :=
  [⟨.number .int64, 0x0102030405060708#64, 0#64⟩, ⟨.string, [0x61, 0x62], [0x78]⟩]

theorem numberAndName_restored :
    (sortingHost.byteSort = true → true = true) ∧
      ((WriteBuffer.onString [] true).writeFields sortingHost numberAndName).buffer.length <
        2 ^ 31 ∧ Restored sortingHost true true numberAndName := by
  have short : ((WriteBuffer.onString [] true).writeFields sortingHost
      numberAndName).buffer.length < 2 ^ 31 := by decide
  refine ⟨fun _ => rfl, short, ?_⟩
  apply (restored_iff_returns sortingHost true true numberAndName (fun _ => rfl) short).mpr
  simp [numberAndName, BufferField.Returns]

/-- An empty string that is read into a variable with one character leaves the character. -/
theorem empty_string_not_restored :
    ((WriteBuffer.onString [] false).writeFields sortingHost
        [⟨.string, [], [0x78]⟩]).buffer.length < 2 ^ 31 ∧
      ¬Restored sortingHost false false [⟨.string, [], [0x78]⟩] := by
  refine ⟨by decide, fun restored => ?_⟩
  have kept : ((ReadBuffer.onString [0, 0, 0, 0] false).readFields sortingHost
      [⟨.string, [], [0x78]⟩]).1 = [⟨.string, [0x78]⟩] := rfl
  have wanted := (List.cons.inj (kept.symm.trans restored.1)).1
  exact List.cons_ne_nil _ _ (eq_of_heq (Sigma.mk.inj wanted).2)

end PssAsio
