import PssAsio.ByteMemory

/-!
`CSessionBuffer`: a heap block of which the first `write_size_` bytes hold received data.
-/

namespace PssAsio

open ByteMemory

structure SessionBuffer where
  buffer : List UInt8
  writeSize : Nat
  maxBuffSize : Nat
  allocated : buffer.length = maxBuffSize
  bounded : writeSize ≤ maxBuffSize
  addressable : maxBuffSize < 2 ^ 64

namespace SessionBuffer

def init (size : UInt64) (fresh : Nat → UInt8) : SessionBuffer where
  buffer := (List.range size.toNat).map fresh
  writeSize := 0
  maxBuffSize := size.toNat
  allocated := by simp
  bounded := Nat.zero_le _
  addressable := size.toNat_lt

variable (session : SessionBuffer)

variable (length : Nat)

def setWriteData : SessionBuffer × Bool :=
  if fits : (session.writeSize + length) % 2 ^ 64 ≤ session.maxBuffSize then
    ({ session with writeSize := (session.writeSize + length) % 2 ^ 64, bounded := fits }, true)
  else (session, false)

def getCurrWritePtr : Nat := session.writeSize

def getBufferSize : Nat := session.maxBuffSize - session.writeSize

def getWriteSize : Nat := session.writeSize

def move : SessionBuffer :=
  if session.writeSize ≤ length then { session with writeSize := 0, bounded := Nat.zero_le _ }
  else
    let moveLength := session.writeSize - length
    { session with
      buffer := patch session.buffer 0 ((session.buffer.drop length).take moveLength)
      writeSize := moveLength
      allocated := by
        have allocated := session.allocated
        have bounded := session.bounded
        rw [patch_length _ _ _ (by rw [List.length_take, List.length_drop]; omega), allocated]
      bounded := Nat.le_trans (Nat.sub_le _ _) session.bounded }

variable (data : List UInt8)

def store : Option SessionBuffer :=
  if fits : data.length ≤ session.getBufferSize then
    some { session with
      buffer := patch session.buffer session.getCurrWritePtr data
      allocated := by
        have allocated := session.allocated
        have bounded := session.bounded
        rw [patch_length _ _ _ (by simp only [getCurrWritePtr, getBufferSize] at *; omega),
          allocated] }
  else none

def receive : Option SessionBuffer :=
  (session.store data).map fun stored => (stored.setWriteData data.length).1

def readBytes (offset size : Nat) : Option (List UInt8) :=
  if offset + size ≤ session.maxBuffSize then some ((session.buffer.drop offset).take size)
  else none

def content : List UInt8 := session.buffer.take session.writeSize

@[simp] theorem content_length (session : SessionBuffer) :
    session.content.length = session.writeSize := by
  have allocated := session.allocated
  have bounded := session.bounded
  simp only [content, List.length_take]
  omega

@[simp] theorem init_content (size : UInt64) (fresh : Nat → UInt8) :
    (init size fresh).content = [] := by
  simp [content, init]

@[simp] theorem move_maxBuffSize (session : SessionBuffer) (length : Nat) :
    (session.move length).maxBuffSize = session.maxBuffSize := by
  simp only [move]
  split <;> rfl

theorem move_content : (session.move length).content = session.content.drop length := by
  have allocated := session.allocated
  have bounded := session.bounded
  by_cases emptied : session.writeSize ≤ length
  · have dropped : session.content.drop length = [] :=
      List.drop_of_length_le (by rw [content_length]; exact emptied)
    simp [move, emptied, content, ← dropped]
  · have moved : ((session.buffer.drop length).take (session.writeSize - length)).length =
        session.writeSize - length := by
      simp only [List.length_take, List.length_drop]
      omega
    have front := patch_take session.buffer 0
      ((session.buffer.drop length).take (session.writeSize - length)) (Nat.zero_le _)
    rw [moved] at front
    rw [Nat.zero_add] at front
    simp only [move, emptied, if_false, content]
    rw [front, List.drop_take]
    rfl

theorem store_eq_some (fits : session.writeSize + data.length ≤ session.maxBuffSize) :
    ∃ stored, session.store data = some stored ∧ stored.writeSize = session.writeSize ∧
      stored.maxBuffSize = session.maxBuffSize ∧
      stored.buffer = patch session.buffer session.writeSize data := by
  have room : data.length ≤ session.getBufferSize := by
    simp only [getBufferSize]
    omega
  simp [store, room, getCurrWritePtr]

variable {data : List UInt8} {session filled : SessionBuffer}

theorem store_getBufferSize {stored : SessionBuffer} (found : session.store data = some stored) :
    data.length ≤ stored.getBufferSize := by
  unfold store at found
  split at found
  · rename_i fits
    cases found
    exact fits
  · cases found

theorem store_content {stored : SessionBuffer} (found : session.store data = some stored) :
    stored.content = session.content := by
  have allocated := session.allocated
  have bounded := session.bounded
  unfold store at found
  split at found
  · cases found
    simp only [content, getCurrWritePtr, patch, List.append_assoc]
    rw [List.take_append_of_le_length (by rw [List.length_take]; omega), List.take_take,
      Nat.min_self]
  · cases found

theorem setWriteData_of_fits (session : SessionBuffer) (length : Nat)
    (fits : session.writeSize + length ≤ session.maxBuffSize) :
    ∃ bounded, session.setWriteData length =
      ({ session with writeSize := session.writeSize + length, bounded := bounded }, true) := by
  have small : (session.writeSize + length) % 2 ^ 64 = session.writeSize + length :=
    Nat.mod_eq_of_lt (Nat.lt_of_le_of_lt fits session.addressable)
  refine ⟨fits, ?_⟩
  rw [setWriteData, dif_pos (by rw [small]; exact fits)]
  simp only [small]

theorem receive_eq_some (session : SessionBuffer) (data : List UInt8)
    (fits : session.writeSize + data.length ≤ session.maxBuffSize) :
    ∃ filled, session.receive data = some filled ∧
      filled.maxBuffSize = session.maxBuffSize ∧
      filled.content = session.content ++ data := by
  have allocated := session.allocated
  have bounded := session.bounded
  obtain ⟨stored, found, sameSize, sameCapacity, patched⟩ := store_eq_some session data fits
  obtain ⟨_, written⟩ := setWriteData_of_fits stored data.length
    (by rw [sameSize, sameCapacity]; exact fits)
  refine ⟨(stored.setWriteData data.length).1, by simp [receive, found], ?_, ?_⟩
  · rw [written]
    exact sameCapacity
  · simp only [written, content]
    rw [patched, sameSize, patch_take _ _ _ (by omega)]

theorem receive_fits (received : session.receive data = some filled) :
    session.writeSize + data.length ≤ session.maxBuffSize := by
  have bounded := session.bounded
  by_contra overflow
  have noRoom : ¬data.length ≤ session.getBufferSize := by
    simp only [getBufferSize]
    omega
  simp [receive, store, noRoom] at received

theorem receive_content (received : session.receive data = some filled) :
    filled.content = session.content ++ data := by
  obtain ⟨other, found, _, content⟩ := session.receive_eq_some data (receive_fits received)
  rw [received, Option.some.injEq] at found
  rw [found, content]

theorem receive_maxBuffSize (received : session.receive data = some filled) :
    filled.maxBuffSize = session.maxBuffSize := by
  obtain ⟨other, found, same, _⟩ := session.receive_eq_some data (receive_fits received)
  rw [received, Option.some.injEq] at found
  rw [found, same]

theorem readBytes_content (session : SessionBuffer) (offset size : Nat)
    (within : offset + size ≤ session.writeSize) :
    session.readBytes offset size = some ((session.content.drop offset).take size) := by
  have bounded := session.bounded
  rw [readBytes, if_pos (by omega), content,
    take_drop_of_take session.buffer offset size session.writeSize within]

end SessionBuffer

def bufferHolding (data : List UInt8) (sized : data.length < 2 ^ 64) : SessionBuffer where
  buffer := data
  writeSize := data.length
  maxBuffSize := data.length
  allocated := rfl
  bounded := Nat.le_refl _
  addressable := sized

end PssAsio
