import PssAsio.BoundedFifo
import PssAsio.SessionBufferCore
import PssAsio.TransitionRuns

/-!
`CSessionBuffer` as a queue of bytes. `RawSessionBuffer` is the class as it stands in memory.
-/

namespace PssAsio

open ByteMemory TransitionRuns

structure RawSessionBuffer where
  buffer : List UInt8
  writeSize : UInt64
  maxBuffSize : UInt64

namespace RawSessionBuffer

def init (size : UInt64) (fresh : Nat → UInt8) : RawSessionBuffer where
  buffer := (List.range size.toNat).map fresh
  writeSize := 0
  maxBuffSize := size

variable (raw : RawSessionBuffer)

def setWriteData (length : UInt64) : RawSessionBuffer × Bool :=
  if raw.writeSize + length > raw.maxBuffSize then (raw, false)
  else ({ raw with writeSize := raw.writeSize + length }, true)

def getCurrWritePtr : Nat := raw.writeSize.toNat

def getBufferSize : UInt64 := raw.maxBuffSize - raw.writeSize

def getWriteSize : UInt64 := raw.writeSize

/-- The bytes `read()[0 .. get_write_size())`. -/
def read : Option (List UInt8) :=
  load raw.buffer 0 raw.getWriteSize.toNat

def move (length : UInt64) : Option RawSessionBuffer :=
  if length ≥ raw.writeSize then some { raw with writeSize := 0 }
  else
    let moveLength := raw.writeSize - length
    (memmove raw.buffer 0 length.toNat moveLength.toNat).map fun moved =>
      { raw with buffer := moved, writeSize := moveLength }

/-- A caller that copies `data` to `get_curr_write_ptr()`. -/
def copyIn (data : List UInt8) : Option RawSessionBuffer :=
  (store raw.buffer raw.getCurrWritePtr data).map fun stored => { raw with buffer := stored }

end RawSessionBuffer

namespace SessionBuffer

variable (session : SessionBuffer)

def raw : RawSessionBuffer where
  buffer := session.buffer
  writeSize := UInt64.ofNat session.writeSize
  maxBuffSize := UInt64.ofNat session.maxBuffSize

theorem raw_maxBuffSize : session.raw.maxBuffSize.toNat = session.maxBuffSize :=
  UInt64.toNat_ofNat_of_lt' session.addressable

theorem raw_writeSize : session.raw.writeSize.toNat = session.writeSize :=
  UInt64.toNat_ofNat_of_lt' (Nat.lt_of_le_of_lt session.bounded session.addressable)

theorem init_raw (size : UInt64) (fresh : Nat → UInt8) :
    (init size fresh).raw = RawSessionBuffer.init size fresh := by
  simp [raw, init, RawSessionBuffer.init]

theorem raw_getBufferSize : session.raw.getBufferSize.toNat = session.getBufferSize := by
  have ordered : session.raw.writeSize ≤ session.raw.maxBuffSize := by
    rw [UInt64.le_iff_toNat_le, raw_writeSize, raw_maxBuffSize]
    exact session.bounded
  rw [RawSessionBuffer.getBufferSize, UInt64.toNat_sub_of_le _ _ ordered, raw_writeSize,
    raw_maxBuffSize, getBufferSize]

theorem raw_read : session.raw.read = some session.content := by
  have allocated := session.allocated
  have bounded := session.bounded
  have within : 0 + session.writeSize ≤ session.buffer.length := by omega
  simp only [RawSessionBuffer.read, RawSessionBuffer.getWriteSize, raw_writeSize, load]
  exact if_pos within

theorem raw_setWriteData (length : UInt64) :
    session.raw.setWriteData length =
      ((session.setWriteData length.toNat).1.raw, (session.setWriteData length.toNat).2) := by
  have sum : (session.raw.writeSize + length).toNat =
      (session.writeSize + length.toNat) % 2 ^ 64 := by
    rw [UInt64.toNat_add, raw_writeSize]
  have exceeds : session.raw.writeSize + length > session.raw.maxBuffSize ↔
      ¬(session.writeSize + length.toNat) % 2 ^ 64 ≤ session.maxBuffSize := by
    rw [gt_iff_lt, UInt64.lt_iff_toNat_lt, sum, raw_maxBuffSize]
    omega
  have written : session.raw.writeSize + length =
      UInt64.ofNat ((session.writeSize + length.toNat) % 2 ^ 64) := by
    rw [← sum, UInt64.ofNat_toNat]
  by_cases fits : (session.writeSize + length.toNat) % 2 ^ 64 ≤ session.maxBuffSize
  · rw [RawSessionBuffer.setWriteData, if_neg (fun beyond => exceeds.mp beyond fits), setWriteData,
      dif_pos fits, written]
    rfl
  · rw [RawSessionBuffer.setWriteData, if_pos (exceeds.mpr fits), setWriteData, dif_neg fits]

theorem raw_copyIn (data : List UInt8) :
    session.raw.copyIn data = (session.store data).map raw := by
  have allocated := session.allocated
  have bounded := session.bounded
  have room : session.writeSize + data.length ≤ session.buffer.length ↔
      data.length ≤ session.getBufferSize := by
    simp only [getBufferSize]
    omega
  simp only [RawSessionBuffer.copyIn, RawSessionBuffer.getCurrWritePtr, raw_writeSize,
    ByteMemory.store, store]
  by_cases fits : data.length ≤ session.getBufferSize
  · have inside : session.writeSize + data.length ≤ session.raw.buffer.length := room.mpr fits
    simp only [inside, fits, if_true, dif_pos, Option.map_some]
    rfl
  · have outside : ¬session.writeSize + data.length ≤ session.raw.buffer.length :=
      fun inside => fits (room.mp inside)
    simp [outside, fits]

theorem raw_move (length : UInt64) :
    session.raw.move length = some (session.move length.toNat).raw := by
  have allocated := session.allocated
  have bounded := session.bounded
  by_cases emptied : session.writeSize ≤ length.toNat
  · have beyond : length ≥ session.raw.writeSize := by
      rw [ge_iff_le, UInt64.le_iff_toNat_le, raw_writeSize]
      exact emptied
    rw [RawSessionBuffer.move, if_pos beyond, move, if_pos emptied]
    rfl
  · have inside : ¬length ≥ session.raw.writeSize := by
      rw [ge_iff_le, UInt64.le_iff_toNat_le, raw_writeSize]
      exact emptied
    have moveLength : (session.raw.writeSize - length).toNat =
        session.writeSize - length.toNat := by
      rw [UInt64.toNat_sub_of_le, raw_writeSize]
      rw [UInt64.le_iff_toNat_le, raw_writeSize]
      omega
    have stays : memmove session.raw.buffer 0 length.toNat (session.writeSize - length.toNat) =
        some (patch session.buffer 0
          ((session.buffer.drop length.toNat).take (session.writeSize - length.toNat))) :=
      memmove_eq_some (by simp only [raw]; omega) (by simp only [raw]; omega)
    have shortened : session.raw.writeSize - length =
        UInt64.ofNat (session.writeSize - length.toNat) := by
      rw [← moveLength, UInt64.ofNat_toNat]
    simp only [RawSessionBuffer.move, inside, if_false, moveLength, stays, Option.map_some, move,
      emptied]
    rw [shortened]
    rfl

end SessionBuffer

inductive BufferOperation where
  | write (data : List UInt8)
  | move (length : UInt64)
  deriving DecidableEq, Repr

def BufferOperation.onQueue : BufferOperation → BoundedFifo.Operation UInt8
  | .write data => .write data
  | .move length => .move length.toNat

/-- A buffer in use, with what its calls of `set_write_data` have answered. -/
structure BufferUse where
  raw : RawSessionBuffer
  answers : List Bool

namespace BufferUse

def init (size : UInt64) (fresh : Nat → UInt8) : BufferUse := ⟨RawSessionBuffer.init size fresh, []⟩

/-- `none` is an access outside the block. -/
def step (use : BufferUse) : BufferOperation → Option BufferUse
  | .write data => (use.raw.copyIn data).map fun stored =>
      let (written, answer) := stored.setWriteData (UInt64.ofNat data.length)
      ⟨written, use.answers ++ [answer]⟩
  | .move length => (use.raw.move length).map fun moved => { use with raw := moved }

def Fits (use : BufferUse) : BufferOperation → Prop
  | .write data => data.length ≤ use.raw.getBufferSize.toNat
  | .move _ => True

def Beside {capacity : Nat} (use : BufferUse) (queue : BoundedFifo.Queue UInt8 capacity) : Prop :=
  ∃ session : SessionBuffer, use.raw = session.raw ∧ session.maxBuffSize = capacity ∧
    session.content = queue.items

theorem init_beside (size : UInt64) (fresh : Nat → UInt8) :
    (init size fresh).Beside (BoundedFifo.Queue.empty : BoundedFifo.Queue UInt8 size.toNat) :=
  ⟨SessionBuffer.init size fresh, (SessionBuffer.init_raw size fresh).symm, rfl,
    SessionBuffer.init_content size fresh⟩

variable {capacity : Nat} {use : BufferUse}

theorem write_beside {queue : BoundedFifo.Queue UInt8 capacity} {data : List UInt8}
    (beside : use.Beside queue) (fits : use.Fits (.write data)) :
    ∃ next after, use.step (.write data) = some next ∧ queue.step (.write data) = some after ∧
      next.Beside after ∧ next.answers = use.answers ++ [true] := by
  obtain ⟨session, same, sized, held⟩ := beside
  have bounded := session.bounded
  have filled := session.content_length
  have small : data.length ≤ session.getBufferSize := by
    rw [← session.raw_getBufferSize, ← same]
    exact fits
  have room : session.writeSize + data.length ≤ session.maxBuffSize := by
    simp only [SessionBuffer.getBufferSize] at small
    omega
  have counted : (UInt64.ofNat data.length).toNat = data.length :=
    UInt64.toNat_ofNat_of_lt' (Nat.lt_of_le_of_lt (by omega) session.addressable)
  obtain ⟨stored, found, sameSize, sameCapacity, -⟩ := session.store_eq_some data room
  obtain ⟨_, written⟩ := stored.setWriteData_of_fits data.length
    (by rw [sameSize, sameCapacity]; exact room)
  have received : session.receive data = some (stored.setWriteData data.length).1 := by
    rw [SessionBuffer.receive, found]
    rfl
  have fitsQueue : data.length ≤ queue.room := by
    rw [BoundedFifo.Queue.room, ← held, filled, ← sized]
    omega
  refine ⟨⟨(stored.setWriteData data.length).1.raw, use.answers ++ [true]⟩, _, ?_,
    BoundedFifo.Queue.step_write fitsQueue, ⟨_, rfl, ?_, ?_⟩, rfl⟩
  · simp only [step, same, session.raw_copyIn, found, Option.map_some, stored.raw_setWriteData,
      counted]
    rw [written]
  · rw [SessionBuffer.receive_maxBuffSize received, sized]
  · rw [SessionBuffer.receive_content received, held]
    rfl

theorem move_beside {queue : BoundedFifo.Queue UInt8 capacity} {length : UInt64}
    (beside : use.Beside queue) :
    ∃ next, use.step (.move length) = some next ∧ next.Beside (queue.dropFront length.toNat) ∧
      next.answers = use.answers := by
  obtain ⟨session, same, sized, held⟩ := beside
  refine ⟨⟨(session.move length.toNat).raw, use.answers⟩, ?_, ⟨_, rfl, ?_, ?_⟩, rfl⟩
  · simp only [step, same, session.raw_move, Option.map_some]
  · rw [SessionBuffer.move_maxBuffSize, sized]
  · rw [SessionBuffer.move_content, BoundedFifo.Queue.dropFront_items, held]

theorem Beside.observed {queue : BoundedFifo.Queue UInt8 capacity} (beside : use.Beside queue) :
    use.raw.read = some queue.items ∧
      use.raw.getWriteSize.toNat + use.raw.getBufferSize.toNat = capacity := by
  obtain ⟨session, same, sized, held⟩ := beside
  have bounded := session.bounded
  rw [same, session.raw_read, held, RawSessionBuffer.getWriteSize, session.raw_writeSize,
    session.raw_getBufferSize, SessionBuffer.getBufferSize]
  exact ⟨rfl, by omega⟩

def isWrite : BufferOperation → Bool
  | .write _ => true
  | .move _ => false

def confirmations (operations : List BufferOperation) : List Bool :=
  (operations.filter isWrite).map fun _ => true

theorem run_answers {last : BufferUse} {queue : BoundedFifo.Queue UInt8 capacity}
    {operations : List BufferOperation} (beside : use.Beside queue)
    (fits : Throughout step Fits use operations) (ran : run step use operations = some last) :
    last.answers = use.answers ++ confirmations operations := by
  induction operations generalizing use queue with
  | nil =>
    cases ran
    exact (List.append_nil _).symm
  | cons operation rest ih =>
    obtain ⟨first, later⟩ := fits
    obtain ⟨next, stepped, ended⟩ := run_cons_eq_some.mp ran
    rw [stepped] at later
    cases operation with
    | write data =>
      obtain ⟨written, after, done, -, besideAfter, answered⟩ := write_beside beside first
      cases stepped.symm.trans done
      rw [ih besideAfter later ended, answered, List.append_assoc]
      rfl
    | move length =>
      obtain ⟨moved, done, besideAfter, answered⟩ := move_beside beside
      cases stepped.symm.trans done
      rw [ih besideAfter later ended, answered]
      rfl

def queueStep {capacity : Nat} (queue : BoundedFifo.Queue UInt8 capacity)
    (operation : BufferOperation) : Option (BoundedFifo.Queue UInt8 capacity) :=
  queue.step operation.onQueue

theorem step_beside (use : BufferUse) (queue : BoundedFifo.Queue UInt8 capacity)
    (operation : BufferOperation) (beside : use.Beside queue) (fits : use.Fits operation) :
    ∃ next after, use.step operation = some next ∧ queueStep queue operation = some after ∧
      next.Beside after := by
  cases operation with
  | write data =>
    obtain ⟨next, after, stepped, queued, besideAfter, -⟩ := write_beside beside fits
    exact ⟨next, after, stepped, queued, besideAfter⟩
  | move length =>
    obtain ⟨next, stepped, besideAfter, -⟩ := move_beside beside
    exact ⟨next, queue.dropFront length.toNat, stepped, rfl, besideAfter⟩

/-- `CSessionBuffer` after `Init` is a queue with room for `capacity` bytes. -/
theorem refines_bounded_queue (capacity : UInt64) (fresh : Nat → UInt8)
    (operations : List BufferOperation)
    (fits : Throughout step Fits (init capacity fresh) operations) :
    ∃ last, ∃ queue : BoundedFifo.Queue UInt8 capacity.toNat,
      run step (init capacity fresh) operations = some last ∧
      run queueStep BoundedFifo.Queue.empty operations = some queue ∧
      last.raw.read = some queue.items ∧
      last.raw.getWriteSize.toNat + last.raw.getBufferSize.toNat = capacity.toNat ∧
      last.answers = confirmations operations := by
  obtain ⟨last, queue, ran, queueRan, beside⟩ :=
    run_simulates step_beside (init_beside capacity fresh) fits
  obtain ⟨content, sizes⟩ := beside.observed
  exact ⟨last, queue, ran, queueRan, content, sizes,
    run_answers (init_beside capacity fresh) fits ran⟩

instance decidableFits (use : BufferUse) : ∀ operation, Decidable (use.Fits operation)
  | .write data => inferInstanceAs (Decidable (data.length ≤ use.raw.getBufferSize.toNat))
  | .move _ => inferInstanceAs (Decidable True)

theorem four_bytes_refined :
    Throughout step Fits (init 4 fun _ => 0)
        [.write [1, 2, 3], .move 2, .write [4, 5, 6], .move 1, .move 9, .write [7]] ∧
      ∃ last, ∃ queue : BoundedFifo.Queue UInt8 (4 : UInt64).toNat,
        run step (init 4 fun _ => 0)
          [.write [1, 2, 3], .move 2, .write [4, 5, 6], .move 1, .move 9, .write [7]] = some last ∧
        last.raw.read = some queue.items ∧ queue.items = [7] := by
  have fits : Throughout step Fits (init 4 fun _ => 0)
      [.write [1, 2, 3], .move 2, .write [4, 5, 6], .move 1, .move 9, .write [7]] := by decide
  obtain ⟨last, queue, ran, queueRan, content, -⟩ := refines_bounded_queue 4 (fun _ => 0) _ fits
  have items : queue.items = [7] := by
    have computed : (run queueStep (BoundedFifo.Queue.empty :
        BoundedFifo.Queue UInt8 (4 : UInt64).toNat)
        [.write [1, 2, 3], .move 2, .write [4, 5, 6], .move 1, .move 9, .write [7]]).map
          BoundedFifo.Queue.items = some [7] := by decide
    rw [queueRan] at computed
    exact Option.some.inj computed
  exact ⟨fits, last, queue, ran, content, items⟩

end BufferUse

end PssAsio
