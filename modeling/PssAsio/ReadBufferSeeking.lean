import PssAsio.ReadWriteBufferCore
import PssAsio.TransitionRuns

/-!
Seeking with `read_offset`. A negative offset moves the unsigned position forward.
-/

namespace PssAsio

open TransitionRuns

inductive SeekAction where
  | number (type : NumberType)
  | offset (size : Int32)

def cursorAfter (size cursor : Nat) : SeekAction → Nat
  | .number type => if cursor + type.size ≤ size then cursor + type.size else cursor
  | .offset offsetSize =>
      if 0 < offsetSize.toInt then
        if cursor + offsetSize.toInt.toNat ≤ size then cursor + offsetSize.toInt.toNat else cursor
      else cursor - (-offsetSize.toInt).toNat

structure SeekWorld where
  reader : ReadBuffer
  cursor : Nat

def ReadBuffer.seek (host : BufferHost) (reader : ReadBuffer) : SeekAction → ReadBuffer
  | .number type => (reader.readNumber host type).2
  | .offset offsetSize => (reader.readOffset offsetSize).2

namespace SeekWorld

variable (host : BufferHost)

def start (buffer : List UInt8) (netSort : Bool) : SeekWorld := ⟨.onString buffer netSort, 0⟩

variable (world : SeekWorld)

def after (action : SeekAction) : SeekWorld where
  reader := world.reader.seek host action
  cursor := cursorAfter world.reader.buffer.length world.cursor action

def step (action : SeekAction) : Option SeekWorld :=
  some (world.after host action)

def Follows : Prop :=
  world.reader.readPtr.toNat = world.cursor ∧
    ∀ span ∈ world.reader.accessed, span.offset + span.length ≤ world.reader.buffer.length
  deriving Decidable

def Rereads (type : NumberType) : Prop :=
  world.reader.fits type.size = true →
    let (value, next) := world.reader.readNumber host type
    ((next.readOffset (-Int32.ofNat type.size)).2.readNumber host type).1 = value

def Exact (actions : List SeekAction) : Prop :=
  Always (step host) Follows world actions ∧
    ∀ before later type middle,
      actions = before ++ .number type :: .offset (-Int32.ofNat type.size) :: .number type ::
        later → run (step host) world before = some middle → middle.Rereads host type

def BackToStart : SeekAction → Prop
  | .number _ => True
  | .offset offsetSize => offsetSize < 0 → (world.reader.readPtr.toNat : Int) = -offsetSize.toInt

structure Bounded : Prop where
  sized : world.reader.writePtr.toNat = world.reader.buffer.length
  short : world.reader.buffer.length < 2 ^ 31
  ordered : world.cursor ≤ world.reader.buffer.length

variable {host} {world next : SeekWorld}

theorem cursorAfter_le {size cursor : Nat} (ordered : cursor ≤ size) (action : SeekAction) :
    cursorAfter size cursor action ≤ size := by
  cases action with
  | number type =>
    simp only [cursorAfter]
    split
    · assumption
    · exact ordered
  | offset offsetSize =>
    simp only [cursorAfter]
    split
    · split
      · assumption
      · exact ordered
    · omega

theorem readOffset_frame (reader : ReadBuffer) (offsetSize : Int32) :
    (reader.readOffset offsetSize).2 =
      { reader with readPtr := (reader.readOffset offsetSize).2.readPtr } := by
  simp only [ReadBuffer.readOffset]
  split
  · rfl
  · split
    · split
      · rfl
      · rfl
    · rfl

theorem after_frame (host : BufferHost) (world : SeekWorld) (action : SeekAction) :
    (world.after host action).reader.buffer = world.reader.buffer ∧
      (world.after host action).reader.writePtr = world.reader.writePtr := by
  cases action with
  | number type =>
    simp only [after, ReadBuffer.seek, ReadBuffer.readNumber]
    split
    · exact ⟨rfl, rfl⟩
    · exact ⟨rfl, rfl⟩
  | offset offsetSize =>
    rw [after, ReadBuffer.seek, readOffset_frame]
    exact ⟨rfl, rfl⟩

theorem Bounded.step {action : SeekAction} (bounded : world.Bounded)
    (stepped : world.step host action = some next) : next.Bounded := by
  obtain ⟨sameBuffer, samePtr⟩ := after_frame host world action
  cases stepped
  refine ⟨?_, ?_, ?_⟩
  · rw [samePtr, sameBuffer]
    exact bounded.sized
  · rw [sameBuffer]
    exact bounded.short
  · rw [sameBuffer]
    exact cursorAfter_le bounded.ordered action

theorem Bounded.inside (bounded : world.Bounded) (follows : world.Follows) : world.reader.Inside :=
  ⟨bounded.sized, bounded.short, follows.1 ▸ bounded.ordered⟩

theorem number_follows (bounded : world.Bounded) (follows : world.Follows) (type : NumberType) :
    (world.after host (.number type)).Follows := by
  have inside := bounded.inside follows
  obtain ⟨same, within⟩ := follows
  have fitting := inside.fits_iff type.size
  simp only [after, ReadBuffer.seek, ReadBuffer.readNumber, cursorAfter, ← same, ← fitting]
  split
  · rename_i fits
    refine ⟨inside.copied_readPtr (fitting.mp fits), ?_⟩
    intro span held
    cases List.mem_append.mp held with
    | inl earlier => exact within span earlier
    | inr last =>
      rw [List.mem_singleton.mp last]
      exact fitting.mp fits
  · exact ⟨rfl, within⟩

section Offsets

variable {reader : ReadBuffer} {offsetSize : Int32}

theorem readOffset_forward (inside : reader.Inside) (positive : 0 < offsetSize.toInt) :
    (reader.readOffset offsetSize).2.readPtr.toNat =
      cursorAfter reader.buffer.length reader.readPtr.toNat (.offset offsetSize) := by
  have short := inside.short
  have left := inside.remaining_toInt
  have natural : 0 ≤ offsetSize := Int32.le_iff_toInt_le.mpr (Int.le_of_lt positive)
  have notBack : ¬offsetSize < 0 := fun back => by
    have below : offsetSize.toInt < 0 := Int32.lt_iff_toInt_lt.mp back
    omega
  have added := toNat_toUInt32 natural
  simp only [ReadBuffer.readOffset, cursorAfter, positive, if_true, notBack, if_false]
  by_cases fits : reader.readPtr.toNat + offsetSize.toInt.toNat ≤ reader.buffer.length
  · have taken : offsetSize ≤ reader.remaining.toInt32 ∧ 0 < offsetSize :=
      ⟨Int32.le_iff_toInt_le.mpr (by omega), Int32.lt_iff_toInt_lt.mpr positive⟩
    rw [if_pos taken, if_pos fits, UInt32.toNat_add]
    omega
  · have refused : ¬(offsetSize ≤ reader.remaining.toInt32 ∧ 0 < offsetSize) := fun taken => by
      have room := Int32.le_iff_toInt_le.mp taken.1
      omega
    rw [if_neg refused, if_neg fits]

theorem readOffset_back (inside : reader.Inside) (negative : offsetSize < 0) :
    ((reader.readOffset offsetSize).2.readPtr.toNat : Int) =
      if (reader.readPtr.toNat : Int) = -offsetSize.toInt then 0
      else reader.readPtr.toNat - offsetSize.toInt := by
  have short := inside.short
  have ordered := inside.ordered
  have below : offsetSize.toInt < 0 := Int32.lt_iff_toInt_lt.mp negative
  have lowest := offsetSize.le_toInt
  have word := toNat_toUInt32_of_neg negative
  have notForward : ¬(offsetSize ≤ reader.remaining.toInt32 ∧ 0 < offsetSize) := fun taken => by
    have above : 0 < offsetSize.toInt := Int32.lt_iff_toInt_lt.mp taken.2
    omega
  have sum : 0 < reader.readPtr + offsetSize.toUInt32 ↔
      (reader.readPtr.toNat : Int) ≠ -offsetSize.toInt := by
    rw [UInt32.lt_iff_toNat_lt, UInt32.toNat_add, UInt32.toNat_zero]
    omega
  simp only [ReadBuffer.readOffset, notForward, if_false, negative, if_true, sum]
  by_cases whole : (reader.readPtr.toNat : Int) = -offsetSize.toInt
  · simp [whole]
  · rw [if_pos whole, if_neg whole, UInt32.toNat_sub]
    omega

end Offsets

theorem offset_readPtr_iff {reader : ReadBuffer} (inside : reader.Inside) (offsetSize : Int32) :
    (reader.readOffset offsetSize).2.readPtr.toNat =
        cursorAfter reader.buffer.length reader.readPtr.toNat (.offset offsetSize) ↔
      (offsetSize < 0 → (reader.readPtr.toNat : Int) = -offsetSize.toInt) := by
  by_cases negative : offsetSize < 0
  · have below : offsetSize.toInt < 0 := Int32.lt_iff_toInt_lt.mp negative
    have back := readOffset_back inside negative
    simp only [cursorAfter, show ¬0 < offsetSize.toInt by omega, if_false, negative,
      forall_const]
    by_cases whole : (reader.readPtr.toNat : Int) = -offsetSize.toInt
    · rw [if_pos whole] at back
      omega
    · rw [if_neg whole] at back
      omega
  · refine iff_of_true ?_ fun back => absurd back negative
    by_cases positive : 0 < offsetSize.toInt
    · exact readOffset_forward inside positive
    · have same : offsetSize = 0 := by
        apply Int32.toInt_inj.mp
        have natural : ¬offsetSize.toInt < 0 := fun below =>
          negative (Int32.lt_iff_toInt_lt.mpr below)
        change offsetSize.toInt = 0
        omega
      simp [same, ReadBuffer.readOffset, cursorAfter]

theorem step_follows_iff {action : SeekAction} (bounded : world.Bounded)
    (follows : world.Follows) (stepped : world.step host action = some next) :
    next.Follows ↔ world.BackToStart action := by
  cases stepped
  cases action with
  | number type => exact iff_of_true (number_follows bounded follows type) trivial
  | offset offsetSize =>
    refine Iff.trans ?_ (offset_readPtr_iff (bounded.inside follows) offsetSize)
    simp only [Follows, after, ReadBuffer.seek, ← follows.1]
    rw [readOffset_frame]
    exact and_iff_left follows.2

theorem rereads_of_backToStart {type : NumberType} {later : List SeekAction}
    (bounded : world.Bounded) (follows : world.Follows)
    (kept : Throughout (step host) BackToStart world
      (.number type :: .offset (-Int32.ofNat type.size) :: later)) : world.Rereads host type := by
  intro fits
  have inside := bounded.inside follows
  have room := (inside.fits_iff type.size).mp fits
  have moved := inside.copied_readPtr room
  have width : (-Int32.ofNat type.size).toInt = -(type.size : Int) := by
    cases type <;> rfl
  have negative : -Int32.ofNat type.size < 0 := by
    cases type <;> decide
  have back := kept.2.1 negative
  simp only [after, ReadBuffer.seek, ReadBuffer.readNumber, fits, if_true] at back ⊢
  -- The step back is allowed only when the number was the first one.
  have returned : ((world.reader.copied type.size).readOffset (-Int32.ofNat type.size)).2.readPtr =
      world.reader.readPtr := by
    apply UInt32.toNat_inj.mp
    have landed := readOffset_back (inside.copied room) negative
    rw [if_pos back] at landed
    rw [moved, width] at back
    omega
  rw [readOffset_frame, returned]
  rfl

theorem start_bounded {buffer : List UInt8} (short : buffer.length < 2 ^ 31) (netSort : Bool) :
    (start buffer netSort).Bounded :=
  ⟨(ReadBuffer.onString_inside short netSort).sized, short, Nat.zero_le _⟩

theorem start_follows (buffer : List UInt8) (netSort : Bool) : (start buffer netSort).Follows :=
  ⟨rfl, by simp [start, ReadBuffer.onString]⟩

/-- Seeking is exact in a run exactly when all its steps back lead to the start of the string. -/
theorem exact_iff_backToStart (host : BufferHost) (buffer : List UInt8) (netSort : Bool)
    (actions : List SeekAction) (short : buffer.length < 2 ^ 31) :
    (start buffer netSort).Exact host actions ↔
      Throughout (step host) BackToStart (start buffer netSort) actions := by
  have bounded := start_bounded short netSort
  have follows := start_follows buffer netSort
  have positions : Always (step host) Follows (start buffer netSort) actions ↔
      Throughout (step host) BackToStart (start buffer netSort) actions := by
    refine always_iff_throughout ?_ ?_ bounded follows (run_total (after host) _ actions)
    · intro world action next held stepped
      exact held.step stepped
    · intro world action next held kept stepped
      exact step_follows_iff held kept stepped
  refine ⟨fun exact => positions.mp exact.1, fun kept => ⟨positions.mpr kept, ?_⟩⟩
  intro before later type middle split reached
  rw [split] at kept
  obtain ⟨front, back⟩ := throughout_append reached kept
  have held : middle.Bounded ∧ middle.Follows :=
    run_invariant BackToStart (fun world => world.Bounded ∧ world.Follows)
      (fun _ _ _ held permitted stepped => ⟨held.1.step stepped,
        (step_follows_iff held.1 held.2 stepped).mpr permitted⟩)
      ⟨bounded, follows⟩ front reached
  exact rereads_of_backToStart held.1 held.2 back

theorem first_number_read_twice :
    ([0x01, 0x02, 0x03, 0x04] : List UInt8).length < 2 ^ 31 ∧
      (start [0x01, 0x02, 0x03, 0x04] false).Exact ⟨.littleEndian, false, fun _ => 0⟩
        [.number .uint16, .offset (-2), .number .uint16] := by
  refine ⟨by decide, ?_⟩
  apply (exact_iff_backToStart _ _ false _ (by decide)).mpr
  exact ⟨trivial, fun _ => rfl, trivial, trivial⟩

/-- Two bytes back from the end of four bytes the position is six. -/
theorem second_number_not_read_twice :
    ¬(start [0x01, 0x02, 0x03, 0x04] false).Exact ⟨.littleEndian, false, fun _ => 0⟩
      [.number .uint16, .number .uint16, .offset (-2), .number .uint16] := by
  intro exact
  have positions := exact.1
  revert positions
  decide

end SeekWorld

end PssAsio
