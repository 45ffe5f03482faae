import PssAsio.ReadWriteBufferCore
import PssAsio.TransitionRuns

/-!
Runs of reads on a string of hostile bytes.
-/

namespace PssAsio

open TransitionRuns

inductive ReadAction where
  | number (type : NumberType)
  | string (held : List UInt8)
  | data (size length : UInt32)
  | dataToString (length : Int32)

def ReadAction.Admitted : ReadAction → Prop
  | .dataToString length => -1 ≤ length
  | _ => True

namespace ReadBuffer

variable (host : BufferHost)

variable (reader : ReadBuffer)

def after : ReadAction → ReadBuffer
  | .number type => (reader.readNumber host type).2
  | .string held => (reader.readString host held).2
  | .data size length => (reader.readData host size length).2
  | .dataToString length => (reader.readDataToString host length).2

def StoresWithin : ReadAction → Prop
  | .data size length => (reader.readData host size length).1.length ≤ size.toNat
  | _ => True

structure Advances (next : ReadBuffer) : Prop where
  buffer : next.buffer = reader.buffer
  inside : next.Inside
  forward : reader.readPtr.toNat ≤ next.readPtr.toNat
  within : ∀ span ∈ next.accessed,
    span ∈ reader.accessed ∨ span.offset + span.length ≤ reader.buffer.length

variable {host} {reader next : ReadBuffer}

namespace Advances

theorem refl (inside : reader.Inside) : reader.Advances reader :=
  ⟨rfl, inside, Nat.le_refl _, fun _ held => .inl held⟩

theorem trans {last : ReadBuffer} (first : reader.Advances next) (second : next.Advances last) :
    reader.Advances last where
  buffer := second.buffer.trans first.buffer
  inside := second.inside
  forward := Nat.le_trans first.forward second.forward
  within := by
    intro span held
    cases second.within span held with
    | inl earlier => exact first.within span earlier
    | inr bounded => exact .inr (first.buffer ▸ bounded)

end Advances

namespace Inside

section Bounds

variable (inside : reader.Inside)

include inside

theorem copied_advances {length : Nat}
    (room : reader.readPtr.toNat + length ≤ reader.buffer.length) :
    reader.Advances (reader.copied length) where
  buffer := rfl
  inside := inside.copied room
  forward := by
    rw [inside.copied_readPtr room]
    exact Nat.le_add_right _ _
  within := by
    intro span held
    cases List.mem_append.mp held with
    | inl earlier => exact .inl earlier
    | inr last =>
      rw [List.mem_singleton.mp last]
      exact .inr room

theorem readNumber_advances (type : NumberType) :
    reader.Advances (reader.readNumber host type).2 := by
  simp only [readNumber]
  split
  · rename_i fitting
    exact inside.copied_advances ((inside.fits_iff type.size).mp fitting)
  · exact .refl inside

theorem readString_advances (held : List UInt8) :
    reader.Advances (reader.readString host held).2 := by
  have first : reader.Advances (reader.readNumber host .uint32).2 :=
    inside.readNumber_advances .uint32
  simp only [readString]
  split
  · rename_i fitting
    exact first.trans (first.inside.copied_advances ((first.inside.fits_iff _).mp fitting.2))
  · exact first

theorem readData_advances (size length : UInt32) :
    reader.Advances (reader.readData host size length).2 := by
  have ordered := inside.ordered
  have left := inside.remaining_toNat
  simp only [readData]
  split
  · exact .refl inside
  · apply inside.copied_advances
    split
    · omega
    · rename_i short
      rw [UInt32.lt_iff_toNat_lt] at short
      omega

theorem stringLength_range {length : Int32} (asked : -1 ≤ length) :
    0 ≤ (reader.stringLength length).toInt ∧
      (reader.stringLength length).toInt ≤ reader.buffer.length - reader.readPtr.toNat := by
  have ordered := inside.ordered
  have left := inside.remaining_toInt
  have lowest : -1 ≤ length.toInt := Int32.le_iff_toInt_le.mp asked
  simp only [stringLength]
  by_cases all : length = -1
  · simp only [all, if_true, ite_self]
    omega
  · have natural : length.toInt ≠ -1 := fun same => all (Int32.toInt_inj.mp same)
    simp only [all, if_false, Int32.lt_iff_toInt_lt]
    split
    · omega
    · omega

theorem readDataToString_advances {length : Int32} (asked : -1 ≤ length) :
    reader.Advances (reader.readDataToString host length).2 := by
  obtain ⟨natural, short⟩ := inside.stringLength_range asked
  have count := toNat_toUInt64 natural
  apply inside.copied_advances
  omega

theorem after_advances {action : ReadAction}
    (admitted : action.Admitted) : reader.Advances (reader.after host action) := by
  cases action with
  | number type => exact inside.readNumber_advances type
  | string held => exact inside.readString_advances held
  | data size length => exact inside.readData_advances size length
  | dataToString length => exact inside.readDataToString_advances admitted

end Bounds

end Inside

theorem storesWithin (host : BufferHost) (reader : ReadBuffer) (action : ReadAction) :
    reader.StoresWithin host action := by
  cases action with
  | data size length =>
    simp only [StoresWithin, readData]
    split
    · exact Nat.zero_le _
    · rename_i enough
      rw [UInt32.lt_iff_toNat_lt] at enough
      rw [bytesAt_length]
      split
      · rename_i short
        rw [UInt32.lt_iff_toNat_lt] at short
        omega
      · omega
  | _ => trivial

structure SafeCall (host : BufferHost) (buffer : List UInt8) (reader : ReadBuffer)
    (action : ReadAction) : Prop where
  within : ∀ span ∈ (reader.after host action).accessed, span.offset + span.length ≤ buffer.length
  stores : reader.StoresWithin host action
  forward : reader.readPtr ≤ (reader.after host action).readPtr
  bounded : (reader.after host action).readPtr ≤ (reader.after host action).writePtr

structure Reads (buffer : List UInt8) (reader : ReadBuffer) : Prop where
  same : reader.buffer = buffer
  inside : reader.Inside
  within : ∀ span ∈ reader.accessed, span.offset + span.length ≤ buffer.length

namespace Reads

variable {buffer : List UInt8}

theorem after (reads : reader.Reads buffer) {action : ReadAction} (admitted : action.Admitted) :
    (reader.after host action).Reads buffer := by
  have advances : reader.Advances (reader.after host action) := reads.inside.after_advances admitted
  refine ⟨advances.buffer.trans reads.same, advances.inside, ?_⟩
  intro span held
  cases advances.within span held with
  | inl earlier => exact reads.within span earlier
  | inr bounded => exact reads.same ▸ bounded

theorem safeCall (reads : reader.Reads buffer) {action : ReadAction} (admitted : action.Admitted) :
    reader.SafeCall host buffer action := by
  have advances : reader.Advances (reader.after host action) := reads.inside.after_advances admitted
  refine ⟨(reads.after admitted).within, storesWithin host reader action,
    UInt32.le_iff_toNat_le.mpr advances.forward, ?_⟩
  rw [UInt32.le_iff_toNat_le, advances.inside.sized]
  exact advances.inside.ordered

end Reads

/-- Every call of every run of reads on a string is safe, whatever bytes the string has. -/
theorem reads_safe (host : BufferHost) (buffer : List UInt8) (netSort : Bool)
    (actions : List ReadAction) (short : buffer.length < 2 ^ 31)
    (admitted : ∀ action ∈ actions, action.Admitted) :
    Throughout (fun reader action => some (reader.after host action)) (SafeCall host buffer)
      (onString buffer netSort) actions := by
  have initial : (onString buffer netSort).Reads buffer :=
    ⟨rfl, onString_inside short netSort, by simp [onString]⟩
  refine throughout_of_invariant ?_ ?_ initial (throughout_of_mem admitted _)
  · intro reader action next reads permitted stepped
    cases stepped
    exact reads.after permitted
  · intro reader action reads permitted
    exact reads.safeCall permitted

theorem false_length_safe :
    (∀ action ∈ [ReadAction.string [], .data 1 1, .dataToString (-1)], action.Admitted) ∧
      Throughout
        (fun reader action => some (reader.after ⟨.littleEndian, false, fun _ => 0⟩ action))
        (SafeCall ⟨.littleEndian, false, fun _ => 0⟩ [0xFF, 0xFF, 0xFF, 0xFF, 0x61, 0x62])
        (onString [0xFF, 0xFF, 0xFF, 0xFF, 0x61, 0x62] false)
        [.string [], .data 1 1, .dataToString (-1)] := by
  have admitted : ∀ action ∈ [ReadAction.string [], .data 1 1, .dataToString (-1)],
      action.Admitted := by
    simp [ReadAction.Admitted]
  exact ⟨admitted, reads_safe _ _ false _ (by decide) admitted⟩

end ReadBuffer

end PssAsio
