import Mathlib.Data.List.Basic

/-!
Streams that are absorbed block by block, with the items behind the last whole block left over.
-/

namespace BlockStream

variable {State Item : Type} (width : Nat) (compress : State → List Item → State)

def absorbBlocks : Nat → State → List Item → State
  | 0, state, _ => state
  | blocks + 1, state, items => absorbBlocks blocks (compress state (items.take width))
      (items.drop width)

def absorb (state : State) (items : List Item) : State :=
  absorbBlocks width compress (items.length / width) state items

def leftover (items : List Item) : List Item := items.drop (items.length / width * width)

theorem leftover_length (items : List Item) :
    (leftover width items).length = items.length % width := by
  rw [leftover, List.length_drop, Nat.mod_eq_sub, Nat.mul_comm]

variable {width}

theorem leftover_of_lt {items : List Item} (short : items.length < width) :
    leftover width items = items := by
  rw [leftover, Nat.div_eq_of_lt short, Nat.zero_mul, List.drop_zero]

theorem leftover_of_le {items : List Item} (positive : 0 < width) (whole : width ≤ items.length) :
    leftover width items = leftover width (items.drop width) := by
  have blocks := Nat.div_eq_sub_div positive whole
  rw [leftover, leftover, List.length_drop, List.drop_drop, blocks, Nat.add_mul, Nat.one_mul,
    Nat.add_comm]

theorem absorb_of_lt (state : State) {items : List Item} (short : items.length < width) :
    absorb width compress state items = state := by
  rw [absorb, Nat.div_eq_of_lt short, absorbBlocks]

theorem absorb_of_le (state : State) {items : List Item} (positive : 0 < width)
    (whole : width ≤ items.length) :
    absorb width compress state items =
      absorb width compress (compress state (items.take width)) (items.drop width) := by
  rw [absorb, absorb, List.length_drop, Nat.div_eq_sub_div positive whole, absorbBlocks]

/-- What was left over is absorbed in front of what comes later. -/
theorem absorb_append (positive : 0 < width) (state : State) (first second : List Item) :
    absorb width compress state (first ++ second) =
        absorb width compress (absorb width compress state first) (leftover width first ++ second) ∧
      leftover width (first ++ second) = leftover width (leftover width first ++ second) := by
  induction size : first.length / width generalizing state first with
  | zero =>
    have short : first.length < width :=
      (Nat.div_eq_zero_iff.mp size).resolve_left (Nat.ne_of_gt positive)
    rw [absorb_of_lt compress state short, leftover_of_lt short]
    exact ⟨rfl, rfl⟩
  | succ blocks ih =>
    have whole : width ≤ first.length := (Nat.div_pos_iff.mp (by omega)).2
    have longer : width ≤ (first ++ second).length := by
      rw [List.length_append]
      omega
    have fewer : (first.drop width).length / width = blocks := by
      rw [Nat.div_eq_sub_div positive whole] at size
      rw [List.length_drop]
      omega
    rw [absorb_of_le compress state positive longer, absorb_of_le compress state positive whole,
      leftover_of_le positive longer, leftover_of_le positive whole,
      List.take_append_of_le_length whole, List.drop_append_of_le_length whole]
    exact ih _ _ fewer

end BlockStream
