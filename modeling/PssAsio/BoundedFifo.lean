import Mathlib.Data.List.Basic

/-!
First-in first-out queues of bounded length.
-/

namespace BoundedFifo

variable {Item : Type} {capacity : Nat}

structure Queue (Item : Type) (capacity : Nat) where
  items : List Item
  bounded : items.length ≤ capacity

inductive Operation (Item : Type) where
  | write (data : List Item)
  | move (length : Nat)

namespace Queue

def empty : Queue Item capacity := ⟨[], Nat.zero_le _⟩

variable (queue : Queue Item capacity)

def room : Nat := capacity - queue.items.length

def append (data : List Item) (fits : data.length ≤ queue.room) : Queue Item capacity where
  items := queue.items ++ data
  bounded := by
    have bounded := queue.bounded
    simp only [room] at fits
    simp only [List.length_append]
    omega

def dropFront (length : Nat) : Queue Item capacity where
  items := queue.items.drop (min length queue.items.length)
  bounded := by
    have bounded := queue.bounded
    simp only [List.length_drop]
    omega

def step : Operation Item → Option (Queue Item capacity)
  | .write data => if fits : data.length ≤ queue.room then some (queue.append data fits) else none
  | .move length => some (queue.dropFront length)

theorem step_write {queue : Queue Item capacity} {data : List Item}
    (fits : data.length ≤ queue.room) : queue.step (.write data) = some (queue.append data fits) :=
  dif_pos fits

theorem dropFront_items (length : Nat) :
    (queue.dropFront length).items = queue.items.drop length := by
  simp only [dropFront]
  by_cases inside : length ≤ queue.items.length
  · rw [Nat.min_eq_left inside]
  · rw [Nat.min_eq_right (by omega), List.drop_length, List.drop_of_length_le (by omega)]

end Queue

end BoundedFifo
