import Mathlib.Data.List.Induction
import PssAsio.TransitionRuns

/-!
A stream of items that arrives in pieces.
-/

namespace StreamCuts

open TransitionRuns

section Items

variable {Item Byte : Type} (bytes : Item → List Byte)

@[simp]
def completed : List Item → Nat → List Item
  | [], _ => []
  | item :: rest, count =>
      if (bytes item).length ≤ count then item :: completed rest (count - (bytes item).length)
      else []

@[simp]
def leftover : List Item → Nat → List Byte
  | [], _ => []
  | item :: rest, count =>
      if (bytes item).length ≤ count then leftover rest (count - (bytes item).length)
      else (bytes item).take count

variable (items : List Item)

variable (count : Nat)

theorem take_flatMap :
    (items.flatMap bytes).take count =
      (completed bytes items count).flatMap bytes ++ leftover bytes items count := by
  induction items generalizing count with
  | nil => simp [completed, leftover]
  | cons item rest ih =>
    by_cases whole : (bytes item).length ≤ count
    · simp only [completed, leftover, whole, if_true, List.flatMap_cons, List.append_assoc,
        ← ih (count - (bytes item).length)]
      rw [List.take_append, List.take_of_length_le whole]
    · simp only [completed, leftover, whole, if_false, List.flatMap_cons, List.flatMap_nil,
        List.nil_append]
      rw [List.take_append_of_le_length (by omega)]

theorem completed_mono {early late : Nat} (order : early ≤ late) :
    ∃ fresh, completed bytes items late = completed bytes items early ++ fresh := by
  induction items generalizing early late with
  | nil => exact ⟨[], rfl⟩
  | cons item rest ih =>
    by_cases whole : (bytes item).length ≤ early
    · obtain ⟨fresh, grown⟩ := ih (Nat.sub_le_sub_right order (bytes item).length)
      refine ⟨fresh, ?_⟩
      simp only [completed, whole, Nat.le_trans whole order, if_true, grown, List.cons_append]
    · exact ⟨completed bytes (item :: rest) late, by
        simp only [completed, whole, if_false, List.nil_append]⟩

theorem completed_subset : ∀ item ∈ completed bytes items count, item ∈ items := by
  induction items generalizing count with
  | nil => simp [completed]
  | cons first rest ih =>
    intro item member
    simp only [completed] at member
    split at member
    · rcases List.mem_cons.mp member with same | later
      · exact same ▸ List.mem_cons_self
      · exact List.mem_cons_of_mem _ (ih _ item later)
    · simp at member

theorem completed_all : completed bytes items (items.flatMap bytes).length = items := by
  induction items with
  | nil => rfl
  | cons item rest ih =>
    simp only [completed, List.flatMap_cons, List.length_append, Nat.le_add_right, if_true,
      Nat.add_sub_cancel_left, ih]

theorem completed_zero (filled : ∀ item ∈ items, bytes item ≠ []) :
    completed bytes items 0 = [] := by
  cases items with
  | nil => rfl
  | cons item rest =>
    have nonempty := List.length_pos_iff.mpr (filled item List.mem_cons_self)
    simp only [completed]
    rw [if_neg (by omega)]

theorem leftover_cases :
    leftover bytes items count = [] ∨ ∃ item ∈ items, ∃ arrived,
      arrived < (bytes item).length ∧ leftover bytes items count = (bytes item).take arrived := by
  induction items generalizing count with
  | nil => exact .inl rfl
  | cons item rest ih =>
    by_cases whole : (bytes item).length ≤ count
    · simp only [leftover, whole, if_true]
      rcases ih (count - (bytes item).length) with nothing | ⟨other, member, part⟩
      · exact .inl nothing
      · exact .inr ⟨other, List.mem_cons_of_mem _ member, part⟩
    · simp only [leftover, whole, if_false]
      exact .inr ⟨item, List.mem_cons_self, count, by omega, rfl⟩

theorem leftover_length_le : (leftover bytes items count).length ≤ count := by
  have whole := congrArg List.length (take_flatMap bytes items count)
  simp only [List.length_append, List.length_take] at whole
  omega

theorem leftover_append (data : List Byte)
    (arriving : (items.flatMap bytes).take (count + data.length) = (items.flatMap bytes).take count
      ++ data) :
    ∃ fresh, completed bytes items (count + data.length) = completed bytes items count ++ fresh ∧
      leftover bytes items count ++ data =
        fresh.flatMap bytes ++ leftover bytes items (count + data.length) := by
  obtain ⟨fresh, grown⟩ := completed_mono bytes items (Nat.le_add_right count data.length)
  refine ⟨fresh, grown, ?_⟩
  rw [take_flatMap, take_flatMap, grown, List.flatMap_append, List.append_assoc,
    List.append_assoc, List.append_cancel_left_eq] at arriving
  exact arriving.symm

end Items

theorem take_of_split {Byte : Type} {stream : List Byte} {reads done rest : List (List Byte)}
    (split : reads.flatten = stream) (prefixed : reads = done ++ rest) :
    stream.take done.flatten.length = done.flatten := by
  rw [← split, prefixed, List.flatten_append, List.take_left]

theorem arriving_of_split {Byte : Type} {stream : List Byte} {reads done rest : List (List Byte)}
    {data : List Byte} (split : reads.flatten = stream) (prefixed : reads = done ++ data :: rest) :
    stream.take (done.flatten.length + data.length) =
      stream.take done.flatten.length ++ data := by
  have extended : reads = (done ++ [data]) ++ rest := by simpa using prefixed
  rw [take_of_split split prefixed]
  simpa using take_of_split split extended

theorem arriving_within {Byte : Type} {data later whole rest : List Byte} {arrived : Nat}
    (split : data ++ later = (whole ++ rest).drop arrived)
    (inside : arrived + data.length ≤ whole.length) :
    whole.take arrived ++ data = whole.take (arrived + data.length) ∧
      later = (whole ++ rest).drop (arrived + data.length) := by
  rw [List.drop_append_of_le_length (by omega)] at split
  have cut : (whole.drop arrived).take data.length ++
      ((whole.drop arrived).drop data.length ++ rest) = data ++ later := by
    rw [← List.append_assoc, List.take_append_drop, split]
  obtain ⟨front, back⟩ := List.append_inj cut (by
    rw [List.length_take, List.length_drop]
    omega)
  refine ⟨?_, ?_⟩
  · rw [List.take_add, front]
  · rw [← back, List.drop_append_of_le_length inside, List.drop_drop]

theorem fits_of_total {Item Byte : Type} (bytes : Item → List Byte) {items : List Item}
    {reads : List (List Byte)} {room : Nat} (split : reads.flatten = items.flatMap bytes)
    (total : (items.flatMap bytes).length ≤ room) (done : List (List Byte)) (data : List Byte)
    (rest : List (List Byte)) (prefixed : reads = done ++ data :: rest) :
    (leftover bytes items done.flatten.length).length + data.length ≤ room := by
  have held := leftover_length_le bytes items done.flatten.length
  rw [← split, prefixed] at total
  simp only [List.flatten_append, List.flatten_cons, List.length_append] at total
  omega

theorem run_reads {State Byte : Type} {step : State → List Byte → Option State}
    {stream : List Byte} {invariant : Nat → State → Prop} {fits : Nat → List Byte → Prop}
    (advance : ∀ count state data, invariant count state →
      stream.take (count + data.length) = stream.take count ++ data → fits count data →
      ∃ next, step state data = some next ∧ invariant (count + data.length) next)
    {start : State} (initial : invariant 0 start) {reads : List (List Byte)}
    (split : reads.flatten = stream)
    (fitting : ∀ done data rest, reads = done ++ data :: rest → fits done.flatten.length data)
    (done rest : List (List Byte)) (prefixed : reads = done ++ rest) :
    ∃ state, run step start done = some state ∧ invariant done.flatten.length state := by
  induction done using List.reverseRecOn generalizing rest with
  | nil => exact ⟨start, rfl, initial⟩
  | append_singleton done data ih =>
    have earlier : reads = done ++ data :: rest := by simpa using prefixed
    obtain ⟨state, ran, before⟩ := ih (data :: rest) earlier
    obtain ⟨next, stepped, after⟩ := advance _ state data before
      (arriving_of_split split earlier) (fitting done data rest earlier)
    refine ⟨next, by simp [run_append, ran, run, stepped], ?_⟩
    simpa using after

theorem exists_first_not {α : Type} {holds : α → Prop} [DecidablePred holds] {list : List α}
    (fails : ¬∀ value ∈ list, holds value) :
    ∃ before value after, list = before ++ value :: after ∧ (∀ other ∈ before, holds other) ∧
      ¬holds value := by
  induction list with
  | nil => simp at fails
  | cons first rest ih =>
    by_cases good : holds first
    · obtain ⟨before, value, after, split, earlier, bad⟩ := ih (by
        intro all
        exact fails (List.forall_mem_cons.mpr ⟨good, all⟩))
      exact ⟨first :: before, value, after, by rw [split, List.cons_append],
        List.forall_mem_cons.mpr ⟨good, earlier⟩, bad⟩
    · exact ⟨[], first, rest, rfl, by simp, good⟩

end StreamCuts
