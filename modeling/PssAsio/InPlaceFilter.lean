import Mathlib.Data.List.Basic

/-!
Removing elements in place with a predicate that changes a state, as `erase(remove_if(..))` does.
-/

namespace InPlaceFilter

variable {State Item : Type} (predicate : State → Item → Bool × State)

def findIf : Nat → State → List (Option Item) → Nat → Option (State × Nat)
  | 0, state, _, first => some (state, first)
  | remaining + 1, state, cells, first =>
      match cells[first]? with
      | some (some item) =>
          let answer := predicate state item
          if answer.1 then some (answer.2, first)
          else findIf remaining answer.2 cells (first + 1)
      | _ => none

def compact : Nat → State → List (Option Item) → Nat → Nat →
    Option (State × List (Option Item) × Nat)
  | 0, state, cells, result, _ => some (state, cells, result)
  | remaining + 1, state, cells, result, first =>
      match cells[first]? with
      | some (some item) =>
          let answer := predicate state item
          if answer.1 then compact remaining answer.2 cells result (first + 1)
          else
            compact remaining answer.2 ((cells.set first none).set result (some item)) (result + 1)
              (first + 1)
      | _ => none

variable (state : State)

def removeIf (cells : List (Option Item)) : Option (State × List (Option Item) × Nat) :=
  (findIf predicate cells.length state cells 0).bind fun found =>
    if found.2 = cells.length then some (found.1, cells, found.2)
    else compact predicate (cells.length - (found.2 + 1)) found.1 cells found.2 (found.2 + 1)

def eraseRemoveIf (items : List Item) : Option (State × List Item) :=
  (removeIf predicate state (items.map some)).bind fun removed =>
    ((removed.2.1.take removed.2.2).mapM id).map fun kept => (removed.1, kept)

def sieve : State → List Item → State × List Item
  | state, [] => (state, [])
  | state, item :: rest =>
      let answer := predicate state item
      let later := sieve answer.2 rest
      (later.1, if answer.1 then later.2 else item :: later.2)

theorem get_behind (front : List (Option Item)) (item : Item) (rest : List (Option Item)) :
    (front ++ some item :: rest)[front.length]? = some (some item) := by
  rw [List.getElem?_append_right (Nat.le_refl _), Nat.sub_self]
  rfl

theorem set_moved_down (kept : List (Option Item)) (cell : Option Item) (gap : List (Option Item))
    (item : Item) (rest : List (Option Item)) :
    ((kept ++ (cell :: gap) ++ some item :: rest).set (kept ++ (cell :: gap)).length none).set
        kept.length (some item) =
      (kept ++ [some item]) ++ (gap ++ [none]) ++ rest := by
  rw [List.set_append_right _ _ (Nat.le_refl _), Nat.sub_self, List.set_cons_zero,
    List.append_assoc kept, List.set_append_right _ _ (Nat.le_refl _), Nat.sub_self]
  simp

theorem mapM_id_map_some (items : List Item) : (items.map some).mapM id = some items := by
  induction items with
  | nil => rfl
  | cons item rest ih => simp [List.mapM_cons, ih]

/-- The induction is on the elements still to be asked about, behind a gap that is not empty. -/
theorem compact_spec (rest : List Item) (state : State) (kept : List Item)
    (cell : Option Item) (gap : List (Option Item)) :
    ∃ cells, compact predicate rest.length state
        (kept.map some ++ (cell :: gap) ++ rest.map some) (kept.map some).length
        (kept.map some ++ (cell :: gap)).length =
      some ((sieve predicate state rest).1, cells,
        (kept ++ (sieve predicate state rest).2).length) ∧
      cells.take (kept ++ (sieve predicate state rest).2).length =
        (kept ++ (sieve predicate state rest).2).map some := by
  induction rest generalizing state kept cell gap with
  | nil =>
    refine ⟨kept.map some ++ (cell :: gap) ++ [], by simp [compact, sieve], ?_⟩
    simp [sieve]
  | cons item rest ih =>
    simp only [List.length_cons, List.map_cons, compact, get_behind, sieve]
    by_cases removed : (predicate state item).1 = true
    · -- The element joins the gap.
      obtain ⟨cells, compacted, front⟩ := ih (predicate state item).2 kept cell
        (gap ++ [some item])
      refine ⟨cells, ?_, ?_⟩
      · simp only [removed, if_true]
        rw [← compacted]
        congr 1
        · simp
        · simp only [List.length_append, List.length_cons, List.length_nil]
          omega
      · simpa only [removed, if_true] using front
    · -- The element is moved down and the gap with it.
      obtain ⟨next, nextGap, shifted⟩ : ∃ next nextGap, gap ++ [none] = next :: nextGap := by
        cases gap with
        | nil => exact ⟨none, [], rfl⟩
        | cons next later => exact ⟨next, later ++ [none], rfl⟩
      obtain ⟨cells, compacted, front⟩ := ih (predicate state item).2 (kept ++ [item]) next
        nextGap
      have result : (kept.map some).length + 1 = ((kept ++ [item]).map some).length := by simp
      have first : (kept.map some ++ (cell :: gap)).length + 1 =
          ((kept ++ [item]).map some ++ (next :: nextGap)).length := by
        rw [← shifted]
        simp
        omega
      have joined : kept.map some ++ [some item] = (kept ++ [item]).map some := by simp
      have longer : kept ++ item :: (sieve predicate (predicate state item).2 rest).2 =
          (kept ++ [item]) ++ (sieve predicate (predicate state item).2 rest).2 := by simp
      simp only [removed, if_false, Bool.false_eq_true]
      rw [set_moved_down, shifted, joined, result, first, longer]
      exact ⟨cells, compacted, front⟩

theorem findIf_spec (rest : List Item) (state : State) (checked : List Item) :
    (findIf predicate rest.length state ((checked ++ rest).map some) checked.length =
        some ((sieve predicate state rest).1, (checked ++ rest).length) ∧
      (sieve predicate state rest).2 = rest) ∨
    ∃ front item tail after, rest = front ++ item :: tail ∧
      findIf predicate rest.length state ((checked ++ rest).map some) checked.length =
        some (after, (checked ++ front).length) ∧
      sieve predicate state rest =
        ((sieve predicate after tail).1, front ++ (sieve predicate after tail).2) := by
  induction rest generalizing state checked with
  | nil => exact .inl ⟨by simp [findIf, sieve], rfl⟩
  | cons item rest ih =>
    have asked : ((checked ++ item :: rest).map some)[checked.length]? = some (some item) := by
      have behind := get_behind (checked.map some) item (rest.map some)
      rwa [List.length_map, ← List.map_cons, ← List.map_append] at behind
    simp only [List.length_cons, findIf, asked, sieve]
    by_cases removed : (predicate state item).1 = true
    · right
      exact ⟨[], item, rest, (predicate state item).2, rfl, by simp [removed],
        by simp [removed]⟩
    · have joined : checked ++ item :: rest = (checked ++ [item]) ++ rest := by simp
      have next : checked.length + 1 = (checked ++ [item]).length := by simp
      simp only [removed, if_false, Bool.false_eq_true]
      rw [joined, next]
      rcases ih (predicate state item).2 (checked ++ [item]) with
        ⟨found, stays⟩ | ⟨front, hit, tail, after, split, found, sieved⟩
      · left
        exact ⟨found, by rw [stays]⟩
      · right
        refine ⟨item :: front, hit, tail, after, by rw [split]; rfl, ?_, by rw [sieved]; rfl⟩
        rw [found, List.append_assoc, List.singleton_append]

theorem eraseRemoveIf_eq_sieve (items : List Item) :
    eraseRemoveIf predicate state items = some (sieve predicate state items) := by
  have length : (items.map some).length = items.length := List.length_map _
  rcases findIf_spec predicate items state [] with
    ⟨found, stays⟩ | ⟨front, item, tail, after, split, found, sieved⟩
  · simp only [List.nil_append, List.length_nil] at found
    simp only [eraseRemoveIf, removeIf, length, found, Option.bind_some, if_true]
    rw [← length, List.take_length, mapM_id_map_some]
    simp [Prod.ext_iff, stays]
  · simp only [List.nil_append, List.length_nil] at found
    obtain ⟨cells, compacted, kept⟩ := compact_spec predicate tail after front (some item) []
    have shape : items.map some = front.map some ++ [some item] ++ tail.map some := by
      rw [split]
      simp
    have before : front.length ≠ items.length := by
      rw [split]
      simp only [List.length_append, List.length_cons]
      omega
    have remaining : items.length - (front.length + 1) = tail.length := by
      rw [split]
      simp only [List.length_append, List.length_cons]
      omega
    have ends : (front.map some ++ [some item]).length = front.length + 1 := by simp
    rw [List.length_map, ends, ← shape] at compacted
    simp only [eraseRemoveIf, removeIf, length, found, Option.bind_some, before, if_false,
      remaining, compacted, kept, mapM_id_map_some, Option.map_some, sieved]

end InPlaceFilter
