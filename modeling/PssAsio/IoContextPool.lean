import Mathlib.Data.List.Range

/-!
`CIoContextPool` hands out its contexts in turn.
-/

namespace PssAsio

structure IoContextPool where
  ioContextsList : List Nat
  nextIoContext : Nat
  deriving DecidableEq, Repr

namespace IoContextPool

def empty : IoContextPool := ⟨[], 0⟩

def init (pool : IoContextPool) (ioSize : Nat) : Except String IoContextPool :=
  if ioSize = 0 then .error "io_context_pool size is 0"
  else .ok ⟨pool.ioContextsList ++
    (List.range ioSize).map (pool.ioContextsList.length + ·), 0⟩

/-- The context for the caller; `none` is an index beyond the list. -/
def getIOContext (pool : IoContextPool) : Option (Nat × IoContextPool) :=
  pool.ioContextsList[pool.nextIoContext]?.map fun ioContext =>
    let next := pool.nextIoContext + 1
    (ioContext, { pool with
      nextIoContext := if next = pool.ioContextsList.length then 1 else next })

def getIOContexts : (calls : Nat) → IoContextPool → Option (List Nat)
  | 0, _ => some []
  | calls + 1, pool =>
      pool.getIOContext.bind fun (ioContext, next) =>
        (getIOContexts calls next).map (ioContext :: ·)

structure Cycles (size : Nat) (contexts : List Nat) : Prop where
  inside : ∀ ioContext ∈ contexts, ioContext < size
  first : ∀ ioContext ∈ contexts.head?, ioContext = 0
  later : 2 ≤ size → ∀ call ioContext, contexts[call + 1]? = some ioContext →
    ioContext = call % (size - 1) + 1

theorem init_empty {ioSize : Nat} {pool : IoContextPool} (ready : empty.init ioSize = .ok pool) :
    0 < ioSize ∧ pool = ⟨List.range ioSize, 0⟩ := by
  unfold init at ready
  split at ready
  · cases ready
  · rename_i positive
    obtain rfl := Except.ok.inj ready
    exact ⟨Nat.pos_of_ne_zero positive, by simp [empty]⟩

theorem getIOContext_range {size index : Nat} (inside : index < size) :
    getIOContext ⟨List.range size, index⟩ =
      some (index, ⟨List.range size, if index + 1 = size then 1 else index + 1⟩) := by
  simp [getIOContext, List.getElem?_range inside]

theorem getIOContexts_cycle {size : Nat} (calls : Nat) {index : Nat} (inside : index + 1 < size) :
    getIOContexts calls ⟨List.range size, index + 1⟩ =
      some ((List.range calls).map fun call => (index + call) % (size - 1) + 1) := by
  induction calls generalizing index with
  | zero => rfl
  | succ calls ih =>
    rw [getIOContexts, getIOContext_range inside, Option.bind_some]
    have here : (index + 0) % (size - 1) = index := Nat.mod_eq_of_lt (by omega)
    rw [List.range_succ_eq_map, List.map_cons, List.map_map, here]
    by_cases last : index + 1 + 1 = size
    · have wraps : ∀ call, (index + (call + 1)) % (size - 1) = (0 + call) % (size - 1) := by
        intro call
        have around : index + (call + 1) = 0 + call + (size - 1) := by omega
        rw [around, Nat.add_mod_right]
      simp only [if_pos last]
      rw [ih (by omega)]
      simp only [Option.map_some, Function.comp_def, Nat.succ_eq_add_one, wraps]
    · have moves : ∀ call,
          (index + (call + 1)) % (size - 1) = (index + 1 + call) % (size - 1) := by
        intro call
        rw [Nat.add_right_comm, Nat.add_assoc]
      simp only [if_neg last]
      rw [ih (by omega)]
      simp only [Option.map_some, Function.comp_def, Nat.succ_eq_add_one, moves]

theorem cycles_of_two {size calls : Nat} (two : 2 ≤ size) :
    ∃ contexts, getIOContexts calls ⟨List.range size, 0⟩ = some contexts ∧
      contexts.length = calls ∧ Cycles size contexts := by
  cases calls with
  | zero => exact ⟨[], rfl, rfl, by simp, by simp, by simp⟩
  | succ calls =>
    have low : 0 < size := by omega
    have first : ¬0 + 1 = size := by omega
    refine ⟨0 :: (List.range calls).map fun call => (0 + call) % (size - 1) + 1, ?_, by simp,
      ?_, by simp, ?_⟩
    · rw [getIOContexts, getIOContext_range low, Option.bind_some]
      simp only [if_neg first]
      rw [getIOContexts_cycle calls two, Option.map_some]
    · intro ioContext member
      obtain rfl | member := List.mem_cons.mp member
      · exact low
      · obtain ⟨call, -, rfl⟩ := List.mem_map.mp member
        have below : (0 + call) % (size - 1) < size - 1 := Nat.mod_lt _ (by omega)
        omega
    · intro _ call ioContext found
      rw [List.getElem?_cons_succ, List.getElem?_map, Option.map_eq_some_iff] at found
      obtain ⟨index, listed, rfl⟩ := found
      obtain ⟨bound, rfl⟩ := List.getElem?_eq_some_iff.mp listed
      simp

theorem getIOContexts_single (calls : Nat) :
    getIOContexts (calls + 2) ⟨List.range 1, 0⟩ = none := by
  rfl

/-- The calls go round the pool exactly if it has two contexts or one call is made. -/
theorem cycles_iff_two_contexts {ioSize : Nat} {pool : IoContextPool} (calls : Nat)
    (ready : empty.init ioSize = .ok pool) :
    (∃ contexts, pool.getIOContexts calls = some contexts ∧ contexts.length = calls ∧
      Cycles ioSize contexts) ↔ 2 ≤ ioSize ∨ calls ≤ 1 := by
  obtain ⟨positive, rfl⟩ := init_empty ready
  constructor
  · rintro ⟨contexts, returned, -, -⟩
    by_contra neither
    obtain ⟨rest, rfl⟩ : ∃ rest, calls = rest + 2 := ⟨calls - 2, by omega⟩
    obtain rfl : ioSize = 1 := by omega
    rw [getIOContexts_single] at returned
    cases returned
  · rintro (two | few)
    · exact cycles_of_two two
    · match calls with
      | 0 => exact ⟨[], rfl, rfl, by simp, by simp, by simp⟩
      | 1 =>
        refine ⟨[0], ?_, rfl, by simpa using positive, by simp, by simp⟩
        rw [getIOContexts, getIOContext_range positive]
        rfl

theorem three_contexts_cycle :
    ∃ contexts, (IoContextPool.mk [0, 1, 2] 0).getIOContexts 6 = some contexts ∧
      contexts.length = 6 ∧ Cycles 3 contexts :=
  (cycles_iff_two_contexts 6 (rfl : empty.init 3 = .ok ⟨[0, 1, 2], 0⟩)).mpr (.inl (by decide))

theorem single_context_overrun :
    empty.init 1 = .ok ⟨[0], 0⟩ ∧
      (IoContextPool.mk [0] 0).getIOContext = some (0, ⟨[0], 1⟩) ∧
      (IoContextPool.mk [0] 1).getIOContext = none ∧
      (IoContextPool.mk [0] 0).getIOContexts 2 = none :=
  ⟨rfl, rfl, rfl, rfl⟩

end IoContextPool

end PssAsio
