import Mathlib.Logic.Function.Basic

/-!
Threads that take re-entrant locks.
-/

namespace ReentrantLocks

open Function

inductive Instr (Lock Call : Type) where
  | acquire (lock : Lock)
  | release (lock : Lock)
  | call (call : Call)
  deriving DecidableEq, Repr

structure Threads (Thread Lock Call State : Type) where
  shared : State
  program : Thread → List (Instr Lock Call)
  owner : Lock → Option (Thread × Nat)

inductive Move (Thread Call Choice : Type) where
  | enter (thread : Thread) (call : Call)
  | advance (thread : Thread) (choice : Choice)
  deriving DecidableEq, Repr

variable {Thread Lock Call State Choice : Type} [DecidableEq Thread] [DecidableEq Lock]

namespace Threads

def idle (shared : State) : Threads Thread Lock Call State :=
  ⟨shared, fun _ => [], fun _ => none⟩

variable (threads : Threads Thread Lock Call State)

variable (thread : Thread)

variable (lock : Lock)

def depth : Nat :=
  match threads.owner lock with
  | some (holder, count) => if holder = thread then count else 0
  | none => 0

def Holds : Prop :=
  0 < threads.depth thread lock
  deriving Decidable

def Waits : Prop :=
  (threads.program thread).head? = some (.acquire lock) ∧
    ∃ holder, holder ≠ thread ∧ threads.Holds holder lock

def take (rest : List (Instr Lock Call)) : Option (Threads Thread Lock Call State) :=
  match threads.owner lock with
  | none =>
      some { threads with
        program := update threads.program thread rest
        owner := update threads.owner lock (some (thread, 1)) }
  | some (holder, count) =>
      if holder = thread then
        some { threads with
          program := update threads.program thread rest
          owner := update threads.owner lock (some (thread, count + 1)) }
      else none

def drop (rest : List (Instr Lock Call)) : Option (Threads Thread Lock Call State) :=
  match threads.owner lock with
  | none => none
  | some (holder, count) =>
      if holder = thread then
        some { threads with
          program := update threads.program thread rest
          owner := update threads.owner lock
            (if count ≤ 1 then none else some (thread, count - 1)) }
      else none

variable (expand : State → Call → Choice → State × List (Instr Lock Call))

def step (threads : Threads Thread Lock Call State) :
    Move Thread Call Choice → Option (Threads Thread Lock Call State)
  | .enter thread call =>
      if (threads.program thread).isEmpty then
        some { threads with program := update threads.program thread [.call call] }
      else none
  | .advance thread choice =>
      match threads.program thread with
      | [] => none
      | .acquire lock :: rest => threads.take thread lock rest
      | .release lock :: rest => threads.drop thread lock rest
      | .call call :: rest =>
          some { threads with
            shared := (expand threads.shared call choice).1
            program := update threads.program thread
              ((expand threads.shared call choice).2 ++ rest) }

section Frames

variable {lock : Lock} {thread : Thread} {threads next : Threads Thread Lock Call State}
  {rest : List (Instr Lock Call)}

omit [DecidableEq Lock] in
theorem depth_of_owner {count : Nat} (owned : threads.owner lock = some (thread, count)) :
    threads.depth thread lock = count := by
  simp [depth, owned]

omit [DecidableEq Lock] in
theorem depth_of_other {holder : Thread} {count : Nat}
    (owned : threads.owner lock = some (holder, count)) (differs : holder ≠ thread) :
    threads.depth thread lock = 0 := by
  simp [depth, owned, differs]

omit [DecidableEq Lock] in
theorem Holds.unique {first second : Thread} (holds : threads.Holds first lock)
    (too : threads.Holds second lock) : first = second := by
  unfold Holds depth at holds too
  cases owned : threads.owner lock with
  | none => simp [owned] at holds
  | some entry =>
    simp only [owned] at holds too
    by_cases one : entry.1 = first
    · by_cases two : entry.1 = second
      · exact one.symm.trans two
      · simp [two] at too
    · simp [one] at holds

structure Moved (threads next : Threads Thread Lock Call State) (thread : Thread) (lock : Lock)
    (count : Nat) (rest : List (Instr Lock Call)) : Prop where
  program : next.program = update threads.program thread rest
  own : next.depth thread = update (threads.depth thread) lock count
  others : ∀ other, other ≠ thread → next.depth other = threads.depth other

theorem moved_of_owner {count : Nat}
    (program : next.program = update threads.program thread rest)
    (owner : next.owner = update threads.owner lock (if count = 0 then none else some
      (thread, count))) (before : ∀ pair, threads.owner lock = some pair → pair.1 = thread) :
    Moved threads next thread lock count rest := by
  have elsewhere : ∀ other place, place ≠ lock →
      next.depth other place = threads.depth other place := by
    intro other place differs
    simp [depth, owner, update_of_ne differs]
  refine ⟨program, ?_, ?_⟩
  · funext place
    by_cases same : place = lock
    · rw [same, update_self]
      by_cases none : count = 0
      · simp [depth, owner, none]
      · simp [depth, owner, none]
    · rw [update_of_ne same, elsewhere thread place same]
  · intro other differs
    funext place
    by_cases same : place = lock
    · have now : next.depth other lock = 0 := by
        by_cases none : count = 0
        · simp [depth, owner, none]
        · simp [depth, owner, none, differs.symm]
      have earlier : threads.depth other lock = 0 := by
        cases owned : threads.owner lock with
        | none => simp [depth, owned]
        | some pair => exact depth_of_other owned ((before pair owned).trans_ne differs.symm)
      rw [same, now, earlier]
    · exact elsewhere other place same

theorem take_moved (taken : threads.take thread lock rest = some next) :
    Moved threads next thread lock (threads.depth thread lock + 1) rest := by
  unfold take at taken
  cases owned : threads.owner lock with
  | none =>
    have depth : threads.depth thread lock = 0 := by simp [depth, owned]
    simp only [owned, Option.some.injEq] at taken
    subst taken
    exact moved_of_owner rfl (by simp [depth]) (by simp [owned])
  | some pair =>
    simp only [owned, Option.ite_none_right_eq_some, Option.some.injEq] at taken
    obtain ⟨rfl, rfl⟩ := taken
    have depth : threads.depth pair.1 lock = pair.2 := depth_of_owner owned
    exact moved_of_owner rfl (by simp [depth]) (by simp [owned])

theorem drop_moved (dropped : threads.drop thread lock rest = some next) :
    Moved threads next thread lock (threads.depth thread lock - 1) rest := by
  unfold drop at dropped
  cases owned : threads.owner lock with
  | none => simp [owned] at dropped
  | some pair =>
    simp only [owned, Option.ite_none_right_eq_some, Option.some.injEq] at dropped
    obtain ⟨rfl, rfl⟩ := dropped
    have depth : threads.depth pair.1 lock = pair.2 := depth_of_owner owned
    refine moved_of_owner rfl ?_ (by simp [owned])
    rw [depth]
    have last : pair.2 ≤ 1 ↔ pair.2 - 1 = 0 := by omega
    simp only [last]

end Frames

section Order

variable (rank : Lock → Nat) (mayCall : (Lock → Nat) → Call → Prop)
  (after : (Lock → Nat) → Call → Lock → Nat)

def MayAcquire (held : Lock → Nat) (lock : Lock) : Prop :=
  0 < held lock ∨ ∀ other, 0 < held other → rank other < rank lock

def Ordered : (Lock → Nat) → List (Instr Lock Call) → Prop
  | held, [] => ∀ lock, held lock = 0
  | held, .acquire lock :: rest =>
      MayAcquire rank held lock ∧ Ordered (update held lock (held lock + 1)) rest
  | held, .release lock :: rest => Ordered (update held lock (held lock - 1)) rest
  | held, .call call :: rest => mayCall held call ∧ Ordered (after held call) rest

def AllOrdered (threads : Threads Thread Lock Call State) : Prop :=
  ∀ thread, Ordered rank mayCall after (threads.depth thread) (threads.program thread)

variable {rank mayCall after} {threads next : Threads Thread Lock Call State}

variable {thread : Thread}

theorem Moved.allOrdered {lock : Lock} {count : Nat} {rest : List (Instr Lock Call)}
    (moved : Moved threads next thread lock count rest)
    (ordered : threads.AllOrdered rank mayCall after)
    (own : Ordered rank mayCall after (update (threads.depth thread) lock count) rest) :
    next.AllOrdered rank mayCall after := by
  intro other
  rw [moved.program]
  by_cases same : other = thread
  · rw [same, update_self, moved.own]
    exact own
  · rw [update_of_ne same, moved.others other same]
    exact ordered other

theorem allOrdered_of_program {program : List (Instr Lock Call)}
    (ordered : threads.AllOrdered rank mayCall after)
    (programs : next.program = update threads.program thread program)
    (owner : next.owner = threads.owner)
    (own : Ordered rank mayCall after (threads.depth thread) program) :
    next.AllOrdered rank mayCall after := by
  have depths : ∀ other, next.depth other = threads.depth other := by
    intro other
    funext lock
    simp only [depth, owner]
  intro other
  rw [programs, depths]
  by_cases same : other = thread
  · rw [same, update_self]
    exact own
  · rw [update_of_ne same]
    exact ordered other

theorem step_allOrdered
    {allowed : Threads Thread Lock Call State → Move Thread Call Choice → Prop}
    (enters : ∀ threads thread call, allowed threads (.enter thread call) →
      ∀ held, (∀ lock, held lock = 0) → Ordered rank mayCall after held [.call call])
    (expands : ∀ (threads : Threads Thread Lock Call State) thread call choice rest,
      threads.program thread = .call call :: rest → allowed threads (.advance thread choice) →
      mayCall (threads.depth thread) call →
      Ordered rank mayCall after (after (threads.depth thread) call) rest →
      Ordered rank mayCall after (threads.depth thread)
        ((expand threads.shared call choice).2 ++ rest))
    (threads : Threads Thread Lock Call State) (move : Move Thread Call Choice)
    (next : Threads Thread Lock Call State) (ordered : threads.AllOrdered rank mayCall after)
    (permitted : allowed threads move) (stepped : threads.step expand move = some next) :
    next.AllOrdered rank mayCall after := by
  cases move with
  | enter thread call =>
    simp only [step, Option.ite_none_right_eq_some, Option.some.injEq] at stepped
    obtain ⟨free, rfl⟩ := stepped
    have nothing := ordered thread
    rw [List.isEmpty_iff.mp free] at nothing
    exact allOrdered_of_program ordered rfl rfl (enters threads thread call permitted _ nothing)
  | advance thread choice =>
    have current := ordered thread
    simp only [step] at stepped
    split at stepped
    · cases stepped
    · rename_i lock rest program
      rw [program] at current
      exact (take_moved stepped).allOrdered ordered current.2
    · rename_i lock rest program
      rw [program] at current
      exact (drop_moved stepped).allOrdered ordered current
    · rename_i call rest program
      rw [program] at current
      cases stepped
      exact allOrdered_of_program ordered rfl rfl
        (expands threads thread call choice rest program permitted current.1 current.2)

theorem idle_allOrdered (shared : State) :
    (idle shared : Threads Thread Lock Call State).AllOrdered rank mayCall after :=
  fun _ _ => rfl

/-- A thread that waits for a lock holds only locks of lower rank. -/
theorem AllOrdered.rank_lt (ordered : threads.AllOrdered rank mayCall after) {lock other : Lock}
    (waits : threads.Waits thread lock) (holds : threads.Holds thread other) :
    rank other < rank lock := by
  obtain ⟨next, holder, differs, taken⟩ := waits
  have current := ordered thread
  cases program : threads.program thread with
  | nil => simp [program] at next
  | cons instr rest =>
    rw [program, List.head?_cons, Option.some.injEq] at next
    rw [program, next] at current
    rcases current.1 with own | below
    · exact absurd (Holds.unique taken own) differs
    · exact below other holds

theorem AllOrdered.no_cross_wait (ordered : threads.AllOrdered rank mayCall after)
    {first second : Thread} {one two : Lock} (holdsOne : threads.Holds first one)
    (waitsTwo : threads.Waits first two) (holdsTwo : threads.Holds second two)
    (waitsOne : threads.Waits second one) : False :=
  Nat.lt_asymm (ordered.rank_lt waitsTwo holdsOne) (ordered.rank_lt waitsOne holdsTwo)

end Order

end Threads

end ReentrantLocks
