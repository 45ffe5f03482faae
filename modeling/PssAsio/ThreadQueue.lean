import Mathlib.Algebra.BigOperators.Group.Multiset.Basic
import Mathlib.Algebra.Order.Group.Multiset
import Mathlib.Tactic.Abel
import PssAsio.TransitionRuns

/-!
`CMessageQueue` with any number of threads. What a thread does while it owns the mutex is one step;
a thread that is woken, by `notify_one` or by itself, stands in front of the mutex again.
-/

namespace PssAsio

open TransitionRuns

namespace ThreadQueue

inductive Call (Msg : Type) where
  | push (msg : Msg)
  | pop (isBlocked : Bool)
  deriving DecidableEq

inductive QueueAction (Thread Msg : Type) where
  | call (thread : Thread) (call : Call Msg)
  | enter (thread : Thread) (call : Call Msg) (notified : Option Thread)
  | wake (thread : Thread)

/-- `entering` are the calls in front of the mutex, `waiting` the threads inside `wait`; `history`
has the effects of the calls with what they returned. -/
structure CMessageQueue (Thread Msg : Type) where
  queue : List Msg
  entering : Multiset (Thread × Call Msg)
  waiting : Multiset Thread
  history : List (Thread × Call Msg × Option Msg)
  calls : Multiset (Thread × Call Msg)

variable {Thread Msg : Type}

def idle : CMessageQueue Thread Msg := ⟨[], 0, 0, [], 0⟩

/-- The queue without threads: a blocked `Pop` is not served while it is empty. -/
def sequential [DecidableEq Msg] (queue : List Msg) :
    Call Msg × Option Msg → Option (List Msg)
  | (.push msg, _) => some (queue ++ [msg])
  | (.pop isBlocked, none) => if queue = [] ∧ isBlocked = false then some [] else none
  | (.pop _, some msg) => if queue.head? = some msg then some queue.tail else none

/-- How many messages a call in front of the mutex takes away. -/
def Call.demand : Call Msg → Nat
  | .push _ => 0
  | .pop isBlocked => isBlocked.toNat

def Call.weight : Call Msg → Nat
  | .push _ => 2
  | .pop _ => 1

namespace CMessageQueue

section Steps

variable [DecidableEq Thread] [DecidableEq Msg] (world : CMessageQueue Thread Msg)

def record (thread : Thread) (call : Call Msg) (msg : Option Msg) (queue : List Msg) :
    CMessageQueue Thread Msg :=
  { world with queue, history := world.history ++ [(thread, call, msg)] }

def rouse (other : Thread) : CMessageQueue Thread Msg :=
  { world with
    waiting := world.waiting.erase other
    entering := (other, .pop true) ::ₘ world.entering }

def execute (thread : Thread) (notified : Option Thread) :
    Call Msg → Option (CMessageQueue Thread Msg)
  | .push msg =>
      let pushed := world.record thread (.push msg) none (world.queue ++ [msg])
      match notified with
      | none => if world.waiting = 0 then some pushed else none
      | some other => if other ∈ world.waiting then some (pushed.rouse other) else none
  | .pop isBlocked =>
      match world.queue, isBlocked with
      | [], true => some { world with waiting := thread ::ₘ world.waiting }
      | [], false => some (world.record thread (.pop false) none [])
      | msg :: rest, _ => some (world.record thread (.pop isBlocked) (some msg) rest)

def step : QueueAction Thread Msg → Option (CMessageQueue Thread Msg)
  | .call thread call =>
      if thread ∈ world.waiting ∨ thread ∈ world.entering.map Prod.fst then none
      else
        some { world with
          entering := (thread, call) ::ₘ world.entering
          calls := (thread, call) ::ₘ world.calls }
  | .enter thread call notified =>
      if (thread, call) ∈ world.entering then
        { world with entering := world.entering.erase (thread, call) }.execute thread notified call
      else none
  | .wake thread => if thread ∈ world.waiting then some (world.rouse thread) else none

end Steps

variable (world : CMessageQueue Thread Msg)

def total (measure : Call Msg → Nat) : Nat := (world.entering.map (measure ·.2)).sum

def served : Multiset (Thread × Call Msg) := world.history.map fun entry => (entry.1, entry.2.1)

/-- The calls that have had no effect yet. -/
def pending : Multiset (Thread × Call Msg) :=
  world.entering + world.waiting.map fun thread => (thread, .pop true)

/-- Nobody is left but blocked `Pop`s, and these only if there is no message. -/
def Rested : Prop :=
  world.calls = world.served + world.waiting.map (fun thread => (thread, .pop true)) ∧
    (world.waiting = 0 ∨ world.queue = [])

section Invariants

variable [DecidableEq Msg] (world : CMessageQueue Thread Msg)

/-- Every call has one effect, in an order in which the queue alone would have had them too. -/
structure Linear : Prop where
  replayed : run sequential [] (world.history.map Prod.snd) = some world.queue
  answered : world.calls = world.served + world.pending

/-- While a thread waits, there are no more messages than threads on their way to them. -/
structure Sound : Prop where
  linear : world.Linear
  covered : world.waiting ≠ 0 → world.queue.length ≤ world.total Call.demand

end Invariants

variable {world}

section Counts

variable [DecidableEq Thread]

theorem total_rouse (measure : Call Msg → Nat) (other : Thread) :
    (world.rouse other).total measure = measure (.pop true) + world.total measure := by
  simp [rouse, total]

theorem execute_isSome (world : CMessageQueue Thread Msg) (thread : Thread) (call : Call Msg) :
    ∃ notified, (world.execute thread notified call).isSome := by
  cases call with
  | push msg =>
    by_cases nobody : world.waiting = 0
    · exact ⟨none, by simp [execute, nobody]⟩
    · obtain ⟨other, waits⟩ := Multiset.exists_mem_of_ne_zero nobody
      exact ⟨some other, by simp [execute, waits]⟩
  | pop isBlocked =>
    refine ⟨none, ?_⟩
    simp only [execute]
    split <;> rfl

end Counts

variable [DecidableEq Msg]

theorem Linear.record (linear : world.Linear) {thread : Thread} {call : Call Msg} {msg : Option Msg}
    {others : Multiset (Thread × Call Msg)} (entered : world.entering = (thread, call) ::ₘ others)
    {queue : List Msg} (served : sequential world.queue (call, msg) = some queue) :
    ({ world with entering := others }.record thread call msg queue).Linear where
  replayed := by
    simp only [CMessageQueue.record, List.map_append, run_append, linear.replayed, Option.bind_some]
    simp [run, served]
  answered := by
    simp only [CMessageQueue.record, linear.answered, CMessageQueue.served, pending, entered,
      List.map_append, ← Multiset.coe_add, List.map_cons, List.map_nil, Multiset.coe_singleton,
      ← Multiset.singleton_add]
    abel

variable [DecidableEq Thread]

theorem Linear.rouse (linear : world.Linear) {other : Thread} (waits : other ∈ world.waiting) :
    (world.rouse other).Linear := by
  obtain ⟨others, same⟩ := Multiset.exists_cons_of_mem waits
  refine ⟨linear.replayed, linear.answered.trans (congrArg (world.served + ·) ?_)⟩
  simp [CMessageQueue.rouse, pending, same]

theorem execute_kept {next : CMessageQueue Thread Msg} {thread : Thread} {notified : Option Thread}
    {call : Call Msg} {others : Multiset (Thread × Call Msg)} (sound : world.Sound)
    (entered : world.entering = (thread, call) ::ₘ others)
    (executed : { world with entering := others }.execute thread notified call = some next) :
    next.Sound ∧ next.total Call.weight < world.total Call.weight := by
  obtain ⟨linear, covered⟩ := sound
  have split (measure : Call Msg → Nat) :
      world.total measure = measure call + (others.map (measure ·.2)).sum := by
    simp [total, entered]
  rw [split] at covered ⊢
  cases call with
  | push msg =>
    have pushed := linear.record entered
      (show sequential world.queue (.push msg, none) = some (world.queue ++ [msg]) from rfl)
    simp only [execute] at executed
    split at executed
    · obtain ⟨nobody, ⟨⟩⟩ := Option.ite_none_right_eq_some.mp executed
      exact ⟨⟨pushed, fun sleeping => absurd nobody sleeping⟩, Nat.lt_add_of_pos_left Nat.two_pos⟩
    · obtain ⟨waits, ⟨⟩⟩ := Option.ite_none_right_eq_some.mp executed
      refine ⟨⟨pushed.rouse waits, fun _ => ?_⟩, ?_⟩
      · have bound := covered fun none => by simp [none] at waits
        rw [total_rouse]
        simp [rouse, record, total, Call.demand] at bound ⊢
        omega
      · rw [total_rouse]
        exact Nat.add_lt_add_right (Nat.lt_succ_self 1) _
  | pop isBlocked =>
    simp only [execute] at executed
    split at executed
    · rename_i empty
      -- the call has no effect and waits
      cases executed
      refine ⟨⟨⟨linear.replayed, ?_⟩, fun _ => by simp [empty]⟩,
        Nat.lt_add_of_pos_left Nat.one_pos⟩
      simpa [pending, served, entered] using linear.answered
    · rename_i empty
      cases executed
      exact ⟨⟨linear.record entered (by simp [sequential, empty]), fun _ => by simp [record]⟩,
        Nat.lt_add_of_pos_left Nat.one_pos⟩
    · rename_i msg rest filled
      cases executed
      refine ⟨⟨linear.record entered (by simp [sequential, filled]), fun sleeping => ?_⟩,
        Nat.lt_add_of_pos_left Nat.one_pos⟩
      have bound := (covered sleeping).trans (Nat.add_le_add_right (Bool.toNat_le _) _)
      simp only [filled, List.length_cons] at bound
      simp only [record, total]
      omega

/-- The steps that the threads inside their calls take by themselves. -/
def Inner : QueueAction Thread Msg → Prop
  | .enter _ _ _ => True
  | .call _ _ | .wake _ => False

theorem step_kept {next : CMessageQueue Thread Msg} {action : QueueAction Thread Msg}
    (sound : world.Sound) (stepped : world.step action = some next) :
    next.Sound ∧ (Inner action → next.total Call.weight < world.total Call.weight) := by
  cases action with
  | call thread call =>
    obtain ⟨-, ⟨⟩⟩ := Option.ite_none_left_eq_some.mp stepped
    refine ⟨⟨⟨sound.linear.replayed, ?_⟩, fun sleeping => (sound.covered sleeping).trans ?_⟩,
      False.elim⟩
    · simp only [sound.linear.answered, served, pending, ← Multiset.singleton_add]
      abel
    · simp [total]
  | enter thread call notified =>
    obtain ⟨enters, executed⟩ := Option.ite_none_right_eq_some.mp stepped
    obtain ⟨others, same⟩ := Multiset.exists_cons_of_mem enters
    simp only [same, Multiset.erase_cons_head] at executed
    obtain ⟨kept, lighter⟩ := execute_kept sound same executed
    exact ⟨kept, fun _ => lighter⟩
  | wake other =>
    obtain ⟨waits, ⟨⟩⟩ := Option.ite_none_right_eq_some.mp stepped
    refine ⟨⟨sound.linear.rouse waits, fun _ => ?_⟩, False.elim⟩
    have bound := sound.covered fun none => by simp [none] at waits
    exact (Nat.le_add_left_of_le bound).trans_eq (total_rouse _ other).symm

theorem rested_of_stuck (sound : world.Sound)
    (stuck : ∀ action, Inner action → world.step action = none) : world.Rested := by
  have entered : world.entering = 0 := by
    by_contra some
    obtain ⟨⟨thread, call⟩, enters⟩ := Multiset.exists_mem_of_ne_zero some
    obtain ⟨notified, served⟩ := execute_isSome
      { world with entering := world.entering.erase (thread, call) } thread call
    have none := stuck (.enter thread call notified) trivial
    rw [step, if_pos enters] at none
    rw [none] at served
    cases served
  constructor
  · simpa [pending, entered] using sound.linear.answered
  · by_cases sleeping : world.waiting = 0
    · exact .inl sleeping
    · have bound := sound.covered sleeping
      simp only [total, entered] at bound
      exact .inr (List.eq_nil_of_length_eq_zero (Nat.le_zero.mp bound))

theorem always_of_sound {holds : CMessageQueue Thread Msg → Prop}
    (implied : ∀ world, world.Sound → holds world) (actions : List (QueueAction Thread Msg)) :
    Always CMessageQueue.step holds idle actions :=
  always_of_invariant
    (fun world _ _ (sound : world.Sound) _ stepped => (step_kept sound stepped).1) implied
    ⟨⟨rfl, rfl⟩, fun sleeping => absurd rfl sleeping⟩
    (throughout_of_forall _ (fun _ _ => trivial) _ _)

/-- The queue is linearizable in every run of any number of threads. -/
theorem calls_linear (actions : List (QueueAction Thread Msg)) :
    Always CMessageQueue.step Linear idle actions :=
  always_of_sound (fun _ sound => sound.linear) actions

/-- No wake-up is lost: without new calls the threads come to rest whatever the order they run in,
and then a blocked `Pop` waits only for a message that has not been pushed. -/
theorem calls_come_to_rest (actions : List (QueueAction Thread Msg)) :
    Always CMessageQueue.step (fun world => ∀ later finish, (∀ action ∈ later, Inner action) →
      run CMessageQueue.step world later = some finish →
        later.length ≤ world.total Call.weight ∧
          ((∀ action, Inner action → finish.step action = none) → finish.Rested)) idle actions := by
  refine always_of_sound (fun world sound later finish inner ran => ?_) actions
  constructor
  · exact run_length_le (·.total Call.weight) (fun _ _ _ => step_kept) sound
      (throughout_of_mem inner world) ran
  · exact rested_of_stuck
      (run_preserves Sound (fun _ _ _ held stepped => (step_kept held stepped).1) sound ran)

/-- A blocked `Pop` that waits is woken by a `Push` and served. -/
example : ((run CMessageQueue.step (idle : CMessageQueue Nat Nat)
    [.call 1 (.pop true), .enter 1 (.pop true) none, .call 2 (.push 7), .enter 2 (.push 7) (some 1),
      .enter 1 (.pop true) none]).map fun world => (world.history, world.queue)) =
      some ([(2, .push 7, none), (1, .pop true, some 7)], []) := by
  decide

end CMessageQueue

end ThreadQueue

end PssAsio
