import PssAsio.TimerOccurrences

/-!
`TimerMgr` beside what its timers ask for. A notification before `sleep` is lost.
-/

namespace PssAsio

open TransitionRuns Function

def timerDefaultWait : Int := 300 * 1000000000

namespace TimerMgr

def expiry (mgr : TimerMgr) (timer : Nat) : Int :=
  match mgr.table[timer]? with
  | some value => value.startTime + value.lastTime
  | none => 0

def delayOf (mgr : TimerMgr) (timer : Nat) : Int :=
  match mgr.table[timer]? with
  | some value => value.delayTime
  | none => 0

end TimerMgr

def TimerPhase.read : TimerPhase → Option Nat
  | .topRead tmp => some tmp
  | _ => none

def TimerPhase.chosen : TimerPhase → Option Nat
  | .due tmp => some tmp
  | _ => none

structure TimerWatch where
  mgr : TimerMgr
  dueTime : Nat → Int
  readTime : Int
  timerWait : Int
  deadline : Int
  sleeping : Bool
  notified : Bool

inductive TimerWatchAction where
  | drive (action : TimerAction)
  | sleep
  deriving DecidableEq, Repr

namespace TimerWatch

def scheduled (now : Int) : TimerWatch where
  mgr := { TimerMgr.scheduled with now := now }
  dueTime := fun _ => 0
  readTime := now
  timerWait := 0
  deadline := now
  sleeping := false
  notified := false

variable (watch : TimerWatch)

/-- Until the wait has begun the thread holds `mtx`, which `Close` takes. -/
def enabled : TimerAction → Bool
  | .wake | .wakeEmpty => watch.sleeping
  | .close =>
      match watch.mgr.phase with
      | .waiting _ | .waitingEmpty => watch.sleeping
      | _ => true
  | _ => true

def dueTimeAfter : TimerAction → Nat → Int
  | .addTimer timeout =>
      update watch.dueTime watch.mgr.table.length (watch.mgr.now + timeout)
  | .addTimerLoop delayseconds timeout =>
      update watch.dueTime watch.mgr.table.length
        (watch.mgr.now + delayseconds + timeout)
  | .finish =>
      match watch.mgr.phase with
      | .executing tmp _ =>
          match watch.mgr.table[tmp]? with
          | some timer =>
              match timer.timerType with
              | .timerTypeOnce => watch.dueTime
              | .timerTypeLoop =>
                  update watch.dueTime tmp (watch.mgr.now + timer.lastTime)
          | none => watch.dueTime
      | _ => watch.dueTime
  | _ => watch.dueTime

def readTimeAfter : TimerAction → Int
  | .testLeftTime => watch.mgr.now
  | _ => watch.readTime

def timerWaitAfter : TimerAction → Int
  | .testLeftTime =>
      match watch.mgr.phase with
      | .topRead tmp =>
          match watch.mgr.table[tmp]? with
          | some timer => (timer.getLeftTime watch.mgr.now).1
          | none => watch.timerWait
      | _ => watch.timerWait
  | _ => watch.timerWait

def sleepingAfter : TimerAction → Bool
  | .wake | .wakeEmpty => false
  | _ => watch.sleeping

def notifiedAfter : TimerAction → Bool
  | .wakeUp | .close => true
  | .timerRun | .readTop => false
  | _ => watch.notified

def drive (action : TimerAction) (mgr : TimerMgr) : TimerWatch where
  mgr := mgr
  dueTime := watch.dueTimeAfter action
  readTime := watch.readTimeAfter action
  timerWait := watch.timerWaitAfter action
  deadline := watch.deadline
  sleeping := watch.sleepingAfter action
  notified := watch.notifiedAfter action

def step (watch : TimerWatch) : TimerWatchAction → Option TimerWatch
  | .drive action =>
      if watch.enabled action then (watch.mgr.step action).map (watch.drive action) else none
  | .sleep =>
      if watch.sleeping then none
      else
        match watch.mgr.phase with
        | .waitingEmpty =>
            some { watch with
              deadline := watch.mgr.now + timerDefaultWait
              sleeping := true
              notified := false }
        | .waiting _ =>
            -- `wait_for` reads the clock once more.
            some { watch with
              deadline := watch.mgr.now + watch.timerWait
              sleeping := true
              notified := false }
        | _ => none

def NotEarly : TimerWatchAction → Prop
  | .drive (.pop _) => ∀ tmp ∈ watch.mgr.phase.chosen, watch.mgr.timerRun = true →
      ∀ timer ∈ watch.mgr.table[tmp]?, timer.startExecute.2 = true →
        watch.dueTime tmp ≤ watch.mgr.now
  | _ => True

/-- The wait ends at most `lag` after a queued timer is due, unless a notification ends it. -/
def InTime (lag : Int) (watch : TimerWatch) : Prop :=
  watch.sleeping = true → ∀ timer ∈ watch.mgr.mTimers,
    watch.deadline ≤ watch.dueTime timer + lag ∨ watch.notified = true ∨ 0 < watch.mgr.notifying
  deriving Decidable

instance (action : TimerWatchAction) : Decidable (watch.NotEarly action) := by
  unfold NotEarly
  split <;> infer_instance

def ReadOnce (tmp : Nat) : Prop :=
  watch.dueTime tmp = watch.mgr.expiry tmp + watch.mgr.delayOf tmp ∧
    (watch.mgr.delayOf tmp = 0 ∨
      ∀ other ∈ watch.mgr.mTimers, watch.dueTime tmp ≤ watch.dueTime other)
  deriving Decidable

/-- Delays are read once, no push falls between the look at the queue and the wait, which begins at
most `lag` after the reading, and the timer that was read is the one that is popped. -/
def Punctual (lag : Int) (watch : TimerWatch) : TimerWatchAction → Prop
  | .drive (.addTimerLoop delayseconds _) => 0 ≤ delayseconds
  | .drive .testLeftTime => ∀ tmp ∈ watch.mgr.phase.read, watch.ReadOnce tmp
  | .drive .wake =>
      watch.mgr.timerWakeupState = .timerStateExecuteTimer → watch.deadline ≤ watch.mgr.now
  | .drive (.pop _) => ∀ tmp ∈ watch.mgr.phase.chosen,
      watch.mgr.timerRun = true → watch.mgr.mTimers.head? = some tmp
  | .sleep => watch.notified = false ∧
      (watch.mgr.phase = .waitingEmpty ∨ watch.mgr.now ≤ watch.readTime + lag)
  | _ => True

instance (lag : Int) (action : TimerWatchAction) : Decidable (Punctual lag watch action) := by
  unfold Punctual
  split <;> infer_instance

end TimerWatch

/-! The queue: its top expires first. -/

namespace TimerMgr

variable {mgr : TimerMgr}

theorem expiry_eq {timer : Nat} {value : Timer} (found : mgr.table[timer]? = some value) :
    mgr.expiry timer = value.startTime + value.lastTime := by
  simp [expiry, found]

theorem delayOf_eq {timer : Nat} {value : Timer} (found : mgr.table[timer]? = some value) :
    mgr.delayOf timer = value.delayTime := by
  simp [delayOf, found]

theorem later_iff {left right : Nat} (known : left < mgr.table.length)
    (listed : right < mgr.table.length) :
    mgr.later left right = true ↔ mgr.expiry right < mgr.expiry left := by
  have first := List.getElem?_eq_getElem known
  have second := List.getElem?_eq_getElem listed
  rw [expiry_eq first, expiry_eq second]
  simp only [later, first, second, Timer.compareTimer, gt_iff_lt, decide_eq_true_eq]
  omega

def TopFirst (mgr : TimerMgr) (timers : List Nat) : Prop :=
  ∀ top ∈ timers.head?, ∀ other ∈ timers, mgr.expiry top ≤ mgr.expiry other

theorem pushed_topFirst (ordered : mgr.TopFirst mgr.mTimers)
    (listed : ∀ timer ∈ mgr.mTimers, timer < mgr.table.length) {timer : Nat}
    (known : timer < mgr.table.length) : mgr.TopFirst (mgr.pushed timer) := by
  unfold pushed
  split
  · simp [TopFirst]
  · rename_i top rest queue
    have inside : top < mgr.table.length := listed top (by simp [queue])
    have lowest : ∀ other ∈ top :: rest, mgr.expiry top ≤ mgr.expiry other := by
      intro other member
      exact ordered top (by simp [queue]) other (by rw [queue]; exact member)
    have compared := later_iff inside known
    split
    · rename_i earlier
      intro first chosen other member
      obtain rfl : timer = first := by simpa using chosen
      have before := compared.mp earlier
      obtain rfl | old := List.mem_cons.mp member
      · exact Int.le_refl _
      · have bound := lowest other old
        omega
    · rename_i behind
      intro first chosen other member
      obtain rfl : top = first := by simpa using chosen
      rw [compared] at behind
      rw [← List.cons_append, List.mem_append, List.mem_singleton] at member
      obtain old | rfl := member
      · exact lowest other old
      · omega

theorem popped_topFirst {rest remaining : List Nat} {promoted : Nat}
    (listed : ∀ timer ∈ rest, timer < mgr.table.length)
    (left : mgr.popped rest promoted = some remaining) : mgr.TopFirst remaining := by
  have same := popped_perm left
  unfold popped at left
  split at left
  · rename_i top found
    simp only [Option.ite_none_right_eq_some, Option.some.injEq, List.all_eq_true,
      Bool.not_eq_true'] at left
    obtain ⟨lowest, rfl⟩ := left
    intro first chosen other member
    obtain rfl : top = first := by simpa using chosen
    have inside := same.mem_iff.mp member
    have behind := lowest other inside
    rw [← Bool.not_eq_true, later_iff (listed top (List.mem_of_getElem? found))
      (listed other inside)] at behind
    omega
  · simp only [Option.ite_none_right_eq_some, Option.some.injEq] at left
    rw [← left.2]
    simp [TopFirst]

theorem TopFirst.congr {next : TimerMgr} {timers : List Nat} (ordered : mgr.TopFirst timers)
    (expiry : ∀ timer ∈ timers, next.expiry timer = mgr.expiry timer) : next.TopFirst timers := by
  intro top chosen other member
  rw [expiry top (List.mem_of_head? chosen), expiry other member]
  exact ordered top chosen other member

theorem expiry_setTimer {change : Timer → Timer} (timer : Nat)
    (keeps : ∀ value, (change value).startTime = value.startTime ∧
      (change value).lastTime = value.lastTime) (other : Nat) :
    (mgr.setTimer timer change).expiry other = mgr.expiry other := by
  simp only [expiry, setTimer, List.getElem?_modify]
  cases mgr.table[other]? with
  | none => rfl
  | some value => by_cases same : timer = other <;> simp [same, keeps]

theorem delayOf_setTimer {change : Timer → Timer} (timer : Nat)
    (keeps : ∀ value, (change value).delayTime = value.delayTime) (other : Nat) :
    (mgr.setTimer timer change).delayOf other = mgr.delayOf other := by
  simp only [delayOf, setTimer, List.getElem?_modify]
  cases mgr.table[other]? with
  | none => rfl
  | some value => by_cases same : timer = other <;> simp [same, keeps]

theorem times_setTimer_of_ne {change : Timer → Timer} {timer other : Nat} (apart : other ≠ timer) :
    (mgr.setTimer timer change).expiry other = mgr.expiry other ∧
      (mgr.setTimer timer change).delayOf other = mgr.delayOf other := by
  simp only [expiry, delayOf, setTimer, List.getElem?_modify, if_neg (Ne.symm apart)]
  cases mgr.table[other]? <;> exact ⟨rfl, rfl⟩

def ended (mgr : TimerMgr) (tmp : Nat) : TimerMgr :=
  mgr.setTimer tmp fun timer => timer.endExecute mgr.now

theorem times_congr {next : TimerMgr} (table : next.table = mgr.table) (timer : Nat) :
    next.expiry timer = mgr.expiry timer ∧ next.delayOf timer = mgr.delayOf timer := by
  rw [expiry, delayOf, table]
  exact ⟨rfl, rfl⟩

theorem finish_table (mgr : TimerMgr) (tmp : Nat) (runs : Bool) :
    (mgr.finish tmp runs).table = (mgr.ended tmp).table ∧
      ((mgr.finish tmp runs).mTimers = mgr.mTimers ∨
        (mgr.finish tmp runs).mTimers = (mgr.ended tmp).pushed tmp) := by
  unfold finish
  simp only
  split
  · split
    · exact ⟨rfl, .inr rfl⟩
    · exact ⟨rfl, .inl rfl⟩
  · exact ⟨rfl, .inl rfl⟩

def Quiet : TimerAction → Prop
  | .addTimer _ | .addTimerLoop _ _ | .push _ | .pop _ | .finish => False
  | _ => True

structure SameQueue (mgr next : TimerMgr) : Prop where
  timers : next.mTimers = mgr.mTimers
  length : next.table.length = mgr.table.length
  expiry : ∀ timer, next.expiry timer = mgr.expiry timer
  delay : ∀ timer, next.delayOf timer = mgr.delayOf timer ∨ next.delayOf timer = 0

theorem sameQueue_of_table {next : TimerMgr} (timers : next.mTimers = mgr.mTimers)
    (table : next.table = mgr.table) : SameQueue mgr next :=
  ⟨timers, by rw [table], fun timer => (times_congr table timer).1,
    fun timer => .inl (times_congr table timer).2⟩

theorem cancel_times (value : Timer) :
    (value.cancel.startTime = value.startTime ∧ value.cancel.lastTime = value.lastTime) ∧
      value.cancel.delayTime = value.delayTime := by
  unfold Timer.cancel
  split <;> exact ⟨⟨rfl, rfl⟩, rfl⟩

theorem startExecute_times (value : Timer) :
    (value.startExecute.1.startTime = value.startTime ∧
      value.startExecute.1.lastTime = value.lastTime) ∧
      value.startExecute.1.delayTime = value.delayTime := by
  unfold Timer.startExecute
  split
  · split <;> exact ⟨⟨rfl, rfl⟩, rfl⟩
  · exact ⟨⟨rfl, rfl⟩, rfl⟩

theorem delayOf_read (mgr : TimerMgr) (tmp other : Nat) :
    (mgr.setTimer tmp fun timer => (timer.getLeftTime mgr.now).2).delayOf other =
      if other = tmp then 0 else mgr.delayOf other := by
  by_cases same : other = tmp
  · subst same
    simp only [delayOf, setTimer, List.getElem?_modify, if_true]
    cases mgr.table[other]? <;> rfl
  · rw [if_neg same]
    exact (times_setTimer_of_ne same).2

theorem sameQueue_of_quiet {next : TimerMgr} {action : TimerAction} (quiet : Quiet action)
    (stepped : mgr.step action = some next) : SameQueue mgr next := by
  cases action with
  | addTimer | addTimerLoop | push | pop | finish => exact quiet.elim
  | tick nanoseconds =>
    cases stepped
    exact sameQueue_of_table rfl rfl
  | wakeUp =>
    simp only [step, Option.ite_none_right_eq_some, Option.some.injEq] at stepped
    rw [← stepped.2]
    exact sameQueue_of_table rfl rfl
  | cancel timer =>
    simp only [step, Option.ite_none_right_eq_some, Option.some.injEq] at stepped
    rw [← stepped.2]
    exact ⟨rfl, by simp [setTimer], expiry_setTimer timer fun value => (cancel_times value).1,
      fun other => .inl (delayOf_setTimer timer (fun value => (cancel_times value).2) other)⟩
  | testLeftTime =>
    simp only [step] at stepped
    split at stepped
    · rename_i tmp read
      obtain ⟨timer, -, rfl⟩ := Option.map_eq_some_iff.mp stepped
      refine ⟨rfl, by simp [setTimer], expiry_setTimer tmp fun _ => ⟨rfl, rfl⟩, fun other => ?_⟩
      have reading := mgr.delayOf_read tmp other
      by_cases same : other = tmp
      · exact .inr (reading.trans (if_pos same))
      · exact .inl (reading.trans (if_neg same))
    · cases stepped
  | readTop =>
    simp only [step] at stepped
    split at stepped
    · split at stepped
      · split at stepped <;> rw [← Option.some.inj stepped] <;> exact sameQueue_of_table rfl rfl
      · cases stepped
        exact sameQueue_of_table rfl rfl
    · cases stepped
  | close | timerRun | wakeEmpty | wake | setExecuteTimer =>
    simp only [step] at stepped
    split at stepped
    all_goals
      first
      | cases stepped; done
      | rw [← Option.some.inj stepped]
        exact sameQueue_of_table rfl rfl

end TimerMgr

end PssAsio
