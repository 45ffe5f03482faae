import Mathlib.Data.List.Basic

/-!
`TimerMgr` with its timer thread and the threads that add timers, cut where another thread can come
in between.
-/

namespace PssAsio

inductive TimerType where
  | timerTypeOnce
  | timerTypeLoop
  deriving DecidableEq, Repr

inductive TimerState where
  | timerStateAddTimer
  | timerStateExecuteTimer
  deriving DecidableEq, Repr

structure Timer where
  startTime : Int
  lastTime : Int
  delayTime : Int
  timerType : TimerType
  callback : Bool
  executeOnceFlag : Bool
  deriving DecidableEq, Repr

inductive TimerPhase where
  | entry
  | waitingEmpty
  | ready
  | topRead (tmp : Nat)
  | waiting (tmp : Nat)
  | due (tmp : Nat)
  | executing (tmp : Nat) (runs : Bool)
  | executed
  | stopped
  deriving DecidableEq, Repr

def TimerPhase.remembered : TimerPhase → Option Nat
  | .topRead tmp => some tmp
  | .waiting tmp => some tmp
  | .due tmp => some tmp
  | _ => none

def TimerPhase.running : TimerPhase → Option Nat
  | .executing tmp _ => some tmp
  | _ => none

structure TimerMgr where
  table : List Timer
  mTimers : List Nat
  timerWakeupState : TimerState
  timerRun : Bool
  phase : TimerPhase
  now : Int
  creating : List Nat
  notifying : Nat
  cancelled : List Nat
  executed : List Nat
  deriving DecidableEq, Repr

inductive TimerAction where
  | tick (nanoseconds : Nat)
  | addTimer (timeout : Int)
  | addTimerLoop (delayseconds timeout : Int)
  | push (timer : Nat)
  | wakeUp
  | cancel (timer : Nat)
  | close
  | timerRun
  | wakeEmpty
  | readTop
  | testLeftTime
  | wake
  | pop (promoted : Nat)
  | finish
  | setExecuteTimer
  deriving DecidableEq, Repr

namespace Timer

variable (timer : Timer)

def arming : TimerType × Bool × Bool :=
  (timer.timerType, timer.callback, timer.executeOnceFlag)

def compareTimer (left right : Timer) : Bool :=
  (left.startTime - right.startTime) + (left.lastTime - right.lastTime) > 0

def getLeftTime (now : Int) : Int × Timer :=
  (timer.lastTime - (now - timer.startTime) + timer.delayTime, { timer with delayTime := 0 })

def cancel : Timer :=
  if timer.executeOnceFlag then timer
  else { timer with callback := false, executeOnceFlag := true }

def startExecute : Timer × Bool :=
  match timer.timerType with
  | .timerTypeOnce =>
      if timer.executeOnceFlag then (timer, false)
      else ({ timer with callback := false, executeOnceFlag := true }, timer.callback)
  | .timerTypeLoop => (timer, timer.callback)

def endExecute (now : Int) : Timer :=
  match timer.timerType with
  | .timerTypeOnce => timer
  | .timerTypeLoop => { timer with startTime := now }

end Timer

namespace TimerMgr

def scheduled : TimerMgr where
  table := []
  mTimers := []
  timerWakeupState := .timerStateExecuteTimer
  timerRun := true
  phase := .entry
  now := 0
  creating := []
  notifying := 0
  cancelled := []
  executed := []

variable (mgr : TimerMgr)

def later (left right : Nat) : Bool :=
  match mgr.table[left]?, mgr.table[right]? with
  | some leftTimer, some rightTimer => leftTimer.compareTimer rightTimer
  | _, _ => false

def pushed (timer : Nat) : List Nat :=
  match mgr.mTimers with
  | [] => [timer]
  | top :: rest =>
      if mgr.later top timer then timer :: top :: rest else top :: (rest ++ [timer])

def popped (rest : List Nat) (promoted : Nat) : Option (List Nat) :=
  match rest[promoted]? with
  | some top =>
      if rest.all fun other => !mgr.later top other then some (top :: rest.eraseIdx promoted)
      else none
  | none => if rest.isEmpty then some [] else none

def setTimer (timer : Nat) (change : Timer → Timer) : TimerMgr :=
  { mgr with table := mgr.table.modify timer change }

def create (timerType : TimerType) (delayseconds timeout : Int) : TimerMgr :=
  { mgr with
    table := mgr.table ++ [⟨mgr.now, timeout, delayseconds, timerType, true, false⟩]
    creating := mgr.creating ++ [mgr.table.length] }

def finish (tmp : Nat) (runs : Bool) : TimerMgr :=
  let ended := mgr.setTimer tmp fun timer => timer.endExecute mgr.now
  let logged := { ended with
    executed := if runs then mgr.executed ++ [tmp] else mgr.executed
    phase := .executed }
  match logged.table[tmp]? with
  | some timer =>
      if timer.timerType = .timerTypeLoop ∧ timer.callback then
        { logged with mTimers := logged.pushed tmp }
      else logged
  | none => logged

def step : TimerAction → Option TimerMgr
  | .tick nanoseconds => some { mgr with now := mgr.now + nanoseconds }
  | .addTimer timeout => some (mgr.create .timerTypeOnce 0 timeout)
  | .addTimerLoop delayseconds timeout => some (mgr.create .timerTypeLoop delayseconds timeout)
  | .push timer =>
      if timer ∈ mgr.creating then
        some { mgr with
          mTimers := mgr.pushed timer
          creating := mgr.creating.erase timer
          notifying := mgr.notifying + 1 }
      else none
  | .wakeUp =>
      if 0 < mgr.notifying then
        some { mgr with
          timerWakeupState := .timerStateAddTimer
          notifying := mgr.notifying - 1 }
      else none
  | .cancel timer =>
      if timer < mgr.table.length then
        some { mgr.setTimer timer Timer.cancel with cancelled := mgr.cancelled ++ [timer] }
      else none
  | .close =>
      -- `Close` takes `mtx`, which the timer thread only gives up while it waits.
      match mgr.phase with
      | .entry | .waitingEmpty | .waiting _ | .stopped =>
          some { mgr with timerRun := false, timerWakeupState := .timerStateAddTimer }
      | _ => none
  | .timerRun =>
      match mgr.phase with
      | .entry => some { mgr with phase := if mgr.mTimers.isEmpty then .waitingEmpty else .ready }
      | _ => none
  | .wakeEmpty =>
      match mgr.phase with
      | .waitingEmpty => some { mgr with phase := .ready }
      | _ => none
  | .readTop =>
      match mgr.phase with
      | .ready =>
          if mgr.timerRun then
            match mgr.mTimers with
            | [] => some { mgr with phase := .entry }
            | tmp :: _ => some { mgr with phase := .topRead tmp }
          else some { mgr with phase := .stopped }
      | _ => none
  | .testLeftTime =>
      match mgr.phase with
      | .topRead tmp =>
          (mgr.table[tmp]?).map fun timer =>
            let left := mgr.setTimer tmp fun timer => (timer.getLeftTime mgr.now).2
            { left with
              phase :=
                if (0 : Int) < (timer.getLeftTime mgr.now).1 then .waiting tmp else .due tmp }
      | _ => none
  | .wake =>
      match mgr.phase with
      | .waiting tmp =>
          some { mgr with
            phase := if mgr.timerWakeupState = .timerStateAddTimer then .entry else .due tmp }
      | _ => none
  | .pop promoted =>
      match mgr.phase with
      | .due tmp =>
          if mgr.timerRun then
            match mgr.mTimers, mgr.table[tmp]? with
            | _ :: rest, some timer =>
                (mgr.popped rest promoted).map fun remaining =>
                  let begun := mgr.setTimer tmp fun timer => timer.startExecute.1
                  { begun with
                    mTimers := remaining
                    phase := .executing tmp timer.startExecute.2 }
            | _, _ => none
          else some { mgr with phase := .stopped }
      | _ => none
  | .finish =>
      match mgr.phase with
      | .executing tmp runs => some (mgr.finish tmp runs)
      | _ => none
  | .setExecuteTimer =>
      match mgr.phase with
      | .executed =>
          some { mgr with timerWakeupState := .timerStateExecuteTimer, phase := .entry }
      | _ => none

inductive Stepped (mgr : TimerMgr) : TimerAction → TimerMgr → Prop where
  | quiet (action : TimerAction) (next : TimerMgr) (noPop : ∀ promoted, action ≠ .pop promoted)
      (timers : next.mTimers = mgr.mTimers) (creating : next.creating = mgr.creating)
      (cancelled : next.cancelled = mgr.cancelled) (executed : next.executed = mgr.executed)
      (table : next.table.map Timer.arming = mgr.table.map Timer.arming)
      (phase : next.phase = mgr.phase ∨ mgr.phase.running = none ∧ next.phase.running = none ∧
        ∀ tmp, next.phase.remembered = some tmp →
          mgr.phase.remembered = some tmp ∨ mgr.mTimers.head? = some tmp) :
      Stepped mgr action next
  | create (action : TimerAction) (noPop : ∀ promoted, action ≠ .pop promoted)
      (timerType : TimerType) (delayseconds timeout : Int) :
      Stepped mgr action (mgr.create timerType delayseconds timeout)
  | push (timer : Nat) (listed : timer ∈ mgr.creating) :
      Stepped mgr (.push timer)
        { mgr with
          mTimers := mgr.pushed timer
          creating := mgr.creating.erase timer
          notifying := mgr.notifying + 1 }
  | cancel (timer : Nat) :
      Stepped mgr (.cancel timer)
        { mgr.setTimer timer Timer.cancel with cancelled := mgr.cancelled ++ [timer] }
  | stop (promoted tmp : Nat) (due : mgr.phase = .due tmp) (closed : mgr.timerRun = false) :
      Stepped mgr (.pop promoted) { mgr with phase := .stopped }
  | pop (promoted tmp top : Nat) (rest remaining : List Nat) (timer : Timer)
      (due : mgr.phase = .due tmp) (open_ : mgr.timerRun = true)
      (queue : mgr.mTimers = top :: rest) (found : mgr.table[tmp]? = some timer)
      (left : mgr.popped rest promoted = some remaining) :
      Stepped mgr (.pop promoted)
        { mgr.setTimer tmp (fun timer => timer.startExecute.1) with
          mTimers := remaining
          phase := .executing tmp timer.startExecute.2 }
  | finish (tmp : Nat) (runs : Bool) (executing : mgr.phase = .executing tmp runs) :
      Stepped mgr .finish (mgr.finish tmp runs)

theorem setTimer_arming (timer : Nat) (change : Timer → Timer)
    (keeps : ∀ value, (change value).arming = value.arming) :
    (mgr.setTimer timer change).table.map Timer.arming = mgr.table.map Timer.arming := by
  apply List.ext_getElem?
  intro place
  simp only [setTimer, List.getElem?_map, List.getElem?_modify]
  cases mgr.table[place]? with
  | none => rfl
  | some value => by_cases same : timer = place <;> simp [same, keeps]

theorem Stepped.forgets {mgr : TimerMgr} {action : TimerAction} {phase : TimerPhase}
    (wakeup : TimerState) (noPop : ∀ promoted, action ≠ .pop promoted)
    (idle : mgr.phase.running = none) (stays : phase.running = none)
    (forgotten : phase.remembered = none) :
    Stepped mgr action { mgr with phase := phase, timerWakeupState := wakeup } := by
  refine .quiet action _ noPop rfl rfl rfl rfl rfl (.inr ⟨idle, stays, ?_⟩)
  intro tmp remembered
  rw [forgotten] at remembered
  cases remembered

theorem stepped_of_step {mgr next : TimerMgr} {action : TimerAction}
    (stepped : mgr.step action = some next) : Stepped mgr action next := by
  cases action with
  | tick nanoseconds =>
    cases stepped
    exact .quiet _ _ (by simp) rfl rfl rfl rfl rfl (.inl rfl)
  | addTimer timeout =>
    cases stepped
    exact .create _ (by simp) .timerTypeOnce 0 timeout
  | addTimerLoop delayseconds timeout =>
    cases stepped
    exact .create _ (by simp) .timerTypeLoop delayseconds timeout
  | push timer =>
    simp only [step, Option.ite_none_right_eq_some, Option.some.injEq] at stepped
    obtain ⟨listed, rfl⟩ := stepped
    exact .push timer listed
  | wakeUp =>
    simp only [step, Option.ite_none_right_eq_some, Option.some.injEq] at stepped
    obtain ⟨-, rfl⟩ := stepped
    exact .quiet _ _ (by simp) rfl rfl rfl rfl rfl (.inl rfl)
  | cancel timer =>
    simp only [step, Option.ite_none_right_eq_some, Option.some.injEq] at stepped
    obtain ⟨-, rfl⟩ := stepped
    exact .cancel timer
  | close =>
    simp only [step] at stepped
    split at stepped
    case h_5 => cases stepped
    all_goals
      cases stepped
      exact .quiet _ _ (by simp) rfl rfl rfl rfl rfl (.inl rfl)
  | timerRun =>
    simp only [step] at stepped
    split at stepped
    · rename_i entry
      cases stepped
      refine .forgets mgr.timerWakeupState (by simp) (by rw [entry]; rfl) ?_ ?_
      · split <;> rfl
      · split <;> rfl
    · cases stepped
  | wakeEmpty =>
    simp only [step] at stepped
    split at stepped
    · rename_i waiting
      cases stepped
      exact .forgets mgr.timerWakeupState (by simp) (by rw [waiting]; rfl) rfl rfl
    · cases stepped
  | readTop =>
    simp only [step] at stepped
    split at stepped
    · rename_i ready
      have idle : mgr.phase.running = none := by rw [ready]; rfl
      split at stepped
      · split at stepped
        · cases stepped
          exact .forgets mgr.timerWakeupState (by simp) idle rfl rfl
        · rename_i tmp rest queue
          cases stepped
          exact .quiet _ _ (by simp) rfl rfl rfl rfl rfl
            (.inr ⟨idle, rfl, by simp [TimerPhase.remembered, queue]⟩)
      · cases stepped
        exact .forgets mgr.timerWakeupState (by simp) idle rfl rfl
    · cases stepped
  | testLeftTime =>
    simp only [step] at stepped
    split at stepped
    · rename_i tmp read
      obtain ⟨timer, -, rfl⟩ := Option.map_eq_some_iff.mp stepped
      refine .quiet _ _ (by simp) rfl rfl rfl rfl
        (setTimer_arming mgr tmp _ fun _ => rfl) (.inr ⟨by rw [read]; rfl, ?_, ?_⟩)
      · simp only
        split <;> rfl
      · simp only [read]
        split <;> exact fun other same => .inl same
    · cases stepped
  | wake =>
    simp only [step] at stepped
    split at stepped
    · rename_i tmp waiting
      cases stepped
      refine .quiet _ _ (by simp) rfl rfl rfl rfl rfl (.inr ⟨by rw [waiting]; rfl, ?_, ?_⟩)
      · simp only
        split <;> rfl
      · simp only [waiting]
        split
        · simp [TimerPhase.remembered]
        · exact fun other same => .inl same
    · cases stepped
  | pop promoted =>
    simp only [step] at stepped
    split at stepped
    · rename_i tmp due
      split at stepped
      · rename_i running
        split at stepped
        · rename_i top rest timer queue found
          obtain ⟨remaining, left, rfl⟩ := Option.map_eq_some_iff.mp stepped
          exact .pop promoted tmp top rest remaining timer due running queue found left
        · cases stepped
      · rename_i closed
        cases stepped
        exact .stop promoted tmp due (Bool.eq_false_iff.mpr closed)
    · cases stepped
  | finish =>
    simp only [step] at stepped
    split at stepped
    · rename_i tmp runs executing
      cases stepped
      exact .finish tmp runs executing
    · cases stepped
  | setExecuteTimer =>
    simp only [step] at stepped
    split at stepped
    · rename_i executed
      cases stepped
      exact .forgets .timerStateExecuteTimer (by simp) (by rw [executed]; rfl) rfl rfl
    · cases stepped

end TimerMgr

end PssAsio
