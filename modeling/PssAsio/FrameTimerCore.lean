import Mathlib.Data.List.Basic
import Mathlib.Logic.Function.Basic
import PssAsio.PluginThreadsCore
import PssAsio.TimerManagerCore
import PssAsio.TransitionRuns

/-!
Delayed messages of `CWorkThreadLogic`, cut where another thread can come in between. `answered` are
the timers a deletion that returned true was about.
-/

namespace PssAsio

open TransitionRuns Function

inductive FrameStage where
  | queued
  | taken
  | erased
  | finished
  deriving DecidableEq, Repr

/-- How far the timer thread is with a timer, and whether its entry is still to be written. -/
structure DelayedMessage (Message Func : Type) where
  frame : FrameTimer Message Func
  timer : Timer
  stage : FrameStage
  recording : Bool
  deriving DecidableEq, Repr

variable {Message Func : Type}

namespace DelayedMessage

def timerId (delayed : DelayedMessage Message Func) : UInt64 := delayed.frame.delayTimer.timerId

variable (delayed : DelayedMessage Message Func)

def Armed : Prop :=
  delayed.stage = .queued ∧ delayed.timer.callback = true
  deriving Decidable

def Pending : Prop :=
  delayed.Armed ∨ delayed.stage = .taken
  deriving Decidable

def Live : Prop :=
  delayed.Pending ∨ delayed.stage = .erased
  deriving Decidable

def Running : Prop :=
  delayed.stage = .taken ∨ delayed.stage = .erased
  deriving Decidable

/-- `addTimer`; an entry is written for ids above 0 only. -/
def added (frame : FrameTimer Message Func) : DelayedMessage Message Func where
  frame := frame
  timer := ⟨0, frame.delayTimer.delaySeconds * 1000000000, 0, .timerTypeOnce, true, false⟩
  stage := .queued
  recording := decide (0 < frame.delayTimer.timerId)

/-- The timer thread has popped the timer and entered `operator()`. -/
def executed : DelayedMessage Message Func :=
  { delayed with
    timer := delayed.timer.startExecute.1
    stage := if delayed.timer.startExecute.2 then .taken else .finished }

/-- `cancel` through the weak pointer, which is empty once the timer is gone. -/
def cancelled : DelayedMessage Message Func :=
  if delayed.stage = .finished then delayed
  else { delayed with timer := delayed.timer.cancel }

end DelayedMessage

structure FrameTimers (Message Func : Type) where
  pluginWorkThreadList : UInt32 → Option UInt16
  table : List (DelayedMessage Message Func)
  plginTimerList : UInt64 → Option Nat
  posts : List (UInt32 × PluginTask Message Func)
  posted : List Nat
  answered : List Nat

inductive FrameAction (Message Func : Type) where
  | doFrameMessage (tagThreadId : UInt16) (message : Message) (delayTimer : FrameMessageDelay)
  | doWorkThreadLogic (tagThreadId : UInt16) (delayTimer : FrameMessageDelay) (func : Func)
  | record (timer : Nat)
  | execute (timer : Nat)
  | eraseTimer (timer : Nat)
  | postTask (timer : Nat)
  | deleteFrameMessageTimer (timerId : UInt64)
  deriving DecidableEq, Repr

namespace FrameTimers

def idle (pluginWorkThreadList : UInt32 → Option UInt16) : FrameTimers Message Func :=
  ⟨pluginWorkThreadList, [], fun _ => none, [], [], []⟩

variable (timers : FrameTimers Message Func)

def addTimer (frame : FrameTimer Message Func) : FrameTimers Message Func :=
  { timers with table := timers.table ++ [.added frame] }

def post (delayTimer : FrameMessageDelay) (logicId : UInt32) (task : PluginTask Message Func) :
    FrameTimers Message Func :=
  if delayTimer.delaySeconds = 0 then { timers with posts := timers.posts ++ [(logicId, task)] }
  else timers.addTimer ⟨delayTimer, logicId, task⟩

def doFrameMessage (tagThreadId : UInt16) (message : Message) (delayTimer : FrameMessageDelay) :
    FrameTimers Message Func :=
  match timers.pluginWorkThreadList tagThreadId.toUInt32 with
  | none => timers
  | some workThreadId =>
      timers.post delayTimer workThreadId.toUInt32 (.moduleLogic workThreadId message)

def doWorkThreadLogic (tagThreadId : UInt16) (delayTimer : FrameMessageDelay) (func : Func) :
    FrameTimers Message Func :=
  match timers.pluginWorkThreadList tagThreadId.toUInt32 with
  | none => timers
  | some _ => timers.post delayTimer tagThreadId.toUInt32 (.threadFunction func)

def recorded (timer : Nat) (delayed : DelayedMessage Message Func) : FrameTimers Message Func :=
  { timers with
    table := timers.table.set timer { delayed with recording := false }
    plginTimerList := update timers.plginTimerList delayed.timerId (some timer) }

def erased (timer : Nat) (delayed : DelayedMessage Message Func) : FrameTimers Message Func :=
  { timers with
    table := timers.table.set timer { delayed with stage := .erased }
    plginTimerList := update timers.plginTimerList delayed.timerId none }

def finished (timer : Nat) (delayed : DelayedMessage Message Func) : FrameTimers Message Func :=
  { timers with
    table := timers.table.set timer { delayed with stage := .finished }
    posts := timers.posts ++ [(delayed.frame.logicId, delayed.frame.task)]
    posted := timers.posted ++ [timer] }

variable (timerId : UInt64)

def concerned : List Nat :=
  (List.range timers.table.length).filter fun timer =>
    match timers.table[timer]? with
    | some delayed =>
        decide (delayed.timerId = timerId ∧ delayed.Live ∧ delayed.recording = false)
    | none => false

def withdrawn (timer : Nat) : FrameTimers Message Func :=
  { timers with
    table := timers.table.modify timer DelayedMessage.cancelled
    plginTimerList := update timers.plginTimerList timerId none
    answered := timers.answered ++ timer :: timers.concerned timerId }

def deleteFrameMessageTimer : FrameTimers Message Func × Bool :=
  match timers.plginTimerList timerId with
  | none => (timers, false)
  | some timer => (timers.withdrawn timerId timer, true)

def ThreadFree : Prop :=
  ∀ delayed ∈ timers.table, ¬delayed.Running
  deriving Decidable

def step :
    FrameAction Message Func → Option (FrameTimers Message Func)
  | .doFrameMessage tagThreadId message delayTimer =>
      some (timers.doFrameMessage tagThreadId message delayTimer)
  | .doWorkThreadLogic tagThreadId delayTimer func =>
      some (timers.doWorkThreadLogic tagThreadId delayTimer func)
  | .record timer =>
      match timers.table[timer]? with
      | some delayed =>
          if delayed.recording = true then some (timers.recorded timer delayed) else none
      | none => none
  | .execute timer =>
      match timers.table[timer]? with
      | some delayed =>
          if delayed.stage = .queued ∧ timers.ThreadFree then
            some { timers with table := timers.table.set timer delayed.executed }
          else none
      | none => none
  | .eraseTimer timer =>
      match timers.table[timer]? with
      | some delayed => if delayed.stage = .taken then some (timers.erased timer delayed) else none
      | none => none
  | .postTask timer =>
      match timers.table[timer]? with
      | some delayed =>
          if delayed.stage = .erased then some (timers.finished timer delayed) else none
      | none => none
  | .deleteFrameMessageTimer timerId => some (timers.deleteFrameMessageTimer timerId).1

def requested :
    FrameAction Message Func → Option (FrameTimer Message Func)
  | .doFrameMessage tagThreadId message delayTimer =>
      match timers.pluginWorkThreadList tagThreadId.toUInt32 with
      | none => none
      | some workThreadId =>
          if delayTimer.delaySeconds = 0 then none
          else some ⟨delayTimer, workThreadId.toUInt32, .moduleLogic workThreadId message⟩
  | .doWorkThreadLogic tagThreadId delayTimer func =>
      match timers.pluginWorkThreadList tagThreadId.toUInt32 with
      | none => none
      | some _ =>
          if delayTimer.delaySeconds = 0 then none
          else some ⟨delayTimer, tagThreadId.toUInt32, .threadFunction func⟩
  | _ => none

def isCall : FrameAction Message Func → Bool
  | .doFrameMessage _ _ _ => true
  | .doWorkThreadLogic _ _ _ => true
  | _ => false

inductive Stepped (timers : FrameTimers Message Func) :
    FrameAction Message Func → FrameTimers Message Func → Prop where
  | call {action : FrameAction Message Func} (posts : List (UInt32 × PluginTask Message Func)) :
      isCall action = true → timers.requested action = none →
      Stepped timers action { timers with posts := posts }
  | add {action : FrameAction Message Func} {frame : FrameTimer Message Func} :
      timers.requested action = some frame → Stepped timers action (timers.addTimer frame)
  | record {timer : Nat} {delayed : DelayedMessage Message Func} :
      timers.table[timer]? = some delayed → delayed.recording = true →
      Stepped timers (.record timer) (timers.recorded timer delayed)
  | execute {timer : Nat} {delayed : DelayedMessage Message Func} :
      timers.table[timer]? = some delayed → delayed.stage = .queued → timers.ThreadFree →
      Stepped timers (.execute timer)
        { timers with table := timers.table.set timer delayed.executed }
  | erase {timer : Nat} {delayed : DelayedMessage Message Func} :
      timers.table[timer]? = some delayed → delayed.stage = .taken →
      Stepped timers (.eraseTimer timer) (timers.erased timer delayed)
  | finish {timer : Nat} {delayed : DelayedMessage Message Func} :
      timers.table[timer]? = some delayed → delayed.stage = .erased →
      Stepped timers (.postTask timer) (timers.finished timer delayed)
  | delete {timerId : UInt64} {timer : Nat} :
      timers.plginTimerList timerId = some timer →
      Stepped timers (.deleteFrameMessageTimer timerId) (timers.withdrawn timerId timer)
  | miss {timerId : UInt64} :
      timers.plginTimerList timerId = none →
      Stepped timers (.deleteFrameMessageTimer timerId) timers

variable {action : FrameAction Message Func} {timers}

theorem post_stepped {delayTimer : FrameMessageDelay} {logicId : UInt32}
    {task : PluginTask Message Func} (call : isCall action = true)
    (asks : timers.requested action = if delayTimer.delaySeconds = 0 then none else some
      ⟨delayTimer, logicId, task⟩) :
    Stepped timers action (timers.post delayTimer logicId task) := by
  unfold post
  split
  · rename_i immediate
    exact Stepped.call _ call (by rw [asks, if_pos immediate])
  · rename_i delayed
    exact Stepped.add (by rw [asks, if_neg delayed])

theorem stepped_of_step {next : FrameTimers Message Func}
    (stepped : timers.step action = some next) : Stepped timers action next := by
  cases action with
  | doFrameMessage tagThreadId message delayTimer =>
    cases stepped
    cases found : timers.pluginWorkThreadList tagThreadId.toUInt32 with
    | none =>
      simpa only [doFrameMessage, found] using
        Stepped.call timers.posts rfl (by simp [requested, found])
    | some workThreadId =>
      simp only [doFrameMessage, found]
      exact post_stepped rfl (by simp only [requested, found])
  | doWorkThreadLogic tagThreadId delayTimer func =>
    cases stepped
    cases found : timers.pluginWorkThreadList tagThreadId.toUInt32 with
    | none =>
      simpa only [doWorkThreadLogic, found] using
        Stepped.call timers.posts rfl (by simp [requested, found])
    | some workThreadId =>
      simp only [doWorkThreadLogic, found]
      exact post_stepped rfl (by simp only [requested, found])
  | record timer =>
    simp only [step] at stepped
    split at stepped
    · rename_i delayed held
      obtain ⟨recording, stepped⟩ := Option.ite_none_right_eq_some.mp stepped
      cases stepped
      exact Stepped.record held recording
    · cases stepped
  | execute timer =>
    simp only [step] at stepped
    split at stepped
    · rename_i delayed held
      obtain ⟨⟨queued, free⟩, stepped⟩ := Option.ite_none_right_eq_some.mp stepped
      cases stepped
      exact Stepped.execute held queued free
    · cases stepped
  | eraseTimer timer =>
    simp only [step] at stepped
    split at stepped
    · rename_i delayed held
      obtain ⟨taken, stepped⟩ := Option.ite_none_right_eq_some.mp stepped
      cases stepped
      exact Stepped.erase held taken
    · cases stepped
  | postTask timer =>
    simp only [step] at stepped
    split at stepped
    · rename_i delayed held
      obtain ⟨erased, stepped⟩ := Option.ite_none_right_eq_some.mp stepped
      cases stepped
      exact Stepped.finish held erased
    · cases stepped
  | deleteFrameMessageTimer timerId =>
    cases stepped
    cases found : timers.plginTimerList timerId with
    | none => simpa only [deleteFrameMessageTimer, found] using Stepped.miss found
    | some timer => simpa only [deleteFrameMessageTimer, found] using Stepped.delete found

theorem step_of_requested {frame : FrameTimer Message Func}
    (asked : timers.requested action = some frame) :
    timers.step action = some (timers.addTimer frame) := by
  cases action with
  | doFrameMessage tagThreadId message delayTimer =>
    simp only [requested] at asked
    split at asked
    · cases asked
    · rename_i workThreadId found
      obtain ⟨delayed, made⟩ := Option.ite_none_left_eq_some.mp asked
      cases made
      simp only [step, doFrameMessage, found, post, if_neg delayed]
  | doWorkThreadLogic tagThreadId delayTimer func =>
    simp only [requested] at asked
    split at asked
    · cases asked
    · rename_i workThreadId found
      obtain ⟨delayed, made⟩ := Option.ite_none_left_eq_some.mp asked
      cases made
      simp only [step, doWorkThreadLogic, found, post, if_neg delayed]
  | record timer | execute timer | eraseTimer timer | postTask timer
  | deleteFrameMessageTimer timerId => cases asked

end FrameTimers

namespace DelayedMessage

structure Sane (delayed : DelayedMessage Message Func) : Prop where
  once : delayed.timer.timerType = .timerTypeOnce
  flagged : delayed.timer.callback = !delayed.timer.executeOnceFlag
  started : delayed.stage ≠ .queued → delayed.timer.callback = false
  named : delayed.recording = true → delayed.timerId ≠ 0

theorem added_sane (frame : FrameTimer Message Func) : (added frame).Sane where
  once := rfl
  flagged := rfl
  started := fun other => absurd rfl other
  named := by
    intro recording zero
    have above : 0 < frame.delayTimer.timerId := of_decide_eq_true recording
    exact absurd (show frame.delayTimer.timerId = 0 from zero) (UInt64.ne_of_lt above).symm

variable {delayed : DelayedMessage Message Func}

theorem Sane.startExecute (sane : delayed.Sane) : delayed.timer.startExecute =
      ({ delayed.timer with callback := false, executeOnceFlag := true },
        delayed.timer.callback) := by
  obtain ⟨frame, ⟨startTime, lastTime, delayTime, timerType, callback, flag⟩, stage, recording⟩ :=
    delayed
  obtain ⟨once, flagged, -, -⟩ := sane
  dsimp only at once flagged
  subst once flagged
  cases flag <;> rfl

theorem Sane.executed_stage (sane : delayed.Sane) :
    delayed.executed.stage = if delayed.timer.callback then .taken else .finished := by
  rw [executed, sane.startExecute]

theorem Sane.executed (sane : delayed.Sane) : delayed.executed.Sane where
  once := by simpa [DelayedMessage.executed, sane.startExecute] using sane.once
  flagged := by simp [DelayedMessage.executed, sane.startExecute]
  started := by simp [DelayedMessage.executed, sane.startExecute]
  named := sane.named

theorem Sane.moved (sane : delayed.Sane) (started : delayed.stage ≠ .queued) (stage : FrameStage) :
    { delayed with stage := stage }.Sane where
  once := sane.once
  flagged := sane.flagged
  started := fun _ => sane.started started
  named := sane.named

theorem Sane.written (sane : delayed.Sane) : { delayed with recording := false }.Sane where
  once := sane.once
  flagged := sane.flagged
  started := sane.started
  named := fun written => absurd written Bool.false_ne_true

@[simp] theorem cancelled_stage (delayed : DelayedMessage Message Func) :
    delayed.cancelled.stage = delayed.stage := by
  unfold cancelled
  split <;> rfl

@[simp] theorem cancelled_timerId (delayed : DelayedMessage Message Func) :
    delayed.cancelled.timerId = delayed.timerId := by
  unfold cancelled
  split <;> rfl

@[simp] theorem cancelled_recording (delayed : DelayedMessage Message Func) :
    delayed.cancelled.recording = delayed.recording := by
  unfold cancelled
  split <;> rfl

theorem Sane.cancelled_callback (sane : delayed.Sane) :
    delayed.cancelled.timer.callback = false := by
  unfold DelayedMessage.cancelled
  split
  · rename_i finished
    exact sane.started (by simp [finished])
  · have flagged := sane.flagged
    cases flag : delayed.timer.executeOnceFlag <;> simp_all [Timer.cancel]

theorem Sane.cancelled (sane : delayed.Sane) : delayed.cancelled.Sane where
  once := by
    have once := sane.once
    unfold DelayedMessage.cancelled Timer.cancel
    split
    · exact once
    · dsimp only
      split <;> exact once
  flagged := by
    have flagged := sane.flagged
    unfold DelayedMessage.cancelled Timer.cancel
    split
    · exact flagged
    · dsimp only
      split
      · exact flagged
      · rfl
  started := fun _ => sane.cancelled_callback
  named := by simpa using sane.named

end DelayedMessage

namespace FrameTimers

variable (timers : FrameTimers Message Func)

structure WellFormed : Prop where
  sane : ∀ (timer : Nat) (delayed : DelayedMessage Message Func),
    timers.table[timer]? = some delayed → delayed.Sane
  unnamed : timers.plginTimerList 0 = none

theorem idle_wellFormed (pluginWorkThreadList : UInt32 → Option UInt16) :
    WellFormed (idle pluginWorkThreadList : FrameTimers Message Func) :=
  ⟨by simp [idle], rfl⟩

theorem getElem?_set_cases {table : List (DelayedMessage Message Func)} {timer other : Nat}
    {changed delayed : DelayedMessage Message Func}
    (found : (table.set timer changed)[other]? = some delayed) :
    (other = timer ∧ delayed = changed) ∨ (other ≠ timer ∧ table[other]? = some delayed) := by
  by_cases same : other = timer
  · subst same
    have inside : other < table.length := by
      have bound := (List.getElem?_eq_some_iff.mp found).1
      simpa using bound
    rw [List.getElem?_set_self inside] at found
    exact .inl ⟨rfl, (Option.some.inj found).symm⟩
  · rw [List.getElem?_set_ne (Ne.symm same)] at found
    exact .inr ⟨same, found⟩

theorem addTimer_lookup (frame : FrameTimer Message Func) (timer : Nat) :
    (timers.addTimer frame).table[timer]? =
      if timer = timers.table.length then some (.added frame) else timers.table[timer]? := by
  simp only [addTimer, List.getElem?_append]
  split
  · rename_i inside
    rw [if_neg (by omega)]
  · split
    · rename_i last
      simp [last]
    · rename_i outside other
      rw [List.getElem?_eq_none (by simp; omega), List.getElem?_eq_none (by omega)]

theorem step_wellFormed {timers next : FrameTimers Message Func}
    {action : FrameAction Message Func} (formed : WellFormed timers)
    (stepped : timers.step action = some next) : WellFormed next := by
  have replaced : ∀ {timer : Nat} {changed : DelayedMessage Message Func}, changed.Sane →
      ∀ (other : Nat) (delayed : DelayedMessage Message Func),
        (timers.table.set timer changed)[other]? = some delayed → delayed.Sane := by
    intro timer changed sane other delayed found
    obtain ⟨-, rfl⟩ | ⟨-, held⟩ := getElem?_set_cases found
    · exact sane
    · exact formed.sane other delayed held
  cases stepped_of_step stepped with
  | call posts _ _ => exact ⟨formed.sane, formed.unnamed⟩
  | add _ =>
    refine ⟨?_, formed.unnamed⟩
    intro other delayed found
    rw [addTimer_lookup] at found
    split at found
    · cases found
      exact DelayedMessage.added_sane _
    · exact formed.sane other delayed found
  | record held recording =>
    have sane := formed.sane _ _ held
    refine ⟨replaced sane.written, ?_⟩
    exact (update_of_ne (sane.named recording).symm _ _).trans formed.unnamed
  | execute held _ _ => exact ⟨replaced (formed.sane _ _ held).executed, formed.unnamed⟩
  | @erase timer delayed held taken =>
    refine ⟨replaced ((formed.sane _ _ held).moved (by simp [taken]) .erased), ?_⟩
    by_cases zero : delayed.timerId = 0
    · simp [erased, zero]
    · exact (update_of_ne (Ne.symm zero) _ _).trans formed.unnamed
  | finish held erased =>
    exact ⟨replaced ((formed.sane _ _ held).moved (by simp [erased]) .finished), formed.unnamed⟩
  | @delete timerId timer found =>
    refine ⟨?_, ?_⟩
    · intro other delayed entry
      simp only [withdrawn, List.getElem?_modify] at entry
      split at entry
      · obtain ⟨before, held, rfl⟩ := Option.map_eq_some_iff.mp entry
        exact (formed.sane other before held).cancelled
      · exact formed.sane other delayed (by simpa using entry)
    · have other : timerId ≠ 0 := by
        rintro rfl
        rw [formed.unnamed] at found
        cases found
      exact (update_of_ne (Ne.symm other) _ _).trans formed.unnamed
  | miss _ => exact formed

end FrameTimers

end PssAsio
