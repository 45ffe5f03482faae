import Mathlib.Logic.Function.Basic
import PssAsio.TimerManagerCore

/-!
`TMS` with its three kinds of messages, which are kept in `m_tmsEvents` before `Start`.
-/

namespace PssAsio

open Function

inductive TmsEventType where
  | tmsEventImmediately
  | tmsEventDelay
  | tmsEventTimer
  deriving DecidableEq, Repr

structure TmsEvent (Func : Type) where
  logicId : UInt32
  eventFunc : Func
  tmsEventType : TmsEventType
  millisecond : Int
  delayseconds : Int
  deriving DecidableEq, Repr

structure TmsTimer (Func : Type) where
  timerType : TimerType
  delayseconds : Int
  timeout : Int
  logicId : UInt32
  func : Func
  deriving DecidableEq, Repr

structure TmsSchedule (Func : Type) where
  mapLogicList : UInt32 → Option (List Func)
  timers : List (TmsTimer Func)
  tmsIsStart : Bool
  tmsEvents : List (TmsEvent Func)

inductive TmsCall (Func : Type) where
  | createLogic (logicId : UInt32)
  | addMessage (logicId : UInt32) (func : Func)
  | addMessageDelay (logicId : UInt32) (millisecond : Int) (func : Func)
  | addMessageLoop (logicId : UInt32) (delayseconds millisecond : Int) (func : Func)
  deriving DecidableEq, Repr

namespace TmsSchedule

variable {Func : Type}

def init : TmsSchedule Func := ⟨fun _ => none, [], false, []⟩

variable (tms : TmsSchedule Func)

variable (logicId : UInt32)

def createLogic : TmsSchedule Func × Bool :=
  match tms.mapLogicList logicId with
  | some _ => (tms, false)
  | none =>
      ({ tms with mapLogicList := update tms.mapLogicList logicId (some []) }, true)

def keepEvent (event : TmsEvent Func) : TmsSchedule Func :=
  { tms with tmsEvents := tms.tmsEvents ++ [event] }

def addMessage (func : Func) : TmsSchedule Func × Bool :=
  if tms.tmsIsStart = false then
    (tms.keepEvent ⟨logicId, func, .tmsEventImmediately, 0, 0⟩, true)
  else
    match tms.mapLogicList logicId with
    | some queue =>
        ({ tms with
          mapLogicList := update tms.mapLogicList logicId (some (queue ++ [func])) }, true)
    | none => (tms, false)

/-- The timer is registered if the logic thread exists. -/
def addTimerFor (timer : TmsTimer Func) : TmsSchedule Func × Bool :=
  match tms.mapLogicList timer.logicId with
  | some _ => ({ tms with timers := tms.timers ++ [timer] }, true)
  | none => (tms, false)

def addMessageDelay (millisecond : Int) (func : Func) : TmsSchedule Func × Bool :=
  if tms.tmsIsStart = false then
    (tms.keepEvent ⟨logicId, func, .tmsEventDelay, millisecond, 0⟩, false)
  else tms.addTimerFor ⟨.timerTypeOnce, 0, millisecond, logicId, func⟩

def addMessageLoop (delayseconds millisecond : Int) (func : Func) : TmsSchedule Func × Bool :=
  if tms.tmsIsStart = false then
    (tms.keepEvent ⟨logicId, func, .tmsEventTimer, millisecond, delayseconds⟩, false)
  else tms.addTimerFor ⟨.timerTypeLoop, delayseconds, millisecond, logicId, func⟩

def replay (event : TmsEvent Func) : TmsSchedule Func :=
  match event.tmsEventType with
  | .tmsEventImmediately => (tms.addMessage event.logicId event.eventFunc).1
  | .tmsEventDelay => (tms.addMessageDelay event.logicId event.millisecond event.eventFunc).1
  | .tmsEventTimer =>
      (tms.addMessageLoop event.logicId event.delayseconds event.millisecond event.eventFunc).1

def start : TmsSchedule Func :=
  tms.tmsEvents.foldl replay { tms with tmsIsStart := true }

def perform : TmsCall Func → TmsSchedule Func
  | .createLogic logicId => (tms.createLogic logicId).1
  | .addMessage logicId func => (tms.addMessage logicId func).1
  | .addMessageDelay logicId millisecond func => (tms.addMessageDelay logicId millisecond func).1
  | .addMessageLoop logicId delayseconds millisecond func =>
      (tms.addMessageLoop logicId delayseconds millisecond func).1

def performAll (calls : List (TmsCall Func)) : TmsSchedule Func :=
  calls.foldl perform tms

def queueOf : List Func :=
  (tms.mapLogicList logicId).getD []

theorem createLogic_open (other : UInt32) :
    ((tms.createLogic logicId).1.mapLogicList other).isSome ↔
      other = logicId ∨ (tms.mapLogicList other).isSome := by
  unfold createLogic
  by_cases same : other = logicId
  · subst same
    cases found : tms.mapLogicList other <;> simp [found]
  · cases found : tms.mapLogicList logicId <;> simp [same]

theorem createLogic_queueOf (other : UInt32) :
    (tms.createLogic logicId).1.queueOf other = tms.queueOf other := by
  unfold createLogic queueOf
  by_cases same : other = logicId
  · subst same
    cases found : tms.mapLogicList other <;> simp [found]
  · cases found : tms.mapLogicList logicId <;> simp [same]

theorem createLogic_tmsIsStart :
    (tms.createLogic logicId).1.tmsIsStart = tms.tmsIsStart ∧
    (tms.createLogic logicId).1.tmsEvents = tms.tmsEvents := by
  unfold createLogic
  split <;> exact ⟨rfl, rfl⟩

theorem start_quiet {tms : TmsSchedule Func} (quiet : tms.tmsEvents = []) :
    tms.start = ⟨tms.mapLogicList, tms.timers, true, []⟩ := by
  obtain ⟨mapLogicList, timers, tmsIsStart, tmsEvents⟩ := tms
  cases quiet
  rfl

theorem addMessage_open {tms : TmsSchedule Func} (started : tms.tmsIsStart = true)
    (logicId : UInt32) (func : Func) :
    (tms.addMessage logicId func).1.tmsIsStart = true ∧
    ∀ other, ((tms.addMessage logicId func).1.mapLogicList other).isSome ↔
      (tms.mapLogicList other).isSome := by
  simp only [addMessage, started, Bool.true_eq_false, if_false]
  cases found : tms.mapLogicList logicId with
  | none => exact ⟨started, fun _ => Iff.rfl⟩
  | some queue =>
    refine ⟨rfl, fun other => ?_⟩
    by_cases same : other = logicId <;> simp [same, found]

theorem addMessage_started {tms : TmsSchedule Func} {logicId : UInt32}
    (started : tms.tmsIsStart = true) (opened : (tms.mapLogicList logicId).isSome) (func : Func) :
    (tms.addMessage logicId func).1 =
      { tms with
        mapLogicList :=
          update tms.mapLogicList logicId (some (tms.queueOf logicId ++ [func])) } := by
  obtain ⟨queue, found⟩ := Option.isSome_iff_exists.mp opened
  simp [addMessage, queueOf, started, found]

end TmsSchedule

end PssAsio
