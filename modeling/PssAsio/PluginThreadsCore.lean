import PssAsio.TmsScheduleCore

/-!
The plugin threads of `CWorkThreadLogic`. `work_thread_id_` has 16 bits, the lists have 32.
-/

namespace PssAsio

open Function

structure FrameMessageDelay where
  delaySeconds : Int
  timerId : UInt64
  deriving DecidableEq, Repr

inductive PluginTask (Message Func : Type) where
  | moduleLogic (workThreadId : UInt16) (message : Message)
  | threadFunction (func : Func)
  deriving DecidableEq, Repr

structure DelayPluginMessage (Message : Type) where
  tagThreadId : UInt16
  message : Message
  delayTimer : FrameMessageDelay

structure DelayPluginFunc (Func : Type) where
  tagThreadId : UInt16
  delayTimer : FrameMessageDelay
  func : Func

structure FrameTimer (Message Func : Type) where
  delayTimer : FrameMessageDelay
  logicId : UInt32
  task : PluginTask Message Func
  deriving DecidableEq, Repr

structure PluginThreads (Message Func : Type) where
  threadCount : UInt16
  moduleInitFinish : Bool
  pluginWorkThreadList : UInt32 → Option UInt16
  pluginWorkThreadBufferList : List UInt32
  pluginWorkThreadBufferMessageList : List (DelayPluginMessage Message)
  pluginWorkThreadBufferFuncList : List (DelayPluginFunc Func)
  tms : TmsSchedule (PluginTask Message Func)
  frameTimers : List (FrameTimer Message Func)

inductive PluginCall (Message Func : Type) where
  | createFrameWorkThread (threadId : UInt32)
  | sendFrameMessage (tagThreadId : UInt16) (message : Message) (delayTimer : FrameMessageDelay)
  | runWorkThreadLogic (tagThreadId : UInt16) (delayTimer : FrameMessageDelay) (func : Func)
  deriving DecidableEq, Repr

namespace PluginThreads

variable {Message Func : Type}

def loading (threadCount : Nat) : PluginThreads Message Func where
  threadCount := UInt16.ofNat threadCount
  moduleInitFinish := false
  pluginWorkThreadList := fun _ => none
  pluginWorkThreadBufferList := []
  pluginWorkThreadBufferMessageList := []
  pluginWorkThreadBufferFuncList := []
  tms := TmsSchedule.init
  frameTimers := []

def addMessage (logic : PluginThreads Message Func) (logicId : UInt32)
    (task : PluginTask Message Func) : PluginThreads Message Func :=
  { logic with tms := (logic.tms.addMessage logicId task).1 }

variable (logic : PluginThreads Message Func)

variable (threadId : UInt32)

def addPluginThread : PluginThreads Message Func :=
  { logic with
    pluginWorkThreadList :=
      update logic.pluginWorkThreadList threadId (some threadId.toUInt16)
    tms := (logic.tms.createLogic threadId).1 }

def createFrameWorkThread : PluginThreads Message Func × Bool :=
  if threadId < logic.threadCount.toUInt32 then (logic, false)
  else if logic.moduleInitFinish = false then
    ({ logic with
      pluginWorkThreadBufferList := logic.pluginWorkThreadBufferList ++ [threadId] }, true)
  else
    match logic.pluginWorkThreadList threadId with
    | some _ => (logic, false)
    | none => (logic.addPluginThread threadId, true)

/-- The module is closed and its entry erased; `TMS` is not called. -/
def closeFrameWorkThread : PluginThreads Message Func × Bool :=
  if threadId < logic.threadCount.toUInt32 then (logic, false)
  else
    match logic.pluginWorkThreadList threadId with
    | some _ =>
        ({ logic with
          pluginWorkThreadList := update logic.pluginWorkThreadList threadId none }, true)
    | none => (logic, false)

def post (delayTimer : FrameMessageDelay) (logicId : UInt32) (task : PluginTask Message Func) :
    PluginThreads Message Func :=
  if delayTimer.delaySeconds = 0 then logic.addMessage logicId task
  else { logic with frameTimers := logic.frameTimers ++ [⟨delayTimer, logicId, task⟩] }

def expire (timer : FrameTimer Message Func) : PluginThreads Message Func :=
  logic.addMessage timer.logicId timer.task

variable (tagThreadId : UInt16)

def doFrameMessage (message : Message) (delayTimer : FrameMessageDelay) :
    PluginThreads Message Func × Bool :=
  match logic.pluginWorkThreadList tagThreadId.toUInt32 with
  | none => (logic, false)
  | some workThreadId =>
      (logic.post delayTimer workThreadId.toUInt32 (.moduleLogic workThreadId message), true)

def sendFrameMessage (message : Message) (delayTimer : FrameMessageDelay) :
    PluginThreads Message Func × Bool :=
  if logic.moduleInitFinish = false then
    ({ logic with
      pluginWorkThreadBufferMessageList :=
        logic.pluginWorkThreadBufferMessageList ++ [⟨tagThreadId, message, delayTimer⟩] }, true)
  else logic.doFrameMessage tagThreadId message delayTimer

variable (delayTimer : FrameMessageDelay)

def doWorkThreadLogic (func : Func) : PluginThreads Message Func × Bool :=
  match logic.pluginWorkThreadList tagThreadId.toUInt32 with
  | none => (logic, false)
  | some _ => (logic.post delayTimer tagThreadId.toUInt32 (.threadFunction func), true)

def runWorkThreadLogic (func : Func) : PluginThreads Message Func × Bool :=
  if logic.moduleInitFinish = false then
    ({ logic with
      pluginWorkThreadBufferFuncList :=
        logic.pluginWorkThreadBufferFuncList ++ [⟨tagThreadId, delayTimer, func⟩] }, true)
  else logic.doWorkThreadLogic tagThreadId delayTimer func

def perform :
    PluginCall Message Func → PluginThreads Message Func × Bool
  | .createFrameWorkThread threadId => logic.createFrameWorkThread threadId
  | .sendFrameMessage tagThreadId message delayTimer =>
      logic.sendFrameMessage tagThreadId message delayTimer
  | .runWorkThreadLogic tagThreadId delayTimer func =>
      logic.runWorkThreadLogic tagThreadId delayTimer func

def performAll (logic : PluginThreads Message Func) :
    List (PluginCall Message Func) → PluginThreads Message Func × List Bool
  | [] => (logic, [])
  | call :: rest =>
      (((logic.perform call).1.performAll rest).1,
        (logic.perform call).2 :: ((logic.perform call).1.performAll rest).2)

def createBuffered : PluginThreads Message Func :=
  match logic.pluginWorkThreadList threadId with
  | some _ => logic
  | none => logic.addPluginThread threadId

def createThreads (threadCount : Nat) : PluginThreads Message Func :=
  let working := { logic with
    tms := (List.range threadCount).foldl
      (fun tms index => (tms.createLogic (UInt32.ofNat index)).1) logic.tms
    moduleInitFinish := true }
  let created := logic.pluginWorkThreadBufferList.foldl createBuffered working
  { created with tms := created.tms.start, pluginWorkThreadBufferList := [] }

def replayMessages : PluginThreads Message Func :=
  { logic.pluginWorkThreadBufferMessageList.foldl (fun logic event =>
      (logic.doFrameMessage event.tagThreadId event.message event.delayTimer).1) logic with
    pluginWorkThreadBufferMessageList := [] }

def replayFuncs : PluginThreads Message Func :=
  { logic.pluginWorkThreadBufferFuncList.foldl (fun logic event =>
      (logic.doWorkThreadLogic event.tagThreadId event.delayTimer event.func).1) logic with
    pluginWorkThreadBufferFuncList := [] }

def initWorkThreadLogic (threadCount : Nat) : PluginThreads Message Func :=
  (logic.createThreads threadCount).replayMessages.replayFuncs

def Owned : Prop :=
  ∀ threadId workThreadId, logic.pluginWorkThreadList threadId = some workThreadId →
    workThreadId = threadId.toUInt16 ∧ (logic.tms.mapLogicList threadId).isSome

structure Created (threadIds : List UInt32) (logic next : PluginThreads Message Func) : Prop where
  listed : ∀ threadId, (next.pluginWorkThreadList threadId).isSome ↔
    threadId ∈ threadIds ∨ (logic.pluginWorkThreadList threadId).isSome
  opened : ∀ threadId, (next.tms.mapLogicList threadId).isSome ↔
    threadId ∈ threadIds ∨ (logic.tms.mapLogicList threadId).isSome
  queues : ∀ threadId, next.tms.queueOf threadId = logic.tms.queueOf threadId
  owned : next.Owned
  phase : next.tms.tmsIsStart = logic.tms.tmsIsStart ∧ next.tms.tmsEvents = logic.tms.tmsEvents
  frame : next = { logic with
    pluginWorkThreadList := next.pluginWorkThreadList, tms := next.tms }

variable {logic}

theorem Created.kept {threadIds : List UInt32} {next : PluginThreads Message Func}
    (created : Created threadIds logic next) :
    next.threadCount = logic.threadCount ∧ next.moduleInitFinish = logic.moduleInitFinish ∧
    next.pluginWorkThreadBufferMessageList = logic.pluginWorkThreadBufferMessageList ∧
    next.pluginWorkThreadBufferFuncList = logic.pluginWorkThreadBufferFuncList := by
  rw [created.frame]
  exact ⟨rfl, rfl, rfl, rfl⟩

theorem addPluginThread_created (owned : logic.Owned) (threadId : UInt32) :
    Created [threadId] logic (logic.addPluginThread threadId) where
  listed other := by
    by_cases same : other = threadId <;> simp [addPluginThread, same]
  opened other := by
    rw [List.mem_singleton]
    exact TmsSchedule.createLogic_open logic.tms threadId other
  queues := TmsSchedule.createLogic_queueOf logic.tms threadId
  owned other workThreadId found := by
    have opened := TmsSchedule.createLogic_open logic.tms threadId other
    by_cases same : other = threadId
    · subst same
      simp only [addPluginThread, update_self, Option.some.injEq] at found
      exact ⟨found.symm, opened.mpr (.inl rfl)⟩
    · simp only [addPluginThread, update_of_ne same] at found
      obtain ⟨cut, before⟩ := owned other workThreadId found
      exact ⟨cut, opened.mpr (.inr before)⟩
  phase := TmsSchedule.createLogic_tmsIsStart logic.tms threadId
  frame := rfl

theorem createBuffered_created (owned : logic.Owned) (threadId : UInt32) :
    Created [threadId] logic (logic.createBuffered threadId) := by
  unfold createBuffered
  split
  next workThreadId found =>
    obtain ⟨_, opened⟩ := owned threadId workThreadId found
    refine ⟨fun other => ?_, fun other => ?_, fun _ => rfl, owned, ⟨rfl, rfl⟩, rfl⟩
    · by_cases same : other = threadId <;> simp [same, found]
    · by_cases same : other = threadId <;> simp [same, opened]
  next => exact addPluginThread_created owned threadId

theorem Created.trans {firstIds secondIds : List UInt32} {middle next : PluginThreads Message Func}
    (first : Created firstIds logic middle) (second : Created secondIds middle next) :
    Created (firstIds ++ secondIds) logic next where
  listed threadId := by
    rw [second.listed, first.listed, List.mem_append]
    tauto
  opened threadId := by
    rw [second.opened, first.opened, List.mem_append]
    tauto
  queues threadId := (second.queues threadId).trans (first.queues threadId)
  owned := second.owned
  phase := ⟨second.phase.1.trans first.phase.1, second.phase.2.trans first.phase.2⟩
  frame := by
    obtain frame := second.frame
    rw [first.frame] at frame
    exact frame

theorem foldl_createBuffered (owned : logic.Owned) (threadIds : List UInt32) :
    Created threadIds logic (threadIds.foldl createBuffered logic) := by
  induction threadIds generalizing logic with
  | nil => exact ⟨by simp, by simp, fun _ => rfl, owned, ⟨rfl, rfl⟩, rfl⟩
  | cons threadId rest ih =>
    have first := createBuffered_created owned threadId
    exact first.trans (ih first.owned)

variable (tms : TmsSchedule (PluginTask Message Func))

theorem createLogics_open (indices : List Nat) (threadId : UInt32) :
    ((indices.foldl (fun tms index => (tms.createLogic (UInt32.ofNat index)).1)
      tms).mapLogicList threadId).isSome ↔
      (∃ index ∈ indices, threadId = UInt32.ofNat index) ∨
        (tms.mapLogicList threadId).isSome := by
  induction indices generalizing tms with
  | nil => simp
  | cons index rest ih =>
    refine (ih _).trans ?_
    rw [TmsSchedule.createLogic_open]
    simp only [List.mem_cons, exists_eq_or_imp]
    rw [or_assoc]
    exact or_left_comm

theorem createLogics_quiet (indices : List Nat) :
    let created := indices.foldl (fun tms index => (tms.createLogic (UInt32.ofNat index)).1) tms
    (∀ threadId, created.queueOf threadId = tms.queueOf threadId) ∧
      created.tmsEvents = tms.tmsEvents := by
  induction indices generalizing tms with
  | nil => exact ⟨fun _ => rfl, rfl⟩
  | cons index rest ih =>
    obtain ⟨queues, events⟩ := ih (tms.createLogic (UInt32.ofNat index)).1
    exact ⟨fun threadId => (queues threadId).trans (TmsSchedule.createLogic_queueOf ..),
      events.trans (TmsSchedule.createLogic_tmsIsStart ..).2⟩

structure Ready (logic : PluginThreads Message Func) : Prop where
  finished : logic.moduleInitFinish = true
  started : logic.tms.tmsIsStart = true
  owned : logic.Owned

theorem Ready.addPluginThread (ready : logic.Ready) (threadId : UInt32) :
    (logic.addPluginThread threadId).Ready := by
  have added := addPluginThread_created ready.owned threadId
  exact ⟨ready.finished, added.phase.1.trans ready.started, added.owned⟩

structure Loading (logic : PluginThreads Message Func) : Prop where
  unfinished : logic.moduleInitFinish = false
  unlisted : logic.pluginWorkThreadList = fun _ => none
  fresh : logic.tms = TmsSchedule.init

structure ThreadsCreated (threadCount : Nat) (logic next : PluginThreads Message Func) : Prop where
  ready : next.Ready
  listed : ∀ threadId, (next.pluginWorkThreadList threadId).isSome ↔
    threadId ∈ logic.pluginWorkThreadBufferList
  opened : ∀ threadId, (next.tms.mapLogicList threadId).isSome ↔
    threadId ∈ logic.pluginWorkThreadBufferList ∨
      ∃ index < threadCount, threadId = UInt32.ofNat index
  queues : ∀ threadId, next.tms.queueOf threadId = []
  kept : next.threadCount = logic.threadCount ∧
    next.pluginWorkThreadBufferMessageList = logic.pluginWorkThreadBufferMessageList ∧
    next.pluginWorkThreadBufferFuncList = logic.pluginWorkThreadBufferFuncList

theorem createThreads_created (loading : logic.Loading) (threadCount : Nat) :
    ThreadsCreated threadCount logic (logic.createThreads threadCount) := by
  obtain ⟨quiet, events⟩ := createLogics_quiet logic.tms (List.range threadCount)
  have openings := createLogics_open logic.tms (List.range threadCount)
  dsimp only [createThreads]
  generalize (List.range threadCount).foldl
    (fun tms index => (tms.createLogic (UInt32.ofNat index)).1) logic.tms = tms at *
  have owned : { logic with tms := tms, moduleInitFinish := true }.Owned := by
    intro threadId workThreadId found
    simp [loading.unlisted] at found
  have created := foldl_createBuffered owned logic.pluginWorkThreadBufferList
  generalize logic.pluginWorkThreadBufferList.foldl createBuffered
    { logic with tms := tms, moduleInitFinish := true } = next at *
  have started := TmsSchedule.start_quiet
    (created.phase.2.trans (events.trans (congrArg TmsSchedule.tmsEvents loading.fresh)))
  obtain ⟨count, finished, messages, funcs⟩ := created.kept
  refine ⟨⟨?_, ?_, fun threadId workThreadId found => ?_⟩, fun threadId => ?_, fun threadId => ?_,
    fun threadId => ?_, ⟨count, messages, funcs⟩⟩
  · exact finished
  · rw [started]
  · obtain ⟨cut, opened⟩ := created.owned threadId workThreadId found
    exact ⟨cut, by rw [started]; exact opened⟩
  · refine (created.listed threadId).trans ?_
    simp [loading.unlisted]
  · rw [started]
    refine (created.opened threadId).trans ?_
    rw [openings, loading.fresh]
    simp [TmsSchedule.init]
  · rw [started]
    refine (created.queues threadId).trans ((quiet threadId).trans ?_)
    rw [loading.fresh]
    rfl

end PluginThreads

end PssAsio
