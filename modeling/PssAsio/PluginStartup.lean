import PssAsio.PluginThreadsCore

/-!
Calls of the plugins before and after `module_init_finish_` is set.
-/

namespace PssAsio

namespace PluginTask

def isMessage {Message Func : Type} : PluginTask Message Func → Bool
  | .moduleLogic _ _ => true
  | .threadFunction _ => false

end PluginTask

variable {Message Func : Type}

namespace PluginCall

def created : PluginCall Message Func → Option UInt32
  | .createFrameWorkThread threadId => some threadId
  | _ => none

def threadId : PluginCall Message Func → UInt32
  | .createFrameWorkThread threadId => threadId
  | .sendFrameMessage tagThreadId _ _ => tagThreadId.toUInt32
  | .runWorkThreadLogic tagThreadId _ _ => tagThreadId.toUInt32

def delaySeconds : PluginCall Message Func → Int
  | .createFrameWorkThread _ => 0
  | .sendFrameMessage _ _ delayTimer => delayTimer.delaySeconds
  | .runWorkThreadLogic _ delayTimer _ => delayTimer.delaySeconds

def message : PluginCall Message Func → Option (DelayPluginMessage Message)
  | .sendFrameMessage tagThreadId message delayTimer => some ⟨tagThreadId, message, delayTimer⟩
  | _ => none

def func : PluginCall Message Func → Option (DelayPluginFunc Func)
  | .runWorkThreadLogic tagThreadId delayTimer func => some ⟨tagThreadId, delayTimer, func⟩
  | _ => none

def taskOn (threadId : UInt32) : PluginCall Message Func → Option (PluginTask Message Func)
  | .createFrameWorkThread _ => none
  | .sendFrameMessage tagThreadId message _ =>
      if tagThreadId.toUInt32 = threadId then some (.moduleLogic tagThreadId message) else none
  | .runWorkThreadLogic tagThreadId _ func =>
      if tagThreadId.toUInt32 = threadId then some (.threadFunction func) else none

def CreatedBeforeUse : List UInt32 → List (PluginCall Message Func) → Prop
  | _, [] => True
  | known, .createFrameWorkThread threadId :: rest => CreatedBeforeUse (threadId :: known) rest
  | known, .sendFrameMessage tagThreadId _ _ :: rest =>
      tagThreadId.toUInt32 ∈ known ∧ CreatedBeforeUse known rest
  | known, .runWorkThreadLogic tagThreadId _ _ :: rest =>
      tagThreadId.toUInt32 ∈ known ∧ CreatedBeforeUse known rest

/-- No delays, 16-bit ids, and each thread created before it is used. -/
structure Admissible (threadCount : UInt16) (calls : List (PluginCall Message Func)) : Prop where
  immediate : ∀ call ∈ calls, call.delaySeconds = 0
  ranged : ∀ call ∈ calls, threadCount.toUInt32 ≤ call.threadId ∧ call.threadId.toNat < 65536
  used : CreatedBeforeUse [] calls

def Conflict : PluginCall Message Func → PluginCall Message Func → Prop
  | .createFrameWorkThread first, .createFrameWorkThread second => first = second
  | .runWorkThreadLogic first _ _, .sendFrameMessage second _ _ => first = second
  | _, _ => False

instance (first second : PluginCall Message Func) : Decidable (Conflict first second) := by
  unfold Conflict
  split <;> infer_instance

instance decidableCreatedBeforeUse :
    ∀ (known : List UInt32) (calls : List (PluginCall Message Func)),
      Decidable (CreatedBeforeUse known calls)
  | _, [] => inferInstanceAs (Decidable True)
  | known, .createFrameWorkThread threadId :: rest =>
      decidableCreatedBeforeUse (threadId :: known) rest
  | known, .sendFrameMessage _ _ _ :: rest | known, .runWorkThreadLogic _ _ _ :: rest =>
      have := decidableCreatedBeforeUse known rest
      inferInstanceAs (Decidable (_ ∧ _))

theorem createdBeforeUse_cons {known : List UInt32} {call : PluginCall Message Func}
    {rest : List (PluginCall Message Func)} (used : CreatedBeforeUse known (call :: rest)) :
    (call.created = none → call.threadId ∈ known) ∧
    ∃ later, CreatedBeforeUse later rest ∧
      ∀ threadId ∈ later, call.created = some threadId ∨ threadId ∈ known := by
  cases call with
  | createFrameWorkThread threadId =>
    refine ⟨(fun absurd => nomatch absurd), threadId :: known, used, fun other member => ?_⟩
    rcases List.mem_cons.mp member with same | before
    · exact .inl (congrArg some same.symm)
    · exact .inr before
  | sendFrameMessage | runWorkThreadLogic =>
    exact ⟨fun _ => used.1, known, used.2, fun _ member => .inr member⟩

end PluginCall

namespace PluginThreads

open PluginCall

def messageOn (threadId : UInt32) (event : DelayPluginMessage Message) :
    Option (PluginTask Message Func) :=
  if event.tagThreadId.toUInt32 = threadId then
    some (.moduleLogic event.tagThreadId event.message)
  else none

def funcOn (threadId : UInt32) (event : DelayPluginFunc Func) : Option (PluginTask Message Func) :=
  if event.tagThreadId.toUInt32 = threadId then some (.threadFunction event.func) else none

structure Posted (logic : PluginThreads Message Func) (threadId : UInt32)
    (task : PluginTask Message Func) (next : PluginThreads Message Func) : Prop where
  ready : next.Ready
  queues : ∀ other, next.tms.queueOf other =
    logic.tms.queueOf other ++ if threadId = other then [task] else []
  frame : next = { logic with tms := next.tms }

variable {logic next middle : PluginThreads Message Func} {call : PluginCall Message Func}

theorem addMessage_posted (ready : logic.Ready) {threadId : UInt32}
    (opened : (logic.tms.mapLogicList threadId).isSome) (task : PluginTask Message Func) :
    Posted logic threadId task (logic.addMessage threadId task) := by
  have posted := TmsSchedule.addMessage_started ready.started opened task
  refine ⟨⟨ready.finished, ?_, fun other workThreadId found => ?_⟩, fun other => ?_, rfl⟩
  · simp [addMessage, posted, ready.started]
  · obtain ⟨cut, before⟩ := ready.owned other workThreadId found
    refine ⟨cut, ?_⟩
    by_cases same : other = threadId <;> simp [addMessage, posted, same, before]
  · by_cases same : threadId = other
    · subst same
      simp [addMessage, posted, TmsSchedule.queueOf]
    · have apart : other ≠ threadId := fun equal => same equal.symm
      simp [addMessage, posted, TmsSchedule.queueOf, same, apart]

theorem doFrameMessage_posted (ready : logic.Ready) {tagThreadId : UInt16}
    (listed : (logic.pluginWorkThreadList tagThreadId.toUInt32).isSome) (message : Message)
    {delayTimer : FrameMessageDelay} (immediate : delayTimer.delaySeconds = 0) :
    (logic.doFrameMessage tagThreadId message delayTimer).2 = true ∧
    Posted logic tagThreadId.toUInt32 (.moduleLogic tagThreadId message)
      (logic.doFrameMessage tagThreadId message delayTimer).1 := by
  obtain ⟨workThreadId, found⟩ := Option.isSome_iff_exists.mp listed
  obtain ⟨cut, opened⟩ := ready.owned _ _ found
  have own : workThreadId = tagThreadId := by rw [cut, UInt16.toUInt16_toUInt32]
  subst own
  simp only [doFrameMessage, found, post, immediate, if_true]
  exact ⟨trivial, addMessage_posted ready opened _⟩

theorem doWorkThreadLogic_posted (ready : logic.Ready) {tagThreadId : UInt16}
    (listed : (logic.pluginWorkThreadList tagThreadId.toUInt32).isSome)
    {delayTimer : FrameMessageDelay} (immediate : delayTimer.delaySeconds = 0) (func : Func) :
    (logic.doWorkThreadLogic tagThreadId delayTimer func).2 = true ∧
    Posted logic tagThreadId.toUInt32 (.threadFunction func)
      (logic.doWorkThreadLogic tagThreadId delayTimer func).1 := by
  obtain ⟨workThreadId, found⟩ := Option.isSome_iff_exists.mp listed
  obtain ⟨_, opened⟩ := ready.owned _ _ found
  simp only [doWorkThreadLogic, found, post, immediate, if_true]
  exact ⟨trivial, addMessage_posted ready opened _⟩

structure Performed (logic : PluginThreads Message Func) (call : PluginCall Message Func)
    (next : PluginThreads Message Func) (answer : Bool) : Prop where
  ready : next.Ready
  count : next.threadCount = logic.threadCount
  listed : ∀ threadId, (next.pluginWorkThreadList threadId).isSome ↔
    call.created = some threadId ∨ (logic.pluginWorkThreadList threadId).isSome
  queues : ∀ threadId, next.tms.queueOf threadId =
    logic.tms.queueOf threadId ++ (call.taskOn threadId).toList
  answered : answer = true ↔
    ∀ threadId, call.created = some threadId → logic.pluginWorkThreadList threadId = none

theorem Posted.performed {threadId : UInt32} {task : PluginTask Message Func} {answer : Bool}
    (posted : Posted logic threadId task next) (plain : call.created = none)
    (tasks : ∀ other, call.taskOn other = if threadId = other then some task else none)
    (answered : answer = true) : Performed logic call next answer where
  ready := posted.ready
  count := by rw [posted.frame]
  listed other := by
    rw [posted.frame]
    simp [plain]
  queues other := by
    rw [posted.queues, tasks]
    by_cases same : threadId = other <;> simp [same]
  answered := by simp [answered, plain]

theorem perform_ready (ready : logic.Ready) (immediate : call.delaySeconds = 0)
    (ranged : logic.threadCount.toUInt32 ≤ call.threadId)
    (known : call.created = none → (logic.pluginWorkThreadList call.threadId).isSome) :
    Performed logic call (logic.perform call).1 (logic.perform call).2 := by
  cases call with
  | createFrameWorkThread threadId =>
    have allowed : ¬ threadId < logic.threadCount.toUInt32 := UInt32.not_lt.mpr ranged
    simp only [perform, createFrameWorkThread, allowed, if_false, ready.finished,
      Bool.true_eq_false]
    cases found : logic.pluginWorkThreadList threadId with
    | some workThreadId =>
      refine ⟨ready, rfl, fun other => ?_, fun other => (List.append_nil _).symm, ?_⟩
      · by_cases same : threadId = other
        · simp [← same, found]
        · simp [PluginCall.created, same]
      · simp [PluginCall.created, found]
    | none =>
      have added := addPluginThread_created ready.owned threadId
      refine ⟨ready.addPluginThread threadId, added.kept.1,
        fun other => (added.listed other).trans ?_, fun other => ?_, ?_⟩
      · have swap : other = threadId ↔ threadId = other := eq_comm
        simp [PluginCall.created, swap]
      · exact (added.queues other).trans (List.append_nil _).symm
      · simp [PluginCall.created, found]
  | sendFrameMessage tagThreadId message delayTimer =>
    obtain ⟨answered, posted⟩ := doFrameMessage_posted ready (known rfl) message immediate
    simp only [perform, sendFrameMessage, ready.finished, Bool.true_eq_false, if_false]
    exact posted.performed rfl (fun _ => rfl) answered
  | runWorkThreadLogic tagThreadId delayTimer func =>
    obtain ⟨answered, posted⟩ := doWorkThreadLogic_posted ready (known rfl) immediate func
    simp only [perform, runWorkThreadLogic, ready.finished, Bool.true_eq_false, if_false]
    exact posted.performed rfl (fun _ => rfl) answered

structure PerformedAll (logic : PluginThreads Message Func) (calls : List (PluginCall Message Func))
    (next : PluginThreads Message Func) (answers : List Bool) : Prop where
  ready : next.Ready
  listed : ∀ threadId, (next.pluginWorkThreadList threadId).isSome ↔
    threadId ∈ calls.filterMap created ∨ (logic.pluginWorkThreadList threadId).isSome
  queues : ∀ threadId, next.tms.queueOf threadId =
    logic.tms.queueOf threadId ++ calls.filterMap (taskOn threadId)
  answered : answers = calls.map (fun _ => true) ↔
    (calls.filterMap created).Nodup ∧
      ∀ threadId ∈ calls.filterMap created, logic.pluginWorkThreadList threadId = none

theorem Performed.cons {rest : List (PluginCall Message Func)} {answer : Bool} {answers : List Bool}
    (first : Performed logic call middle answer) (later : PerformedAll middle rest next answers) :
    PerformedAll logic (call :: rest) next (answer :: answers) where
  ready := later.ready
  listed threadId := by
    rw [later.listed, first.listed]
    cases made : call.created with
    | none => simp [made]
    | some other =>
      have swap : other = threadId ↔ threadId = other := eq_comm
      simp only [List.filterMap_cons, made, List.mem_cons, Option.some.injEq, swap]
      tauto
  queues threadId := by
    rw [later.queues, first.queues]
    cases task : call.taskOn threadId <;> simp [task]
  answered := by
    have unlisted : ∀ threadId, middle.pluginWorkThreadList threadId = none ↔
        call.created ≠ some threadId ∧ logic.pluginWorkThreadList threadId = none := by
      intro threadId
      rw [← Option.not_isSome_iff_eq_none, first.listed, not_or, Option.not_isSome_iff_eq_none]
    rw [List.map_cons, List.cons.injEq, later.answered, first.answered]
    cases made : call.created with
    | none => simp [made, unlisted]
    | some other =>
      simp only [List.filterMap_cons, made, unlisted, List.nodup_cons, List.mem_cons]
      constructor
      · rintro ⟨fresh, distinct, apart⟩
        refine ⟨⟨fun member => (apart other member).1 rfl, distinct⟩, ?_⟩
        rintro threadId (rfl | member)
        · exact fresh threadId rfl
        · exact (apart threadId member).2
      · rintro ⟨⟨outside, distinct⟩, fresh⟩
        refine ⟨fun threadId same => fresh threadId (.inl (Option.some.inj same).symm), distinct,
          fun threadId member => ⟨fun same => ?_, fresh threadId (.inr member)⟩⟩
        exact outside (Option.some.inj same ▸ member)

theorem performAll_ready (ready : logic.Ready) {calls : List (PluginCall Message Func)}
    (immediate : ∀ call ∈ calls, call.delaySeconds = 0)
    (ranged : ∀ call ∈ calls, logic.threadCount.toUInt32 ≤ call.threadId) {known : List UInt32}
    (used : CreatedBeforeUse known calls)
    (listed : ∀ threadId ∈ known, (logic.pluginWorkThreadList threadId).isSome) :
    PerformedAll logic calls (logic.performAll calls).1 (logic.performAll calls).2 := by
  induction calls generalizing logic known with
  | nil => exact ⟨ready, by simp [performAll], by simp [performAll], by simp [performAll]⟩
  | cons call rest ih =>
    obtain ⟨known, later, used, grown⟩ := createdBeforeUse_cons used
    have first := perform_ready ready (immediate call (.head _)) (ranged call (.head _))
      fun plain => listed _ (known plain)
    refine first.cons (ih first.ready (fun call member => immediate call (.tail _ member)) ?_
      used ?_)
    · intro other member
      rw [first.count]
      exact ranged other (.tail _ member)
    · intro threadId member
      exact (first.listed threadId).mpr ((grown threadId member).imp_right (listed threadId))

structure Kept (calls : List (PluginCall Message Func)) (logic next : PluginThreads Message Func) :
    Prop where
  loading : next.Loading
  count : next.threadCount = logic.threadCount
  threads : next.pluginWorkThreadBufferList = logic.pluginWorkThreadBufferList ++
    (calls.filterMap created).filter (logic.threadCount.toUInt32 ≤ ·)
  messages : next.pluginWorkThreadBufferMessageList =
    logic.pluginWorkThreadBufferMessageList ++ calls.filterMap message
  funcs : next.pluginWorkThreadBufferFuncList =
    logic.pluginWorkThreadBufferFuncList ++ calls.filterMap func

theorem Kept.trans {first second : List (PluginCall Message Func)}
    (before : Kept first logic middle) (after : Kept second middle next) :
    Kept (first ++ second) logic next where
  loading := after.loading
  count := after.count.trans before.count
  threads := by
    rw [after.threads, before.threads, before.count]
    simp
  messages := by
    rw [after.messages, before.messages]
    simp
  funcs := by
    rw [after.funcs, before.funcs]
    simp

theorem perform_loading (loading : logic.Loading) (call : PluginCall Message Func) :
    Kept [call] logic (logic.perform call).1 := by
  have unfinished := loading.unfinished
  cases call with
  | createFrameWorkThread threadId =>
    simp only [perform, createFrameWorkThread, unfinished, if_true]
    split
    next below =>
      refine ⟨loading, rfl, ?_, (List.append_nil _).symm, (List.append_nil _).symm⟩
      simp [PluginCall.created, UInt32.not_le.mpr below]
    next allowed =>
      refine ⟨⟨rfl, loading.unlisted, loading.fresh⟩, rfl, ?_, (List.append_nil _).symm,
        (List.append_nil _).symm⟩
      simp [PluginCall.created, UInt32.not_lt.mp allowed]
  | sendFrameMessage tagThreadId text delayTimer =>
    simp only [perform, sendFrameMessage, unfinished, if_true]
    exact ⟨⟨rfl, loading.unlisted, loading.fresh⟩, rfl, (List.append_nil _).symm, rfl,
      (List.append_nil _).symm⟩
  | runWorkThreadLogic tagThreadId delayTimer work =>
    simp only [perform, runWorkThreadLogic, unfinished, if_true]
    exact ⟨⟨rfl, loading.unlisted, loading.fresh⟩, rfl, (List.append_nil _).symm,
      (List.append_nil _).symm, rfl⟩

theorem performAll_loading (loading : logic.Loading) (calls : List (PluginCall Message Func)) :
    Kept calls logic (logic.performAll calls).1 := by
  induction calls generalizing logic with
  | nil => exact ⟨loading, rfl, by simp [performAll], by simp [performAll], by simp [performAll]⟩
  | cons call rest ih =>
    have first := perform_loading loading call
    exact first.trans (ih first.loading)

theorem performAll_loading_answers (loading : logic.Loading)
    {calls : List (PluginCall Message Func)}
    (ranged : ∀ call ∈ calls, logic.threadCount.toUInt32 ≤ call.threadId) :
    (logic.performAll calls).2 = calls.map fun _ => true := by
  induction calls generalizing logic with
  | nil => rfl
  | cons call rest ih =>
    have first := perform_loading loading call
    have answered : (logic.perform call).2 = true := by
      have allowed : ¬ call.threadId < logic.threadCount.toUInt32 :=
        UInt32.not_lt.mpr (ranged call (.head _))
      cases call with
      | createFrameWorkThread threadId =>
        have above : ¬ threadId < logic.threadCount.toUInt32 := allowed
        simp [perform, createFrameWorkThread, loading.unfinished, above]
      | sendFrameMessage => simp [perform, sendFrameMessage, loading.unfinished]
      | runWorkThreadLogic => simp [perform, runWorkThreadLogic, loading.unfinished]
    have later := ih first.loading fun other member => by
      rw [first.count]
      exact ranged other (.tail _ member)
    exact congrArg₂ List.cons answered later

structure Replayed {Event : Type} (target : Event → UInt32)
    (task : Event → PluginTask Message Func) (events : List Event)
    (logic next : PluginThreads Message Func) : Prop where
  ready : next.Ready
  frame : next = { logic with tms := next.tms }
  queues : ∀ threadId, next.tms.queueOf threadId =
    logic.tms.queueOf threadId ++ events.filterMap fun event =>
      if target event = threadId then some (task event) else none

theorem Replayed.kept {Event : Type} {target : Event → UInt32}
    {task : Event → PluginTask Message Func} {events : List Event}
    (replayed : Replayed target task events logic next) :
    next.threadCount = logic.threadCount ∧
    next.pluginWorkThreadList = logic.pluginWorkThreadList ∧
    next.pluginWorkThreadBufferFuncList = logic.pluginWorkThreadBufferFuncList := by
  rw [replayed.frame]
  exact ⟨rfl, rfl, rfl⟩

theorem Posted.replayed {Event : Type} {target : Event → UInt32}
    {task : Event → PluginTask Message Func} {event : Event} {rest : List Event}
    (first : Posted logic (target event) (task event) middle)
    (later : Replayed target task rest middle next) :
    Replayed target task (event :: rest) logic next where
  ready := later.ready
  frame := by
    obtain frame := later.frame
    rw [first.frame] at frame
    exact frame
  queues threadId := by
    rw [later.queues, first.queues]
    by_cases same : target event = threadId <;> simp [same]

theorem foldl_replayed {Event : Type}
    {replay : PluginThreads Message Func → Event → PluginThreads Message Func}
    {target : Event → UInt32} {task : Event → PluginTask Message Func} {events : List Event}
    (posts : ∀ logic : PluginThreads Message Func, ∀ event ∈ events, logic.Ready →
      (logic.pluginWorkThreadList (target event)).isSome → Posted logic (target event) (task event)
      (replay logic event)) (ready : logic.Ready)
    (listed : ∀ event ∈ events, (logic.pluginWorkThreadList (target event)).isSome) :
    Replayed target task events logic (events.foldl replay logic) := by
  induction events generalizing logic with
  | nil => exact ⟨ready, rfl, fun _ => (List.append_nil _).symm⟩
  | cons event rest ih =>
    have first := posts logic event (.head _) ready (listed event (.head _))
    refine first.replayed (ih (fun logic event member => posts logic event (.tail _ member))
      first.ready fun later member => ?_)
    rw [first.frame]
    exact listed later (.tail _ member)

theorem replayMessages_queues (ready : logic.Ready)
    (messages : ∀ event ∈ logic.pluginWorkThreadBufferMessageList, event.delayTimer.delaySeconds = 0
      ∧ (logic.pluginWorkThreadList event.tagThreadId.toUInt32).isSome) :
    logic.replayMessages.Ready ∧
    logic.replayMessages.threadCount = logic.threadCount ∧
    logic.replayMessages.pluginWorkThreadList = logic.pluginWorkThreadList ∧
    logic.replayMessages.pluginWorkThreadBufferFuncList = logic.pluginWorkThreadBufferFuncList ∧
    ∀ threadId, logic.replayMessages.tms.queueOf threadId = logic.tms.queueOf threadId ++
      logic.pluginWorkThreadBufferMessageList.filterMap (messageOn threadId) := by
  have sent : Replayed (fun event => event.tagThreadId.toUInt32)
      (fun event => .moduleLogic event.tagThreadId event.message)
      logic.pluginWorkThreadBufferMessageList logic
      (logic.pluginWorkThreadBufferMessageList.foldl (fun logic event =>
        (logic.doFrameMessage event.tagThreadId event.message event.delayTimer).1) logic) :=
    foldl_replayed (fun _ event member ready listed =>
      (doFrameMessage_posted ready listed event.message (messages event member).1).2) ready
      fun event member => (messages event member).2
  unfold replayMessages
  obtain ⟨count, list, funcs⟩ := sent.kept
  exact ⟨⟨sent.ready.finished, sent.ready.started, sent.ready.owned⟩, count, list, funcs,
    sent.queues⟩

theorem replayFuncs_queues (ready : logic.Ready)
    (funcs : ∀ event ∈ logic.pluginWorkThreadBufferFuncList, event.delayTimer.delaySeconds = 0 ∧
      (logic.pluginWorkThreadList event.tagThreadId.toUInt32).isSome) :
    logic.replayFuncs.Ready ∧
    logic.replayFuncs.threadCount = logic.threadCount ∧
    logic.replayFuncs.pluginWorkThreadList = logic.pluginWorkThreadList ∧
    ∀ threadId, logic.replayFuncs.tms.queueOf threadId = logic.tms.queueOf threadId ++
      logic.pluginWorkThreadBufferFuncList.filterMap (funcOn threadId) := by
  have handed : Replayed (fun event => event.tagThreadId.toUInt32)
      (fun event => .threadFunction event.func) logic.pluginWorkThreadBufferFuncList logic
      (logic.pluginWorkThreadBufferFuncList.foldl (fun logic event =>
        (logic.doWorkThreadLogic event.tagThreadId event.delayTimer event.func).1) logic) :=
    foldl_replayed (fun _ event member ready listed =>
      (doWorkThreadLogic_posted ready listed (funcs event member).1 event.func).2) ready
      fun event member => (funcs event member).2
  unfold replayFuncs
  obtain ⟨count, list, _⟩ := handed.kept
  exact ⟨⟨handed.ready.finished, handed.ready.started, handed.ready.owned⟩, count, list,
    handed.queues⟩

theorem initWorkThreadLogic_replayed (loading : logic.Loading) (threadCount : Nat)
    (messages : ∀ event ∈ logic.pluginWorkThreadBufferMessageList, event.delayTimer.delaySeconds = 0
      ∧ event.tagThreadId.toUInt32 ∈ logic.pluginWorkThreadBufferList)
    (funcs : ∀ event ∈ logic.pluginWorkThreadBufferFuncList, event.delayTimer.delaySeconds = 0 ∧
      event.tagThreadId.toUInt32 ∈ logic.pluginWorkThreadBufferList) :
    (logic.initWorkThreadLogic threadCount).Ready ∧
    (logic.initWorkThreadLogic threadCount).threadCount = logic.threadCount ∧
    (∀ threadId, ((logic.initWorkThreadLogic threadCount).pluginWorkThreadList threadId).isSome ↔
      threadId ∈ logic.pluginWorkThreadBufferList) ∧
    (∀ threadId, (logic.initWorkThreadLogic threadCount).tms.queueOf threadId =
      (logic.pluginWorkThreadBufferMessageList.filterMap (messageOn threadId)) ++
        logic.pluginWorkThreadBufferFuncList.filterMap (funcOn threadId)) := by
  have threads := createThreads_created loading threadCount
  obtain ⟨count, keptMessages, keptFuncs⟩ := threads.kept
  unfold initWorkThreadLogic
  obtain ⟨told, toldCount, sameList, sameFuncs, sent⟩ := replayMessages_queues threads.ready
    fun event member => by
      rw [keptMessages] at member
      exact ⟨(messages event member).1, (threads.listed _).mpr (messages event member).2⟩
  obtain ⟨ready, finalCount, finalList, handed⟩ := replayFuncs_queues told fun event member => by
    rw [sameFuncs, keptFuncs] at member
    rw [sameList]
    exact ⟨(funcs event member).1, (threads.listed _).mpr (funcs event member).2⟩
  refine ⟨ready, finalCount.trans (toldCount.trans count), fun threadId => ?_, fun threadId => ?_⟩
  · rw [finalList, sameList]
    exact threads.listed threadId
  · rw [handed, sent, threads.queues, keptMessages, sameFuncs, keptFuncs]
    rfl

end PluginThreads

namespace PluginCall

theorem filter_append_filter_not_eq_iff {α : Type} (kind : α → Bool) (list : List α) :
    list.filter kind ++ list.filter (fun item => !kind item) = list ↔
      list.Pairwise fun first second => kind second = true → kind first = true := by
  induction list with
  | nil => simp
  | cons head rest ih =>
    rw [List.pairwise_cons]
    cases chosen : kind head with
    | true => simp [chosen, ih]
    | false =>
      simp only [List.filter_cons, chosen, Bool.not_false, if_true, Bool.false_eq_true, if_false]
      constructor
      · intro sorted
        have empty : rest.filter kind = [] := by
          -- the first item of the first kind would have to be `head`
          cases front : rest.filter kind with
          | nil => rfl
          | cons item others =>
            rw [front] at sorted
            have same : item = head := (List.cons.inj sorted).1
            have member : item ∈ rest.filter kind := front ▸ .head _
            rw [same] at member
            simp [chosen] at member
        rw [empty] at sorted ih
        refine ⟨fun item member other => ?_, ih.mp (List.cons.inj sorted).2⟩
        exact absurd other (List.filter_eq_nil_iff.mp empty item member)
      · rintro ⟨last, sorted⟩
        have empty : rest.filter kind = [] :=
          List.filter_eq_nil_iff.mpr fun item member chosen => nomatch last item member chosen
        have equal := ih.mpr sorted
        rw [empty] at equal ⊢
        exact congrArg (head :: ·) equal

variable (calls : List (PluginCall Message Func))

theorem message_tasks (threadId : UInt32) :
    (calls.filterMap message).filterMap (PluginThreads.messageOn threadId) =
      (calls.filterMap (taskOn threadId)).filter PluginTask.isMessage := by
  rw [List.filterMap_filterMap, List.filter_filterMap]
  congr 1
  funext call
  cases call with
  | createFrameWorkThread => rfl
  | sendFrameMessage tagThreadId text delayTimer =>
    simp only [message, taskOn, PluginThreads.messageOn, Option.bind_some]
    split <;> rfl
  | runWorkThreadLogic tagThreadId delayTimer work =>
    simp only [message, taskOn, Option.bind_none]
    split <;> rfl

theorem func_tasks (threadId : UInt32) :
    (calls.filterMap func).filterMap (PluginThreads.funcOn threadId) =
      (calls.filterMap (taskOn threadId)).filter fun task => !task.isMessage := by
  rw [List.filterMap_filterMap, List.filter_filterMap]
  congr 1
  funext call
  cases call with
  | createFrameWorkThread => rfl
  | sendFrameMessage tagThreadId text delayTimer =>
    simp only [func, taskOn, Option.bind_none]
    split <;> rfl
  | runWorkThreadLogic tagThreadId delayTimer work =>
    simp only [func, taskOn, PluginThreads.funcOn, Option.bind_some]
    split <;> rfl

theorem not_conflict_iff (first second : PluginCall Message Func) :
    ¬ Conflict first second ↔
      (∀ one, created first = some one → ∀ two, created second = some two → one ≠ two) ∧
      ∀ threadId, ∀ one, taskOn threadId first = some one →
        ∀ two, taskOn threadId second = some two → two.isMessage = true → one.isMessage = true := by
  cases first with
  | createFrameWorkThread one =>
    cases second <;> simp [Conflict, created, taskOn]
  | sendFrameMessage one text delayTimer =>
    cases second <;> simp [Conflict, created, taskOn, PluginTask.isMessage]
  | runWorkThreadLogic one delayTimer work =>
    cases second with
    | sendFrameMessage two =>
      have same : one = two ↔ two.toUInt32 = one.toUInt32 :=
        eq_comm.trans UInt16.toUInt32_inj.symm
      simp [Conflict, created, taskOn, PluginTask.isMessage, same]
    | createFrameWorkThread => simp [Conflict, created, taskOn]
    | runWorkThreadLogic => simp [Conflict, created, taskOn, PluginTask.isMessage]

theorem conflictFree_iff :
    (calls.Pairwise fun first second => ¬ Conflict first second) ↔
      (calls.filterMap created).Nodup ∧
      ∀ threadId, (calls.filterMap (taskOn threadId)).Pairwise fun first second =>
        second.isMessage = true → first.isMessage = true := by
  simp only [not_conflict_iff, List.Nodup, List.pairwise_filterMap, List.pairwise_and_iff]
  refine and_congr_right fun _ => ?_
  simp only [List.pairwise_iff_forall_sublist]
  exact ⟨fun sorted threadId _ _ ordered => sorted ordered threadId,
    fun sorted _ _ ordered threadId => sorted threadId ordered⟩

end PluginCall

namespace PluginThreads

open PluginCall

theorem loading_loading (threadCount : Nat) :
    (loading threadCount : PluginThreads Message Func).Loading := ⟨rfl, rfl, rfl⟩

variable {calls : List (PluginCall Message Func)} {threadId : UInt32}

theorem mem_created :
    threadId ∈ calls.filterMap created ↔ .createFrameWorkThread threadId ∈ calls := by
  rw [List.mem_filterMap]
  constructor
  · rintro ⟨call, member, named⟩
    cases call <;> cases named
    exact member
  · exact fun member => ⟨_, member, rfl⟩

theorem taskOn_eq_none {call : PluginCall Message Func} (other : call.threadId ≠ threadId) :
    call.taskOn threadId = none := by
  cases call with
  | createFrameWorkThread => rfl
  | sendFrameMessage => exact if_neg other
  | runWorkThreadLogic => exact if_neg other

theorem used_mem_created {known : List UInt32} (used : CreatedBeforeUse known calls)
    {call : PluginCall Message Func} (member : call ∈ calls) :
    call.threadId ∈ known ∨ call.threadId ∈ calls.filterMap created := by
  induction calls generalizing known with
  | nil => cases member
  | cons first rest ih =>
    obtain ⟨direct, later, used, grown⟩ := createdBeforeUse_cons used
    have inclusion : ∀ threadId, threadId ∈ rest.filterMap created →
        threadId ∈ (first :: rest).filterMap created := fun threadId found => by
      obtain ⟨made, member, named⟩ := List.mem_filterMap.mp found
      exact List.mem_filterMap.mpr ⟨made, .tail _ member, named⟩
    rcases List.mem_cons.mp member with rfl | member
    · cases made : call.created with
      | none => exact .inl (direct made)
      | some threadId =>
        cases call <;> cases made
        exact .inr (.head _)
    · rcases ih used member with before | created
      · rcases grown _ before with made | known
        · exact .inr (List.mem_filterMap.mpr ⟨first, .head _, made⟩)
        · exact .inl known
      · exact .inr (inclusion _ created)

theorem buffered_queues (threadCount : Nat)
    (admissible : Admissible (UInt16.ofNat threadCount) calls) :
    let finish := ((loading threadCount : PluginThreads Message Func).performAll
      calls).1.initWorkThreadLogic threadCount
    finish.Ready ∧
    (∀ threadId ∈ calls.filterMap created, (finish.pluginWorkThreadList threadId).isSome) ∧
    ∀ threadId, finish.tms.queueOf threadId =
      (calls.filterMap (taskOn threadId)).filter PluginTask.isMessage ++
        (calls.filterMap (taskOn threadId)).filter fun task => !task.isMessage := by
  intro finish
  have kept := performAll_loading (loading_loading threadCount) calls
  have threads : ((loading threadCount : PluginThreads Message Func).performAll
      calls).1.pluginWorkThreadBufferList = calls.filterMap created := by
    refine kept.threads.trans (List.filter_eq_self.mpr fun threadId member => ?_)
    obtain ⟨call, made, named⟩ := List.mem_filterMap.mp member
    have ranged := (admissible.ranged call made).1
    cases call <;> cases named
    exact decide_eq_true ranged
  have usable : ∀ call ∈ calls, call.threadId ∈ calls.filterMap created := fun call member =>
    (used_mem_created admissible.used member).resolve_left List.not_mem_nil
  obtain ⟨ready, _, listed, queues⟩ := initWorkThreadLogic_replayed kept.loading threadCount
    (fun event member => by
      rw [kept.messages] at member
      rw [threads]
      obtain ⟨call, made, named⟩ := List.mem_filterMap.mp member
      have immediate := admissible.immediate call made
      have used := usable call made
      cases call <;> cases named
      exact ⟨immediate, used⟩)
    (fun event member => by
      rw [kept.funcs] at member
      rw [threads]
      obtain ⟨call, made, named⟩ := List.mem_filterMap.mp member
      have immediate := admissible.immediate call made
      have used := usable call made
      cases call <;> cases named
      exact ⟨immediate, used⟩)
  refine ⟨ready, fun threadId member => (listed threadId).mpr (threads ▸ member),
    fun threadId => (queues threadId).trans ?_⟩
  rw [kept.messages, kept.funcs, ← message_tasks, ← func_tasks]
  rfl

theorem direct_queues (threadCount : Nat)
    (admissible : Admissible (UInt16.ofNat threadCount) calls) :
    let direct := ((loading threadCount : PluginThreads Message Func).initWorkThreadLogic
      threadCount).performAll calls
    direct.1.Ready ∧
    (∀ threadId ∈ calls.filterMap created, (direct.1.pluginWorkThreadList threadId).isSome) ∧
    (∀ threadId, direct.1.tms.queueOf threadId = calls.filterMap (taskOn threadId)) ∧
    (direct.2 = calls.map (fun _ => true) ↔ (calls.filterMap created).Nodup) := by
  intro direct
  obtain ⟨ready, count, listed, queues⟩ := initWorkThreadLogic_replayed
    (loading_loading threadCount : (loading threadCount : PluginThreads Message Func).Loading)
    threadCount (fun _ member => nomatch member) (fun _ member => nomatch member)
  have unlisted : ∀ threadId, ((loading threadCount : PluginThreads Message
      Func).initWorkThreadLogic threadCount).pluginWorkThreadList threadId = none :=
    fun threadId => Option.not_isSome_iff_eq_none.mp fun found =>
      List.not_mem_nil ((listed threadId).mp found)
  have performed := performAll_ready ready admissible.immediate
    (fun call member => by
      rw [count]
      exact (admissible.ranged call member).1)
    admissible.used (fun _ member => nomatch member)
  refine ⟨performed.ready, fun threadId member => (performed.listed threadId).mpr (.inl member),
    fun threadId => ?_, performed.answered.trans (and_iff_left fun threadId _ => unlisted threadId)⟩
  rw [performed.queues, queues]
  rfl

theorem Ready.queue_eq {logic : PluginThreads Message Func} (ready : logic.Ready)
    (listed : (logic.pluginWorkThreadList threadId).isSome) :
    logic.tms.mapLogicList threadId = some (logic.tms.queueOf threadId) := by
  obtain ⟨workThreadId, found⟩ := Option.isSome_iff_exists.mp listed
  obtain ⟨queue, opened⟩ := Option.isSome_iff_exists.mp (ready.owned threadId workThreadId found).2
  simp [TmsSchedule.queueOf, opened]

/-- Kept and direct calls leave the same exactly if no two calls are in conflict. -/
theorem buffered_iff_conflictFree (threadCount : Nat) (calls : List (PluginCall Message Func))
    (admissible : Admissible (UInt16.ofNat threadCount) calls) :
    let buffered := (loading threadCount : PluginThreads Message Func).performAll calls
    let direct := ((loading threadCount : PluginThreads Message Func).initWorkThreadLogic
      threadCount).performAll calls
    (buffered.2 = direct.2 ∧
      ∀ threadId, .createFrameWorkThread threadId ∈ calls →
        (buffered.1.initWorkThreadLogic threadCount).tms.mapLogicList threadId =
          direct.1.tms.mapLogicList threadId) ↔
      calls.Pairwise fun first second => ¬ Conflict first second := by
  intro buffered direct
  obtain ⟨readyB, listedB, queuesB⟩ := buffered_queues threadCount admissible
  obtain ⟨readyD, listedD, queuesD, answers⟩ := direct_queues threadCount admissible
  have kept : buffered.2 = calls.map fun _ => true :=
    performAll_loading_answers (loading_loading threadCount) fun call member =>
      (admissible.ranged call member).1
  rw [conflictFree_iff, kept, eq_comm, answers]
  refine and_congr_right fun _ => forall_congr' fun threadId => ?_
  by_cases made : .createFrameWorkThread threadId ∈ calls
  · have member := mem_created.mpr made
    have left := readyB.queue_eq (listedB threadId member)
    have right := readyD.queue_eq (listedD threadId member)
    rw [left, right, Option.some.injEq, queuesB, queuesD, forall_prop_of_true made]
    exact filter_append_filter_not_eq_iff _ _
  · have idle : calls.filterMap (taskOn threadId) = [] := by
      refine List.filterMap_eq_nil_iff.mpr fun call member => taskOn_eq_none fun same => made ?_
      have created := (used_mem_created admissible.used member).resolve_left List.not_mem_nil
      exact mem_created.mp (same ▸ created)
    rw [idle]
    exact ⟨fun _ => .nil, fun _ absurd => (made absurd).elim⟩

def sortedCalls : List (PluginCall Nat Nat) :=
  [.createFrameWorkThread 4, .sendFrameMessage 4 1 ⟨0, 0⟩, .runWorkThreadLogic 4 ⟨0, 0⟩ 2,
    .createFrameWorkThread 5, .sendFrameMessage 5 3 ⟨0, 0⟩, .runWorkThreadLogic 4 ⟨0, 0⟩ 4]

theorem buffered_sortedCalls :
    ((loading 4).performAll sortedCalls).2 =
      (((loading 4).initWorkThreadLogic 4).performAll sortedCalls).2 ∧
    ∀ threadId, .createFrameWorkThread threadId ∈ sortedCalls →
      (((loading 4).performAll sortedCalls).1.initWorkThreadLogic 4).tms.mapLogicList threadId =
        (((loading 4).initWorkThreadLogic 4).performAll sortedCalls).1.tms.mapLogicList threadId :=
  (buffered_iff_conflictFree 4 sortedCalls ⟨by decide, by decide, by decide⟩).mpr (by decide)

theorem buffered_reordered :
    let calls : List (PluginCall Nat Nat) :=
      [.createFrameWorkThread 4, .runWorkThreadLogic 4 ⟨0, 0⟩ 1, .sendFrameMessage 4 2 ⟨0, 0⟩,
        .createFrameWorkThread 4]
    Admissible 4 calls ∧
    (((loading 4).performAll calls).1.initWorkThreadLogic 4).tms.mapLogicList 4 =
      some [.moduleLogic 4 2, .threadFunction 1] ∧
    (((loading 4).initWorkThreadLogic 4).performAll calls).1.tms.mapLogicList 4 =
      some [.threadFunction 1, .moduleLogic 4 2] ∧
    ((loading 4).performAll calls).2 = [true, true, true, true] ∧
    (((loading 4).initWorkThreadLogic 4).performAll calls).2 = [true, true, true, false] :=
  ⟨⟨by decide, by decide, by decide⟩, by decide, by decide, by decide, by decide⟩

end PluginThreads

end PssAsio
