import PssAsio.PluginStartup
import PssAsio.TransitionRuns

/-!
The list of the plugin threads against the logic threads of `TMS`.
-/

open TransitionRuns

namespace PssAsio

open Function

structure PluginRegistry (Message Func : Type) where
  threads : PluginThreads Message Func
  granted : List UInt32

inductive PluginRegistryAction where
  | createFrameWorkThread (threadId : UInt32)
  | closeFrameWorkThread (threadId : UInt32)
  deriving DecidableEq, Repr

variable {Message Func : Type}

namespace PluginThreads

def Receives (before after : PluginThreads Message Func) (threadId : UInt32)
    (message : Message) : Prop :=
  ∃ queue, before.tms.mapLogicList threadId = some queue ∧
    after.tms.mapLogicList = update before.tms.mapLogicList threadId
      (some (queue ++ [.moduleLogic threadId.toUInt16 message]))

variable (logic : PluginThreads Message Func)

def Delivers (threadId : UInt32) (message : Message) (delayTimer : FrameMessageDelay) : Prop :=
  let sent := (logic.sendFrameMessage threadId.toUInt16 message delayTimer).1
  if delayTimer.delaySeconds = 0 then Receives logic sent threadId message
  else ∃ timer, sent.frameTimers = logic.frameTimers ++ [timer] ∧
    Receives sent (sent.expire timer) threadId message

structure Steady (next : PluginThreads Message Func) : Prop where
  ready : next.Ready
  count : next.threadCount = logic.threadCount
  list : next.pluginWorkThreadList = logic.pluginWorkThreadList
  opened : ∀ threadId, (next.tms.mapLogicList threadId).isSome ↔
    (logic.tms.mapLogicList threadId).isSome

variable {logic : PluginThreads Message Func}

theorem Steady.trans {middle next : PluginThreads Message Func} (first : Steady logic middle)
    (second : Steady middle next) : Steady logic next where
  ready := second.ready
  count := second.count.trans first.count
  list := second.list.trans first.list
  opened threadId := (second.opened threadId).trans (first.opened threadId)

theorem post_steady (ready : logic.Ready) (delayTimer : FrameMessageDelay) (threadId : UInt32)
    (task : PluginTask Message Func) : Steady logic (logic.post delayTimer threadId task) := by
  unfold post
  split
  · obtain ⟨started, opened⟩ := TmsSchedule.addMessage_open ready.started threadId task
    refine ⟨⟨ready.finished, started, fun other workThreadId found => ?_⟩, rfl, rfl, opened⟩
    obtain ⟨cut, before⟩ := ready.owned other workThreadId found
    exact ⟨cut, (opened other).mpr before⟩
  · exact ⟨⟨ready.finished, ready.started, ready.owned⟩, rfl, rfl, fun _ => Iff.rfl⟩

theorem doFrameMessage_steady (ready : logic.Ready) (tagThreadId : UInt16) (message : Message)
    (delayTimer : FrameMessageDelay) :
    Steady logic (logic.doFrameMessage tagThreadId message delayTimer).1 := by
  unfold doFrameMessage
  split
  · exact ⟨ready, rfl, rfl, fun _ => Iff.rfl⟩
  · exact post_steady ready _ _ _

theorem doWorkThreadLogic_steady (ready : logic.Ready) (tagThreadId : UInt16)
    (delayTimer : FrameMessageDelay) (func : Func) :
    Steady logic (logic.doWorkThreadLogic tagThreadId delayTimer func).1 := by
  unfold doWorkThreadLogic
  split
  · exact ⟨ready, rfl, rfl, fun _ => Iff.rfl⟩
  · exact post_steady ready _ _ _

theorem foldl_steady {Event : Type}
    {replay : PluginThreads Message Func → Event → PluginThreads Message Func}
    (steady : ∀ logic : PluginThreads Message Func, ∀ event, logic.Ready → Steady logic (replay
      logic event)) (ready : logic.Ready) (events : List Event) :
    Steady logic (events.foldl replay logic) := by
  induction events generalizing logic with
  | nil => exact ⟨ready, rfl, rfl, fun _ => Iff.rfl⟩
  | cons event rest ih =>
    have first := steady logic event ready
    exact first.trans (ih first.ready)

theorem initWorkThreadLogic_steady (loading : logic.Loading) (threadCount : Nat) :
    Steady (logic.createThreads threadCount) (logic.initWorkThreadLogic threadCount) := by
  have threads := createThreads_created loading threadCount
  have told : Steady (logic.createThreads threadCount)
      (logic.createThreads threadCount).replayMessages := by
    have steady := foldl_steady (fun logic (event : DelayPluginMessage Message) ready =>
      doFrameMessage_steady ready event.tagThreadId event.message event.delayTimer) threads.ready
      (logic.createThreads threadCount).pluginWorkThreadBufferMessageList
    exact ⟨⟨steady.ready.finished, steady.ready.started, steady.ready.owned⟩, steady.count,
      steady.list, steady.opened⟩
  have handed : Steady (logic.createThreads threadCount).replayMessages
      (logic.initWorkThreadLogic threadCount) := by
    have steady := foldl_steady (fun logic (event : DelayPluginFunc Func) ready =>
      doWorkThreadLogic_steady ready event.tagThreadId event.delayTimer event.func) told.ready
      (logic.createThreads threadCount).replayMessages.pluginWorkThreadBufferFuncList
    exact ⟨⟨steady.ready.finished, steady.ready.started, steady.ready.owned⟩, steady.count,
      steady.list, steady.opened⟩
  exact told.trans handed

theorem toUInt16_toUInt32_eq_iff (threadId : UInt32) :
    threadId.toUInt16.toUInt32 = threadId ↔ threadId.toNat < 65536 := by
  rw [← UInt32.toNat_inj, UInt16.toNat_toUInt32, UInt32.toNat_toUInt16]
  omega

theorem Ready.delivers (ready : logic.Ready) {threadId : UInt32}
    (listed : (logic.pluginWorkThreadList threadId).isSome) (fits : threadId.toNat < 65536)
    (message : Message) (delayTimer : FrameMessageDelay) :
    logic.Delivers threadId message delayTimer := by
  have whole := (toUInt16_toUInt32_eq_iff threadId).mpr fits
  obtain ⟨workThreadId, found⟩ := Option.isSome_iff_exists.mp listed
  obtain ⟨rfl, opened⟩ := ready.owned threadId workThreadId found
  have posted := TmsSchedule.addMessage_started ready.started opened
    (.moduleLogic threadId.toUInt16 message)
  have queue := ready.queue_eq listed
  simp only [Delivers, sendFrameMessage, doFrameMessage, ready.finished, Bool.true_eq_false,
    if_false, whole, found]
  by_cases immediate : delayTimer.delaySeconds = 0
  · simp only [post, immediate, if_true]
    refine ⟨_, queue, ?_⟩
    simp only [addMessage, posted]
  · simp only [post, immediate, if_false]
    refine ⟨_, rfl, _, queue, ?_⟩
    simp only [expire, addMessage, posted]

theorem Ready.delivers_iff [Inhabited Message] (ready : logic.Ready) (threadId : UInt32) :
    (∀ message delayTimer, logic.Delivers threadId message delayTimer) ↔
      (logic.pluginWorkThreadList threadId).isSome ∧ threadId.toNat < 65536 := by
  constructor
  · intro delivers
    have delivered := delivers default ⟨0, 0⟩
    simp only [Delivers, sendFrameMessage, doFrameMessage, ready.finished, Bool.true_eq_false,
      if_false, if_true] at delivered
    obtain ⟨queue, found, moved⟩ := delivered
    have grown := congrFun moved threadId
    rw [update_self] at grown
    cases listed : logic.pluginWorkThreadList threadId.toUInt16.toUInt32 with
    | none =>
      rw [listed] at grown
      simp [found] at grown
    | some workThreadId =>
      rw [listed] at grown
      obtain ⟨cut, opened⟩ := ready.owned _ _ listed
      rw [UInt16.toUInt16_toUInt32] at cut
      subst cut
      by_cases whole : threadId.toUInt16.toUInt32 = threadId
      · rw [whole] at listed
        exact ⟨Option.isSome_iff_exists.mpr ⟨_, listed⟩, (toUInt16_toUInt32_eq_iff _).mp whole⟩
      · -- the message went to another thread, so the queue of this one has not grown
        have apart : threadId ≠ threadId.toUInt16.toUInt32 := fun same => whole same.symm
        have posted := TmsSchedule.addMessage_started ready.started opened
          (.moduleLogic threadId.toUInt16 default)
        simp only [post, if_true, addMessage, posted, update_of_ne apart, found] at grown
        simp at grown
  · rintro ⟨listed, fits⟩ message delayTimer
    exact ready.delivers listed fits message delayTimer

end PluginThreads

namespace PluginRegistry

def initialised (threadCount : Nat) (calls : List (PluginCall Message Func)) :
    PluginRegistry Message Func :=
  let loaded := ((PluginThreads.loading threadCount).performAll calls).1
  ⟨loaded.initWorkThreadLogic threadCount, loaded.pluginWorkThreadBufferList⟩

variable (registry : PluginRegistry Message Func)

def perform :
    PluginRegistryAction → PluginRegistry Message Func
  | .createFrameWorkThread threadId =>
      let created := registry.threads.createFrameWorkThread threadId
      ⟨created.1, if created.2 then threadId :: registry.granted else registry.granted⟩
  | .closeFrameWorkThread threadId =>
      { registry with threads := (registry.threads.closeFrameWorkThread threadId).1 }

def step (action : PluginRegistryAction) : Option (PluginRegistry Message Func) :=
  some (registry.perform action)

structure Agrees : Prop where
  listed : ∀ threadId, (registry.threads.pluginWorkThreadList threadId).isSome ↔
    (registry.threads.tms.mapLogicList threadId).isSome ∧
      registry.threads.threadCount.toUInt32 ≤ threadId
  delivers : ∀ threadId ∈ registry.granted, ∀ message delayTimer,
    registry.threads.Delivers threadId message delayTimer

def Sixteen : PluginRegistryAction → Prop
  | .createFrameWorkThread threadId =>
      registry.threads.threadCount.toUInt32 ≤ threadId →
        registry.threads.pluginWorkThreadList threadId = none → threadId.toNat < 65536
  | .closeFrameWorkThread threadId =>
      registry.threads.threadCount.toUInt32 ≤ threadId →
        registry.threads.pluginWorkThreadList threadId = none

def Fits (threadCount : Nat) (calls : List (PluginCall Message Func)) : Prop :=
  let count := (UInt16.ofNat threadCount).toUInt32
  (∀ threadId, .createFrameWorkThread threadId ∈ calls → count ≤ threadId →
    threadId.toNat < 65536) ∧
  ∀ index < threadCount, count ≤ UInt32.ofNat index →
    .createFrameWorkThread (UInt32.ofNat index) ∈ calls

variable {registry}

theorem agrees_iff [Inhabited Message] (ready : registry.threads.Ready) : registry.Agrees ↔
      (∀ threadId, (registry.threads.pluginWorkThreadList threadId).isSome ↔
        (registry.threads.tms.mapLogicList threadId).isSome ∧
          registry.threads.threadCount.toUInt32 ≤ threadId) ∧
      ∀ threadId ∈ registry.granted, (registry.threads.pluginWorkThreadList threadId).isSome ∧
        threadId.toNat < 65536 := by
  constructor
  · rintro ⟨listed, delivers⟩
    exact ⟨listed, fun threadId member =>
      (ready.delivers_iff threadId).mp (delivers threadId member)⟩
  · rintro ⟨listed, fits⟩
    exact ⟨listed, fun threadId member => (ready.delivers_iff threadId).mpr (fits threadId member)⟩

theorem initialised_agrees_iff [Inhabited Message] (threadCount : Nat)
    (calls : List (PluginCall Message Func)) :
    (initialised threadCount calls).threads.Ready ∧
      ((initialised threadCount calls).Agrees ↔ Fits threadCount calls) := by
  have kept := PluginThreads.performAll_loading
    (PluginThreads.loading_loading threadCount) calls
  have threads := PluginThreads.createThreads_created kept.loading threadCount
  have steady := PluginThreads.initWorkThreadLogic_steady kept.loading threadCount
  refine ⟨steady.ready, (agrees_iff steady.ready).trans ?_⟩
  have asked : ∀ threadId, threadId ∈ (initialised threadCount calls).granted ↔
      .createFrameWorkThread threadId ∈ calls ∧ (UInt16.ofNat threadCount).toUInt32 ≤ threadId := by
    intro threadId
    have granted : (initialised threadCount calls).granted =
        (calls.filterMap PluginCall.created).filter ((UInt16.ofNat threadCount).toUInt32 ≤ ·) :=
      kept.threads
    rw [granted, List.mem_filter, PluginThreads.mem_created, decide_eq_true_iff]
  have listed : ∀ threadId,
      ((initialised threadCount calls).threads.pluginWorkThreadList threadId).isSome ↔
        threadId ∈ (initialised threadCount calls).granted := fun threadId => by
    have same := congrFun steady.list threadId
    exact (iff_of_eq (congrArg (fun found => found.isSome = true) same)).trans
      (threads.listed threadId)
  have opened : ∀ threadId,
      ((initialised threadCount calls).threads.tms.mapLogicList threadId).isSome ↔
        threadId ∈ (initialised threadCount calls).granted ∨
          ∃ index < threadCount, threadId = UInt32.ofNat index := fun threadId =>
    (steady.opened threadId).trans (threads.opened threadId)
  have count : (initialised threadCount calls).threads.threadCount = UInt16.ofNat threadCount :=
    steady.count.trans (threads.kept.1.trans kept.count)
  simp only [listed, opened, count]
  generalize (initialised threadCount calls).granted = granted at *
  constructor
  · rintro ⟨agree, fits⟩
    refine ⟨fun threadId made above => (fits threadId ((asked threadId).mpr ⟨made, above⟩)).2,
      fun index below above => ?_⟩
    have member := (agree (UInt32.ofNat index)).mpr ⟨.inr ⟨index, below, rfl⟩, above⟩
    exact ((asked _).mp member).1
  · rintro ⟨short, filled⟩
    refine ⟨fun threadId => ⟨fun member => ⟨.inl member, ((asked threadId).mp member).2⟩, ?_⟩,
      fun threadId member => ⟨member, ?_⟩⟩
    · rintro ⟨member | ⟨index, below, rfl⟩, above⟩
      · exact member
      · exact (asked _).mpr ⟨filled index below above, above⟩
    · obtain ⟨made, above⟩ := (asked threadId).mp member
      exact short threadId made above

theorem createFrameWorkThread_cases {logic : PluginThreads Message Func} (ready : logic.Ready)
    (threadId : UInt32) :
    logic.createFrameWorkThread threadId = (logic, false) ∧
      ¬ (logic.threadCount.toUInt32 ≤ threadId ∧ logic.pluginWorkThreadList threadId = none) ∨
    logic.createFrameWorkThread threadId = (logic.addPluginThread threadId, true) ∧
      logic.threadCount.toUInt32 ≤ threadId ∧ logic.pluginWorkThreadList threadId = none := by
  unfold PluginThreads.createFrameWorkThread
  by_cases below : threadId < logic.threadCount.toUInt32
  · exact .inl ⟨if_pos below, fun above => UInt32.not_le.mpr below above.1⟩
  · have above := UInt32.not_lt.mp below
    simp only [below, if_false, ready.finished, Bool.true_eq_false]
    cases found : logic.pluginWorkThreadList threadId with
    | some workThreadId => exact .inl ⟨rfl, fun fresh => nomatch fresh.2⟩
    | none => exact .inr ⟨rfl, above, rfl⟩

theorem closeFrameWorkThread_cases (logic : PluginThreads Message Func) (threadId : UInt32) :
    logic.closeFrameWorkThread threadId = (logic, false) ∧
      (logic.threadCount.toUInt32 ≤ threadId → logic.pluginWorkThreadList threadId = none) ∨
    logic.closeFrameWorkThread threadId = ({ logic with
      pluginWorkThreadList := update logic.pluginWorkThreadList threadId none }, true) ∧
      logic.threadCount.toUInt32 ≤ threadId ∧
        (logic.pluginWorkThreadList threadId).isSome := by
  unfold PluginThreads.closeFrameWorkThread
  by_cases below : threadId < logic.threadCount.toUInt32
  · exact .inl ⟨if_pos below, fun above => absurd above (UInt32.not_le.mpr below)⟩
  · have above := UInt32.not_lt.mp below
    simp only [below, if_false]
    cases found : logic.pluginWorkThreadList threadId with
    | some workThreadId => exact .inr ⟨rfl, above, rfl⟩
    | none => exact .inl ⟨rfl, fun _ => rfl⟩

theorem perform_ready (ready : registry.threads.Ready) (action : PluginRegistryAction) :
    (registry.perform action).threads.Ready := by
  cases action with
  | createFrameWorkThread threadId =>
    simp only [perform]
    rcases createFrameWorkThread_cases ready threadId with ⟨same, _⟩ | ⟨made, _, _⟩
    · rw [same]
      exact ready
    · rw [made]
      exact ready.addPluginThread threadId
  | closeFrameWorkThread threadId =>
    simp only [perform]
    rcases closeFrameWorkThread_cases registry.threads threadId with ⟨same, _⟩ | ⟨closed, _, _⟩
    · rw [same]
      exact ready
    · rw [closed]
      refine ⟨ready.finished, ready.started, fun other workThreadId found => ?_⟩
      by_cases same : other = threadId
      · simp [same] at found
      · simp only [update_of_ne same] at found
        exact ready.owned other workThreadId found

theorem create_agrees_iff [Inhabited Message] (ready : registry.threads.Ready)
    (agrees : registry.Agrees) (threadId : UInt32) :
    (registry.perform (.createFrameWorkThread threadId)).Agrees ↔
      registry.Sixteen (.createFrameWorkThread threadId) := by
  have still := perform_ready ready (.createFrameWorkThread threadId)
  rcases createFrameWorkThread_cases ready threadId with ⟨same, refused⟩ | ⟨made, above, fresh⟩
  · have unchanged : registry.perform (.createFrameWorkThread threadId) = registry := by
      simp [perform, same]
    rw [unchanged]
    exact iff_of_true agrees fun above fresh => (refused ⟨above, fresh⟩).elim
  · have added := PluginThreads.addPluginThread_created ready.owned threadId
    obtain ⟨listed, granted⟩ := (agrees_iff ready).mp agrees
    rw [agrees_iff still]
    have count : (registry.threads.addPluginThread threadId).threadCount =
        registry.threads.threadCount := rfl
    simp only [perform, made, if_true, Sixteen, added.listed, added.opened, count, List.mem_cons,
      List.not_mem_nil, or_false, listed]
    constructor
    · rintro ⟨_, fits⟩ _ _
      exact (fits threadId (.inl rfl)).2
    · intro fits
      refine ⟨fun other => ⟨?_, ?_⟩, ?_⟩
      · rintro (rfl | ⟨opened, beyond⟩)
        · exact ⟨.inl rfl, above⟩
        · exact ⟨.inr opened, beyond⟩
      · rintro ⟨same | opened, beyond⟩
        · exact .inl same
        · exact .inr ⟨opened, beyond⟩
      · rintro other (rfl | member)
        · exact ⟨.inl rfl, fits above fresh⟩
        · obtain ⟨found, short⟩ := granted other member
          exact ⟨.inr ((listed other).mp found), short⟩

theorem close_agrees_iff (agrees : registry.Agrees) (threadId : UInt32) :
    (registry.perform (.closeFrameWorkThread threadId)).Agrees ↔
      registry.Sixteen (.closeFrameWorkThread threadId) := by
  rcases closeFrameWorkThread_cases registry.threads threadId with
    ⟨same, refused⟩ | ⟨closed, above, found⟩
  · have unchanged : registry.perform (.closeFrameWorkThread threadId) = registry := by
      simp [perform, same]
    rw [unchanged]
    exact iff_of_true agrees refused
  · refine iff_of_false (fun agreed => ?_) fun absent => ?_
    · -- the logic thread is still there
      have opened := ((agrees.listed threadId).mp found).1
      have listed := (agreed.listed threadId).mpr
      simp only [perform, closed] at listed
      simpa using listed ⟨opened, above⟩
    · simp [absent above] at found

/-- List and logic threads agree exactly if every created thread has a 16-bit id and none is closed.
-/
theorem agrees_iff_sixteen [Inhabited Message] (threadCount : Nat)
    (calls : List (PluginCall Message Func)) (actions : List PluginRegistryAction) :
    Always step Agrees (initialised threadCount calls) actions ↔
      Fits threadCount calls ∧
        Throughout step Sixteen (initialised threadCount calls) actions := by
  obtain ⟨ready, begins⟩ := initialised_agrees_iff threadCount calls
  have ran := run_total perform (initialised threadCount calls) actions
  have supported : ∀ (registry : PluginRegistry Message Func) action next,
      registry.threads.Ready → step registry action = some next → next.threads.Ready := by
    rintro registry action _ ready ⟨⟩
    exact perform_ready ready action
  have decisive : ∀ (registry : PluginRegistry Message Func) action next,
      registry.threads.Ready → registry.Agrees → step registry action = some next →
        (next.Agrees ↔ registry.Sixteen action) := by
    rintro registry action _ ready agrees ⟨⟩
    cases action with
    | createFrameWorkThread threadId => exact create_agrees_iff ready agrees threadId
    | closeFrameWorkThread threadId => exact close_agrees_iff agrees threadId
  have decided := fun initial => always_iff_throughout supported decisive ready initial ran
  constructor
  · intro always
    have initial := always_start always
    exact ⟨begins.mp initial, (decided initial).mp always⟩
  · rintro ⟨fits, kept⟩
    exact (decided (begins.mpr fits)).mpr kept

theorem close_leaves_logic_thread :
    (∃ finish, run step (initialised 4 ([] : List (PluginCall Nat Nat)))
      [.createFrameWorkThread 9, .closeFrameWorkThread 9] = some finish ∧
      finish.threads.pluginWorkThreadList 9 = none ∧
      finish.threads.tms.mapLogicList 9 = some []) ∧
    ∃ finish, run step (initialised 4 ([] : List (PluginCall Nat Nat)))
      [.createFrameWorkThread 9, .createFrameWorkThread 65545] = some finish ∧
      65545 ∈ finish.granted ∧
      let sent := (finish.threads.sendFrameMessage (65545 : UInt32).toUInt16 7 ⟨0, 0⟩).1
      sent.tms.mapLogicList 65545 = some [] ∧ sent.tms.mapLogicList 9 = some [.moduleLogic 9 7] :=
  ⟨⟨_, rfl, by decide, by decide⟩, _, rfl, by decide, by decide, by decide⟩

end PluginRegistry

end PssAsio
