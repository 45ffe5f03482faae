import PssAsio.TransitionRuns
import PssAsio.WorkThreadLogicCore

/-!
Thread affinity and order of the tasks of a connection.
-/

namespace PssAsio

open TransitionRuns KeyedQueues Queues

namespace WorkThreadLogic

variable (threadCount : Nat)

def logicThread (connectId : UInt32) : UInt32 :=
  UInt32.ofNat (connectId.toNat % threadCount)

def InOrder (logic : WorkThreadLogic) (connectId : UInt32) : Prop :=
  (∀ entry ∈ logic.tms.logicList.executed, entry.2.connectId = some connectId →
    entry.1.toNat = connectId.toNat % threadCount) ∧
  ∃ tasks, logic.tms.logicList.queue (logicThread threadCount connectId) = some tasks ∧
    owned LogicTask.connectId connectId logic.tms.logicList.handed =
      owned LogicTask.connectId connectId logic.tms.logicList.executed ++
        tasks.filter fun task => task.connectId = some connectId

structure Running (logic : WorkThreadLogic) : Prop where
  counted : logic.threadCount = UInt16.ofNat threadCount
  sized : logic.threadModuleList.length = threadCount
  started : logic.tms.tmsIsStart = true
  opened : ∀ index < threadCount,
    (logic.tms.logicList.queue (UInt32.ofNat index)).isSome = true
  accounted : logic.tms.logicList.Accounted
  routed : Routed LogicTask.connectId (logicThread threadCount) logic.tms.logicList.handed

section Initial

variable (threadCount : Nat)

theorem createLogics_fresh :
    (createLogics threadCount).logicList.handed = [] ∧
      (createLogics threadCount).logicList.Accounted ∧
      (createLogics threadCount).tmsEvents = [] ∧
      ∀ index < threadCount,
        ((createLogics threadCount).logicList.queue (UInt32.ofNat index)).isSome = true := by
  induction threadCount with
  | zero =>
    refine ⟨rfl, empty_accounted, rfl, ?_⟩
    intro index below
    omega
  | succ count ih =>
    obtain ⟨unused, accounted, noEvents, opened⟩ := ih
    have last : createLogics (count + 1) =
        (createLogics count).createLogic (UInt32.ofNat count) := by
      simp [createLogics, List.range_succ]
    rw [last]
    refine ⟨?_, create_accounted accounted unused _, noEvents, ?_⟩
    · exact (create_handed _ _).trans unused
    · intro index below
      apply create_open.mpr
      by_cases newest : index = count
      · exact .inr (newest ▸ rfl)
      · exact .inl (opened index (by omega))

theorem createLogic_fresh (tms : Tms) (unused : tms.logicList.handed = [])
    (accounted : tms.logicList.Accounted) (noEvents : tms.tmsEvents = [])
    (pluginThreads : List UInt32) :
    (pluginThreads.foldl Tms.createLogic tms).logicList.handed = [] ∧
      (pluginThreads.foldl Tms.createLogic tms).logicList.Accounted ∧
      (pluginThreads.foldl Tms.createLogic tms).tmsEvents = [] ∧
      ∀ key, (tms.logicList.queue key).isSome = true →
        ((pluginThreads.foldl Tms.createLogic tms).logicList.queue key).isSome = true := by
  induction pluginThreads generalizing tms with
  | nil => exact ⟨unused, accounted, noEvents, fun _ opened => opened⟩
  | cons thread rest ih =>
    obtain ⟨handed, balanced, events, kept⟩ := ih (tms.createLogic thread)
      ((create_handed _ _).trans unused) (create_accounted accounted unused _) noEvents
    refine ⟨handed, balanced, events, ?_⟩
    intro key opened
    exact kept key (create_open.mpr (.inl opened))

theorem start_without_events {tms : Tms} (noEvents : tms.tmsEvents = []) :
    tms.start = { tms with tmsIsStart := true } := by
  simp [Tms.start, noEvents]

variable (commandToSessionFunction : List UInt16)

variable (pluginThreads : List UInt32)

theorem init_unused :
    (initWorkThreadLogic threadCount commandToSessionFunction
      pluginThreads).tms.logicList.handed = [] := by
  obtain ⟨unused, accounted, noEvents, -⟩ := createLogics_fresh threadCount
  obtain ⟨handed, -, events, -⟩ := createLogic_fresh _ unused accounted noEvents pluginThreads
  simpa [initWorkThreadLogic, start_without_events events] using handed

theorem init_running :
    Running threadCount
      (initWorkThreadLogic threadCount commandToSessionFunction pluginThreads) := by
  obtain ⟨unused, accounted, noEvents, opened⟩ := createLogics_fresh threadCount
  obtain ⟨-, balanced, events, kept⟩ :=
    createLogic_fresh _ unused accounted noEvents pluginThreads
  have started := start_without_events events
  constructor
  · rfl
  · simp [initWorkThreadLogic]
  · simp [initWorkThreadLogic, started]
  · intro index below
    simpa [initWorkThreadLogic, started] using kept _ (opened index below)
  · simpa [initWorkThreadLogic, started] using balanced
  · intro entry member
    rw [init_unused] at member
    cases member

theorem init_queue {index : Nat} (below : index < threadCount) :
    (initWorkThreadLogic threadCount commandToSessionFunction
      pluginThreads).tms.logicList.queue (UInt32.ofNat index) = some [] := by
  have running := init_running threadCount commandToSessionFunction pluginThreads
  obtain ⟨tasks, opened⟩ := Option.isSome_iff_exists.mp (running.opened index below)
  have balance := running.accounted.balance _ tasks opened
  rw [init_unused] at balance
  rw [opened, (List.append_eq_nil_iff.mp balance.symm).2]

end Initial

variable {logic : WorkThreadLogic} {threadCount : Nat} {connectId : UInt32} {index : UInt16}

theorem Running.addMessage (running : Running threadCount logic) (logicId : UInt32)
    (task : LogicTask)
    (routes : ∀ connectId, task.connectId = some connectId → logicId = logicThread threadCount
      connectId) : Running threadCount (logic.addMessage logicId task) := by
  have puts : (logic.addMessage logicId task).tms.logicList =
      (logic.tms.logicList.put logicId task).1 := by
    simp [WorkThreadLogic.addMessage, Tms.addMessage, running.started]
  constructor
  · exact running.counted
  · exact running.sized
  · simp [WorkThreadLogic.addMessage, Tms.addMessage, running.started]
  · intro index below
    rw [puts, put_open]
    exact running.opened index below
  · rw [puts]
    exact put_accounted running.accounted logicId task
  · rw [puts, put_handed]
    apply running.routed.append
    intro entry member
    rw [List.mem_singleton.mp member]
    exact routes

theorem currThreadIndex_toUInt32 (within : threadCount ≤ 65535)
    (counted : logic.threadCount = UInt16.ofNat threadCount)
    (found : logic.currThreadIndex connectId = some index) :
    index.toUInt32 = logicThread threadCount connectId := by
  unfold currThreadIndex at found
  split at found
  · cases found
  · rename_i nonzero
    have counts : logic.threadCount.toNat = threadCount := by
      rw [counted, UInt16.toNat_ofNat']
      omega
    have positive : 0 < threadCount := by
      apply Nat.pos_of_ne_zero
      rintro rfl
      exact nonzero (by rw [counted]; rfl)
    have below := Nat.mod_lt connectId.toNat positive
    cases found
    apply UInt32.toNat_inj.mp
    rw [logicThread, UInt16.toNat_toUInt32, UInt32.toNat_toUInt16, UInt32.toNat_mod,
      UInt16.toNat_toUInt32, counts, UInt32.toNat_ofNat']
    omega

theorem threadModule_index {workThreadId : UInt16}
    (found : logic.threadModule connectId = some (index, workThreadId)) :
    logic.currThreadIndex connectId = some index := by
  obtain ⟨other, current, listed⟩ := Option.bind_eq_some_iff.mp found
  obtain ⟨_, _, same⟩ := Option.map_eq_some_iff.mp listed
  rw [current, (Prod.mk.inj same).1]

theorem step_running (within : threadCount ≤ 65535) (logic : WorkThreadLogic) (action : WorkAction)
    (next : WorkThreadLogic) (running : Running threadCount logic)
    (stepped : logic.step action = some next) : Running threadCount next := by
  cases stepped_of_step stepped with
  | answered => exact running
  | handed _ connectId index workThreadId task found owner =>
    apply running.addMessage
    intro other owns
    rw [owner, Option.some.injEq] at owns
    rw [← owns]
    exact currThreadIndex_toUInt32 within running.counted (threadModule_index found)
  | posted logicId label =>
    apply running.addMessage
    intro other owns
    cases owns
  | ran logicId popped pops =>
    obtain ⟨task, rest, found, rfl⟩ := pop_eq_some pops
    refine ⟨running.counted, running.sized, running.started, ?_, ?_, running.routed⟩
    · intro index below
      rw [pop_open pops]
      exact running.opened index below
    · exact pop_accounted running.accounted pops

theorem Running.inOrder (running : Running threadCount logic) (positive : 1 ≤ threadCount)
    (connectId : UInt32) : InOrder threadCount logic connectId := by
  have below := Nat.mod_lt connectId.toNat positive
  constructor
  · intro entry member owner
    rw [running.routed entry (running.accounted.taken entry member) connectId owner, logicThread,
      UInt32.toNat_ofNat', Nat.mod_eq_of_lt]
    exact Nat.lt_of_le_of_lt (Nat.mod_le _ _) connectId.toNat_lt
  · obtain ⟨tasks, opened⟩ := Option.isSome_iff_exists.mp (running.opened _ below)
    exact ⟨tasks, opened, running.accounted.owned_balance running.routed opened⟩

theorem Running.threadModule_isSome (running : Running threadCount logic)
    (positive : 1 ≤ threadCount) (within : threadCount ≤ 65535) (connectId : UInt32) :
    (logic.threadModule connectId).isSome = true := by
  have below := Nat.mod_lt connectId.toNat positive
  have counts : logic.threadCount.toNat = threadCount := by
    rw [running.counted, UInt16.toNat_ofNat']
    omega
  have nonzero : logic.threadCount ≠ 0 := by
    intro zero
    rw [zero, UInt16.toNat_zero] at counts
    omega
  have found : logic.currThreadIndex connectId =
      some (connectId % logic.threadCount.toUInt32).toUInt16 := if_neg nonzero
  have index := congrArg UInt32.toNat (currThreadIndex_toUInt32 within running.counted found)
  rw [UInt16.toNat_toUInt32, logicThread, UInt32.toNat_ofNat'] at index
  have inside : (connectId % logic.threadCount.toUInt32).toUInt16.toNat <
      logic.threadModuleList.length := by
    rw [index, running.sized]
    exact Nat.lt_of_le_of_lt (Nat.mod_le _ _) below
  rw [threadModule, found, Option.bind_some, List.getElem?_eq_getElem inside]
  rfl

/-- With at most 65535 worker threads tasks run in order on the thread of their connection. -/
theorem inOrder_of_run {threadCount : Nat} (positive : 1 ≤ threadCount)
    (within : threadCount ≤ 65535) (commandToSessionFunction : List UInt16)
    (pluginThreads : List UInt32) {actions : List WorkAction} {finish : WorkThreadLogic}
    (ran : run step (initWorkThreadLogic threadCount commandToSessionFunction pluginThreads)
      actions = some finish) (connectId : UInt32) :
    InOrder threadCount finish connectId ∧ (finish.threadModule connectId).isSome = true := by
  have running := run_preserves (Running threadCount) (step_running within)
    (init_running threadCount commandToSessionFunction pluginThreads) ran
  exact ⟨running.inOrder positive connectId,
    running.threadModule_isSome positive within connectId⟩

def twoConnections : List WorkAction :=
  [.addThreadSession 3, .addThreadSession 4, .assignationThreadModuleLogic 3 [⟨9, [1]⟩], .svc 1,
    .sendIoMessage 4 ⟨9, [2]⟩, .deleteThreadSession 3, .svc 0]

theorem inOrder_twoConnections :
    (run step (initWorkThreadLogic 2 [] []) twoConnections).any (fun finish =>
      decide (owned LogicTask.connectId 3 finish.tms.logicList.executed =
        [.doThreadModuleLogic 3 1 logicCommandConnect])) = true ∧
    ∀ finish, run step (initWorkThreadLogic 2 [] []) twoConnections = some finish →
      InOrder 2 finish 3 ∧ (finish.threadModule 3).isSome = true :=
  ⟨by decide, fun _ ran => inOrder_of_run (by decide) (by decide) [] [] ran 3⟩

theorem connect_task_runs {workThreadId : UInt16}
    (found : logic.threadModule connectId = some (index, workThreadId))
    (unanswered : logic.commandToSessionFunction = []) (started : logic.tms.tmsIsStart = true)
    (opened : logic.tms.logicList.queue index.toUInt32 = some []) :
    ∃ finish, run step logic [.addThreadSession connectId, .svc index.toUInt32] = some finish ∧
      (index.toUInt32, .doThreadModuleLogic connectId workThreadId logicCommandConnect) ∈
        finish.tms.logicList.executed := by
  simp [run, step, addThreadSession, handOver, found, doSyncMessage, unanswered, addMessage,
    Tms.addMessage, started, Queues.put, opened, Tms.svc, Queues.pop]

theorem not_inOrder_of_cut_to_one (several : 1 < threadCount) (cut : UInt16.ofNat threadCount = 1) :
    ∃ finish, run step (initWorkThreadLogic threadCount [] []) [.addThreadSession 1, .svc 0] =
      some finish ∧ ¬InOrder threadCount finish 1 := by
  have running := init_running threadCount [] []
  have index : (initWorkThreadLogic threadCount [] []).currThreadIndex 1 = some 0 := by
    rw [currThreadIndex, running.counted, cut]
    rfl
  have first : (initWorkThreadLogic threadCount [] []).threadModuleList[(0 : UInt16).toNat]? =
      some 0 := by
    have exists_first : 0 < threadCount := by omega
    simp [initWorkThreadLogic, exists_first]
  have found : (initWorkThreadLogic threadCount [] []).threadModule 1 = some (0, 0) := by
    rw [threadModule, index, Option.bind_some, first, Option.map_some]
  have opened : (initWorkThreadLogic threadCount [] []).tms.logicList.queue
      (0 : UInt16).toUInt32 = some [] := init_queue threadCount [] [] (Nat.zero_lt_of_lt several)
  obtain ⟨finish, ran, executed⟩ := connect_task_runs found rfl running.started opened
  refine ⟨finish, ran, ?_⟩
  rintro ⟨affinity, -⟩
  have misplaced := affinity _ executed rfl
  rw [show (1 : UInt32).toNat = 1 from rfl, Nat.mod_eq_of_lt several] at misplaced
  revert misplaced
  decide

theorem connection_on_foreign_thread :
    ∃ finish, run step (initWorkThreadLogic 65537 [] []) [.addThreadSession 1, .svc 0] =
      some finish ∧ ¬InOrder 65537 finish 1 :=
  not_inOrder_of_cut_to_one (by decide) (by decide)

end WorkThreadLogic

end PssAsio
