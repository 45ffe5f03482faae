import PssAsio.TmsShutdownCore
import PssAsio.TransitionRuns
import Mathlib.Data.List.Perm.Subperm

/-!
Which tasks are run before `Close` returns.
-/

open TransitionRuns

namespace PssAsio

open Function

namespace TmsWorker

variable {Task : Type}

variable (worker : TmsWorker Task)

def current : List Task :=
  match worker.phase with
  | .running func => [func]
  | _ => []

def begun : Nat := (worker.executed ++ worker.current).length

structure Cleared (call : CloseCall Task) : Prop where
  stopped : worker.mRun = false
  handed : call.handed <+: worker.handed
  before : worker.phase = .popping → call.popping = true ∧
    worker.begun + call.waiting = call.handed.length ∧
    ∃ (first : List Task) (later : List (LogicMessage Task)),
      worker.threadQueue = first.map .logicTypeRun ++ later ∧
      first.length = call.waiting
  after : worker.phase ≠ .popping →
    if call.popping = true then (call.waiting = 0 → call.handed.length ≤ worker.begun) ∧
      (0 < call.waiting → worker.begun + call.waiting = call.handed.length + 1)
    else worker.begun + call.waiting = call.handed.length

structure Sound : Prop where
  accounted : worker.handed = worker.executed ++ worker.current ++ worker.waiting
  uncalled : worker.called = none →
    worker.mRun = true ∧ worker.phase ≠ .ended ∧ .logicTypeClose ∉ worker.threadQueue
  cleared : ∀ call, worker.called = some call → worker.Cleared call

theorem start_sound : (start : TmsWorker Task).Sound where
  accounted := rfl
  uncalled _ := ⟨rfl, nofun, List.not_mem_nil⟩
  cleared _ called := nomatch called

theorem waiting_put (message : LogicMessage Task) :
    (worker.put message).waiting = worker.waiting ++ message.task.toList := by
  cases message <;> simp [put, waiting, LogicMessage.task]

variable {worker next : TmsWorker Task}

theorem Sound.put (sound : worker.Sound) {message : LogicMessage Task}
    (allowed : worker.called = none → message ≠ .logicTypeClose) : (worker.put message).Sound where
  accounted := by
    rw [waiting_put]
    show worker.handed ++ _ = worker.executed ++ worker.current ++ _
    rw [sound.accounted]
    simp
  uncalled called := by
    obtain ⟨runs, phase, clean⟩ := sound.uncalled called
    refine ⟨runs, phase, fun member => ?_⟩
    rcases List.mem_append.mp member with old | new
    · exact clean old
    · exact allowed called (List.mem_singleton.mp new).symm
  cleared call called := by
    have cleared := sound.cleared call called
    refine ⟨cleared.stopped, cleared.handed.trans (List.prefix_append _ _), fun popping => ?_,
      cleared.after⟩
    obtain ⟨wasPopping, count, first, later, queue, length⟩ := cleared.before popping
    refine ⟨wasPopping, count, first, later ++ [message], ?_, length⟩
    simp [TmsWorker.put, queue]

theorem Sound.testRun (sound : worker.Sound) (stepped : worker.testRun = some next) :
    next.Sound := by
  unfold TmsWorker.testRun at stepped
  split at stepped
  next phase =>
    have accounted := sound.accounted
    simp only [current, phase] at accounted
    cases called : worker.called with
    | none =>
      obtain ⟨runs, _, clean⟩ := sound.uncalled called
      simp only [runs, if_true, Option.some.injEq] at stepped
      subst stepped
      exact ⟨accounted, fun _ => ⟨rfl, nofun, clean⟩,
        fun call isCalled => nomatch called.symm.trans isCalled⟩
    | some call =>
      have cleared := sound.cleared call called
      simp only [cleared.stopped, Bool.false_eq_true, if_false, Option.some.injEq] at stepped
      subst stepped
      have after := cleared.after (by simp [phase])
      simp only [begun, current, phase] at after
      refine ⟨accounted, fun uncalled => (nomatch called.symm.trans uncalled), ?_⟩
      intro other isCalled
      cases called.symm.trans isCalled
      exact ⟨rfl, cleared.handed, nofun, fun _ => after⟩
  next => cases stepped

theorem Sound.pop (sound : worker.Sound) (stepped : worker.pop = some next) : next.Sound := by
  have accounted := sound.accounted
  unfold TmsWorker.pop at stepped
  split at stepped
  next func rest phase queue =>
    simp only [current, phase, waiting, queue] at accounted
    cases stepped
    refine ⟨?_, fun uncalled => ?_, fun call called => ?_⟩
    · simpa [current, waiting, LogicMessage.task] using accounted
    · obtain ⟨runs, _, clean⟩ := sound.uncalled uncalled
      exact ⟨runs, nofun, fun member => clean (queue ▸ .tail _ member)⟩
    · have cleared := sound.cleared call called
      obtain ⟨popping, count, _⟩ := cleared.before phase
      simp only [begun, current, phase, List.append_nil] at count
      refine ⟨cleared.stopped, cleared.handed, nofun, fun _ => ?_⟩
      simp only [popping, if_true, begun, current, List.length_append, List.length_singleton]
      omega
  next rest phase queue =>
    simp only [current, phase, waiting, queue] at accounted
    cases stepped
    refine ⟨accounted, fun uncalled => ?_, fun call called => ?_⟩
    · obtain ⟨_, _, clean⟩ := sound.uncalled uncalled
      exact (clean (queue ▸ .head _)).elim
    · -- the close message is behind the tasks that were waiting, so none was
      have cleared := sound.cleared call called
      obtain ⟨popping, count, first, later, split, length⟩ := cleared.before phase
      simp only [begun, current, phase, List.append_nil] at count
      have none_waiting : call.waiting = 0 := by
        cases first with
        | nil => exact length.symm
        | cons func _ =>
          rw [queue] at split
          cases split
      refine ⟨cleared.stopped, cleared.handed, nofun, fun _ => ?_⟩
      simp only [popping, if_true, begun, current, List.append_nil]
      omega
  next => cases stepped

theorem Sound.finish (sound : worker.Sound) (stepped : worker.finish = some next) : next.Sound := by
  have accounted := sound.accounted
  unfold TmsWorker.finish at stepped
  split at stepped
  next func phase =>
    simp only [current, phase] at accounted
    cases stepped
    refine ⟨?_, fun uncalled => ?_, fun call called => ?_⟩
    · simpa [current, waiting] using accounted
    · obtain ⟨runs, _, clean⟩ := sound.uncalled uncalled
      exact ⟨runs, nofun, clean⟩
    · have cleared := sound.cleared call called
      have after := cleared.after (by simp [phase])
      refine ⟨cleared.stopped, cleared.handed, nofun, fun _ => ?_⟩
      simpa [begun, current, phase] using after
  next => cases stepped

theorem map_task_of_clean {queue : List (LogicMessage Task)} (clean : .logicTypeClose ∉ queue) :
    (queue.filterMap LogicMessage.task).map .logicTypeRun = queue := by
  induction queue with
  | nil => rfl
  | cons message rest ih =>
    have later := ih fun member => clean (.tail _ member)
    cases message with
    | logicTypeRun func => exact congrArg (_ :: ·) later
    | logicTypeClose => exact (clean (.head _)).elim

theorem Sound.clearRun (sound : worker.Sound) (uncalled : worker.called = none) :
    worker.clearRun.Sound := by
  obtain ⟨_, _, clean⟩ := sound.uncalled uncalled
  have total : worker.begun + worker.waiting.length = worker.handed.length := by
    rw [sound.accounted, begun, ← List.length_append]
  refine ⟨sound.accounted, fun none => (nomatch none), ?_⟩
  rintro _ ⟨⟩
  refine ⟨rfl, List.prefix_rfl, fun popping => ⟨?_, total, worker.waiting, [], ?_, rfl⟩,
    fun other => ?_⟩
  · have phase : worker.phase = .popping := popping
    simp [phase]
  · exact ((List.append_nil _).trans (map_task_of_clean clean)).symm
  · have phase : worker.phase ≠ .popping := other
    split
    next was => exact absurd was phase
    next =>
      simp only [Bool.false_eq_true, if_false]
      exact total

inductive Moved (worker : TmsWorker Task) : TmsWorker Task → Prop where
  | put {message : LogicMessage Task} (allowed : worker.called = none → message ≠ .logicTypeClose) :
      Moved worker (worker.put message)
  | testRun {next : TmsWorker Task} (stepped : worker.testRun = some next) : Moved worker next
  | pop {next : TmsWorker Task} (stepped : worker.pop = some next) : Moved worker next
  | finish {next : TmsWorker Task} (stepped : worker.finish = some next) : Moved worker next

theorem Moved.sound (moved : Moved worker next) (sound : worker.Sound) : next.Sound := by
  cases moved with
  | put allowed => exact sound.put allowed
  | testRun stepped => exact sound.testRun stepped
  | pop stepped => exact sound.pop stepped
  | finish stepped => exact sound.finish stepped

theorem Moved.called (moved : Moved worker next) : next.called = worker.called := by
  cases moved with
  | put => rfl
  | testRun stepped =>
    unfold TmsWorker.testRun at stepped
    split at stepped <;> cases stepped
    rfl
  | pop stepped =>
    unfold TmsWorker.pop at stepped
    split at stepped <;> cases stepped <;> rfl
  | finish stepped =>
    unfold TmsWorker.finish at stepped
    split at stepped <;> cases stepped
    rfl

theorem Moved.ended (moved : Moved worker next) (ended : worker.phase = .ended) :
    next.phase = .ended := by
  cases moved with
  | put => exact ended
  | testRun stepped => simp [TmsWorker.testRun, ended] at stepped
  | pop stepped => simp [TmsWorker.pop, ended] at stepped
  | finish stepped => simp [TmsWorker.finish, ended] at stepped

theorem Moved.executed (moved : Moved worker next) : worker.executed <+: next.executed := by
  cases moved with
  | put => exact List.prefix_rfl
  | testRun stepped =>
    unfold TmsWorker.testRun at stepped
    split at stepped <;> cases stepped
    exact List.prefix_rfl
  | pop stepped =>
    unfold TmsWorker.pop at stepped
    split at stepped <;> cases stepped <;> exact List.prefix_rfl
  | finish stepped =>
    unfold TmsWorker.finish at stepped
    split at stepped <;> cases stepped
    exact List.prefix_append _ _

def RanAll (worker : TmsWorker Task) (call : CloseCall Task) : Prop :=
  call.handed.Subperm worker.executed

/-- Nothing was waiting at the call, or one task and the thread was in `Pop`. -/
def Drained (call : CloseCall Task) : Prop :=
  call.waiting = 0 ∨ call.waiting = 1 ∧ call.popping = true
  deriving Decidable

theorem Sound.ranAll_iff (sound : worker.Sound) {call : CloseCall Task}
    (called : worker.called = some call) (ended : worker.phase = .ended) :
    worker.RanAll call ↔ Drained call := by
  have cleared := sound.cleared call called
  have executed : worker.executed <+: worker.handed := by
    rw [sound.accounted, List.append_assoc]
    exact List.prefix_append _ _
  have count : worker.RanAll call ↔ call.handed.length ≤ worker.executed.length := by
    refine ⟨List.Subperm.length_le, fun enough => ?_⟩
    exact (List.prefix_of_prefix_length_le cleared.handed executed enough).sublist.subperm
  have after := cleared.after (by simp [ended])
  simp only [begun, current, ended, List.append_nil] at after
  rw [count, Drained]
  cases popping : call.popping with
  | true =>
    simp only [popping, if_true] at after
    simp only [and_true]
    omega
  | false =>
    simp only [popping, Bool.false_eq_true, if_false] at after
    simp only [Bool.false_eq_true, and_false, or_false]
    omega

end TmsWorker

namespace TmsShutdown

variable {Task : Type}

variable (tms : TmsShutdown Task)

def remaining : List UInt32 :=
  match tms.phase with
  | .serving => tms.logicIds
  | .queueing _ => tms.logicIds
  | .closing logicIds => logicIds
  | .putting _ logicIds => logicIds
  | .joining _ logicIds => logicIds

def calling : Option UInt32 :=
  match tms.phase with
  | .putting logicId _ => some logicId
  | .joining logicId _ => some logicId
  | _ => none

def Has (logicId : UInt32) (property : TmsWorker (WorkerTask Task) → Prop) : Prop :=
  ∃ worker, tms.workers logicId = some worker ∧ property worker

def RunsAll : Prop :=
  ∀ logicId ∈ tms.returned, tms.Has logicId fun worker =>
    ∃ call, worker.called = some call ∧ worker.RanAll call

def call : Option (CloseCall (WorkerTask Task)) :=
  (tms.calling.bind tms.workers).bind TmsWorker.called

def ReturnsDrained : ShutdownAction Task → Prop
  | .join => ∀ call ∈ tms.call, TmsWorker.Drained call
  | _ => True

instance (action : ShutdownAction Task) : Decidable (tms.ReturnsDrained action) := by
  unfold ReturnsDrained
  split <;> infer_instance

structure Sound : Prop where
  workers : ∀ logicId worker, tms.workers logicId = some worker → worker.Sound
  distinct : tms.remaining.Nodup
  uncalled : ∀ logicId ∈ tms.remaining, ∀ worker, tms.workers logicId = some worker →
    worker.called = none
  called : ∀ logicId, tms.calling = some logicId → tms.Has logicId (·.called.isSome)
  ended : ∀ logicId ∈ tms.returned, tms.Has logicId fun worker =>
    worker.called.isSome ∧ worker.phase = .ended

inductive Stepped (tms : TmsShutdown Task) : ShutdownAction Task → TmsShutdown Task → Prop where
  | quiet {action : ShutdownAction Task} {next : TmsShutdown Task} (other : action ≠ .join)
      (workers : next.workers = tms.workers) (returned : next.returned = tms.returned)
      (remaining : next.remaining = tms.remaining) (calling : next.calling = tms.calling) :
      Stepped tms action next
  | moved {action : ShutdownAction Task} {next : TmsShutdown Task} (other : action ≠ .join)
      {logicId : UInt32} {worker worker' : TmsWorker (WorkerTask Task)}
      (found : tms.workers logicId = some worker) (move : worker.Moved worker')
      (workers : next.workers = update tms.workers logicId (some worker'))
      (returned : next.returned = tms.returned)
      (remaining : next.remaining = tms.remaining) (calling : next.calling = tms.calling) :
      Stepped tms action next
  | clearRun {logicId : UInt32} {rest : List UInt32} {worker : TmsWorker (WorkerTask Task)}
      (phase : tms.phase = .closing (logicId :: rest))
      (found : tms.workers logicId = some worker) :
      Stepped tms .clearRun
        { tms.setWorker logicId worker.clearRun with phase := .putting logicId rest }
  | join {logicId : UInt32} {rest : List UInt32} {worker : TmsWorker (WorkerTask Task)}
      (phase : tms.phase = .joining logicId rest)
      (found : tms.workers logicId = some worker) (ended : worker.phase = .ended) :
      Stepped tms .join { tms with phase := .closing rest, returned := logicId :: tms.returned }

variable {changed logicId : UInt32} {worker worker' : TmsWorker (WorkerTask Task)}
  {next tms : TmsShutdown Task} {action : ShutdownAction Task}

theorem lookup_cases {workers : UInt32 → Option (TmsWorker (WorkerTask Task))}
    (found : update workers changed (some worker') logicId = some worker) :
    logicId = changed ∧ worker' = worker ∨ logicId ≠ changed ∧ workers logicId = some worker := by
  by_cases same : logicId = changed
  · subst same
    rw [update_self, Option.some.injEq] at found
    exact .inl ⟨rfl, found⟩
  · rw [update_of_ne same] at found
    exact .inr ⟨same, found⟩

theorem Has.update {property : TmsWorker (WorkerTask Task) → Prop} (has : tms.Has logicId property)
    (workers : next.workers = update tms.workers changed (some worker'))
    (found : tms.workers changed = some worker) (keeps : property worker → property worker') :
    next.Has logicId property := by
  obtain ⟨old, isFound, held⟩ := has
  unfold Has
  rw [workers]
  by_cases same : logicId = changed
  · subst same
    cases found.symm.trans isFound
    exact ⟨worker', update_self .., keeps held⟩
  · exact ⟨old, by rw [update_of_ne same]; exact isFound, held⟩

theorem started_sound (threadModuleList : List UInt16) (created : List UInt32) :
    (started threadModuleList created : TmsShutdown Task).Sound where
  workers logicId worker found := by
    simp only [started] at found
    split at found
    · cases found
      exact TmsWorker.start_sound
    · cases found
  distinct := ((List.perm_insertionSort _ _).nodup_iff).mpr (List.nodup_dedup created)
  uncalled logicId _ worker found := by
    simp only [started] at found
    split at found
    · cases found
      rfl
    · cases found
  called _ calling := nomatch calling
  ended _ member := nomatch member

theorem stepped_of_addMessage (tms : TmsShutdown Task) (logicId : UInt32) (func : WorkerTask Task)
    (other : action ≠ .join) (workers : next.workers = (tms.addMessage logicId func).workers)
    (returned : next.returned = tms.returned) (remaining : next.remaining = tms.remaining)
    (calling : next.calling = tms.calling) : Stepped tms action next := by
  unfold addMessage at workers
  split at workers
  next worker found =>
    have move : worker.Moved (worker.put (.logicTypeRun func)) := .put fun _ => nofun
    exact .moved other found move workers returned remaining calling
  next => exact .quiet other workers returned remaining calling

theorem addMessage_frame (tms : TmsShutdown Task) (logicId : UInt32) (func : WorkerTask Task) :
    (tms.addMessage logicId func).returned = tms.returned ∧
    (tms.addMessage logicId func).logicIds = tms.logicIds ∧
    (tms.addMessage logicId func).phase = tms.phase := by
  unfold addMessage
  split <;> exact ⟨rfl, rfl, rfl⟩

theorem stepped_of_workerStep
    {act : TmsWorker (WorkerTask Task) → Option (TmsWorker (WorkerTask Task))}
    (moves : ∀ worker worker', act worker = some worker' → worker.Moved worker')
    (other : action ≠ .join) (stepped : tms.workerStep logicId act = some next) :
    Stepped tms action next := by
  obtain ⟨worker', acted, rfl⟩ := Option.map_eq_some_iff.mp stepped
  obtain ⟨worker, found, done⟩ := Option.bind_eq_some_iff.mp acted
  exact .moved other found (moves worker worker' done) rfl rfl rfl rfl

theorem stepped_of_step (sound : tms.Sound) (stepped : tms.step action = some next) :
    Stepped tms action next := by
  cases action with
  | addMessage logicId task =>
    have other : ShutdownAction.addMessage logicId task ≠ .join := nofun
    obtain ⟨returned, logicIds, phase⟩ := tms.addMessage_frame logicId (.posted task)
    cases stepped
    exact stepped_of_addMessage tms logicId (.posted task) other rfl returned
      (by simp only [remaining, phase, logicIds]) (by simp only [calling, phase])
  | close =>
    have other : (ShutdownAction.close : ShutdownAction Task) ≠ .join := nofun
    simp only [step] at stepped
    split at stepped
    next phase =>
      cases stepped
      exact .quiet other rfl rfl (by simp only [remaining, phase]) (by simp only [calling, phase])
    next => cases stepped
  | queueClose =>
    have other : (ShutdownAction.queueClose : ShutdownAction Task) ≠ .join := nofun
    simp only [step] at stepped
    split at stepped
    next workThreadId rest phase =>
      obtain ⟨returned, logicIds, _⟩ :=
        tms.addMessage_frame workThreadId.toUInt32 (.closeSessions workThreadId)
      cases stepped
      exact stepped_of_addMessage tms workThreadId.toUInt32 (.closeSessions workThreadId) other
        rfl returned (by simp only [remaining, phase, logicIds]) (by simp only [calling, phase])
    next => cases stepped
  | tmsClose =>
    have other : (ShutdownAction.tmsClose : ShutdownAction Task) ≠ .join := nofun
    simp only [step] at stepped
    split at stepped
    next phase =>
      cases stepped
      exact .quiet other rfl rfl (by simp only [remaining, phase]) (by simp only [calling, phase])
    next => cases stepped
  | clearRun =>
    simp only [step] at stepped
    split at stepped
    next logicId rest phase =>
      obtain ⟨worker, found, rfl⟩ := Option.map_eq_some_iff.mp stepped
      exact .clearRun phase found
    next => cases stepped
  | putClose =>
    have other : (ShutdownAction.putClose : ShutdownAction Task) ≠ .join := nofun
    simp only [step] at stepped
    split at stepped
    next logicId rest phase =>
      obtain ⟨worker, found, rfl⟩ := Option.map_eq_some_iff.mp stepped
      obtain ⟨same, isFound, called⟩ := sound.called logicId (by simp only [calling, phase])
      cases found.symm.trans isFound
      have move : worker.Moved (worker.put .logicTypeClose) := .put fun uncalled => by
        rw [uncalled] at called
        cases called
      exact .moved other found move rfl rfl (by simp only [remaining, phase])
        (by simp only [calling, phase])
    next => cases stepped
  | join =>
    simp only [step] at stepped
    split at stepped
    next logicId rest phase =>
      obtain ⟨worker, found, joined⟩ := Option.bind_eq_some_iff.mp stepped
      split at joined
      next ended =>
        cases joined
        exact .join phase found ended
      next => cases joined
    next => cases stepped
  | testRun logicId =>
    have other : (ShutdownAction.testRun logicId : ShutdownAction Task) ≠ .join := nofun
    exact stepped_of_workerStep (fun _ _ => .testRun) other stepped
  | pop logicId =>
    have other : (ShutdownAction.pop logicId : ShutdownAction Task) ≠ .join := nofun
    exact stepped_of_workerStep (fun _ _ => .pop) other stepped
  | finish logicId =>
    have other : (ShutdownAction.finish logicId : ShutdownAction Task) ≠ .join := nofun
    exact stepped_of_workerStep (fun _ _ => .finish) other stepped

theorem Sound.of_moved (sound : tms.Sound) (found : tms.workers changed = some worker)
    (move : worker.Moved worker')
    (workers : next.workers = update tms.workers changed (some worker'))
    (returned : next.returned = tms.returned) (remaining : next.remaining = tms.remaining)
    (calling : next.calling = tms.calling) : next.Sound := by
  constructor
  · intro logicId worker isFound
    rw [workers] at isFound
    rcases lookup_cases isFound with ⟨_, rfl⟩ | ⟨_, old⟩
    · exact move.sound (sound.workers _ _ found)
    · exact sound.workers logicId worker old
  · rw [remaining]
    exact sound.distinct
  · intro logicId member worker isFound
    rw [remaining] at member
    rw [workers] at isFound
    rcases lookup_cases isFound with ⟨rfl, rfl⟩ | ⟨_, old⟩
    · exact move.called.trans (sound.uncalled _ member _ found)
    · exact sound.uncalled logicId member worker old
  · intro logicId isCalling
    rw [calling] at isCalling
    refine (sound.called logicId isCalling).update workers found fun called => ?_
    rw [move.called]
    exact called
  · intro logicId member
    rw [returned] at member
    refine (sound.ended logicId member).update workers found fun kept => ?_
    rw [move.called]
    exact ⟨kept.1, move.ended kept.2⟩

theorem Sound.of_clearRun (sound : tms.Sound) {rest : List UInt32}
    (phase : tms.phase = .closing (logicId :: rest)) (found : tms.workers logicId = some worker) :
    Sound { tms.setWorker logicId worker.clearRun with phase := .putting logicId rest } := by
  have listed : tms.remaining = logicId :: rest := by simp only [remaining, phase]
  have distinct := sound.distinct
  rw [listed] at distinct
  obtain ⟨apart, distinct⟩ := List.nodup_cons.mp distinct
  have uncalled := sound.uncalled logicId (listed ▸ .head _) worker found
  constructor
  · intro other moved isFound
    rcases lookup_cases isFound with ⟨_, rfl⟩ | ⟨_, old⟩
    · exact (sound.workers _ _ found).clearRun uncalled
    · exact sound.workers other moved old
  · exact distinct
  · intro other member moved isFound
    rcases lookup_cases isFound with ⟨rfl, _⟩ | ⟨_, old⟩
    · exact absurd member apart
    · exact sound.uncalled other (listed ▸ .tail _ member) moved old
  · rintro _ ⟨⟩
    exact ⟨worker.clearRun, update_self .., rfl⟩
  · intro other member
    refine (sound.ended other member).update rfl found fun kept => ?_
    rw [uncalled] at kept
    cases kept.1

theorem step_sound (sound : tms.Sound) (stepped : tms.step action = some next) : next.Sound := by
  cases stepped_of_step sound stepped with
  | quiet _ workers returned remaining calling =>
    constructor
    · rw [workers]
      exact sound.workers
    · rw [remaining]
      exact sound.distinct
    · rw [remaining, workers]
      exact sound.uncalled
    · simp only [Has, calling, workers]
      exact sound.called
    · simp only [Has, returned, workers]
      exact sound.ended
  | moved _ found move workers returned remaining calling =>
    exact sound.of_moved found move workers returned remaining calling
  | clearRun phase found => exact sound.of_clearRun phase found
  | @join logicId rest worker phase found ended =>
    have calls : tms.calling = some logicId := by simp only [calling, phase]
    have listed : tms.remaining = rest := by simp only [remaining, phase]
    refine ⟨sound.workers, ?_, ?_, (fun _ calling => nomatch calling), fun other member => ?_⟩
    · rw [← listed]
      exact sound.distinct
    · intro other member
      exact sound.uncalled other (listed ▸ member)
    · rcases List.mem_cons.mp member with rfl | before
      · obtain ⟨same, isFound, called⟩ := sound.called other calls
        cases found.symm.trans isFound
        exact ⟨worker, found, called, ended⟩
      · exact sound.ended other before

theorem returnsDrained_of_ne (other : action ≠ .join) : tms.ReturnsDrained action := by
  cases action with
  | join => exact absurd rfl other
  | _ => trivial

theorem step_runsAll_iff (sound : tms.Sound) (runs : tms.RunsAll)
    (stepped : tms.step action = some next) : next.RunsAll ↔ tms.ReturnsDrained action := by
  cases stepped_of_step sound stepped with
  | quiet other workers returned =>
    refine iff_of_true ?_ (returnsDrained_of_ne other)
    simp only [RunsAll, Has, returned, workers]
    exact runs
  | moved other found move workers returned =>
    refine iff_of_true (fun logicId member => ?_) (returnsDrained_of_ne other)
    rw [returned] at member
    refine (runs logicId member).update workers found fun ⟨call, called, ran⟩ => ?_
    exact ⟨call, move.called.trans called, ran.trans move.executed.sublist.subperm⟩
  | @clearRun logicId rest worker phase found =>
    have listed : tms.remaining = logicId :: rest := by simp only [remaining, phase]
    have uncalled := sound.uncalled logicId (listed ▸ .head _) worker found
    refine iff_of_true (fun other member => ?_) trivial
    refine (runs other member).update rfl found fun ⟨call, called, _⟩ => ?_
    cases called.symm.trans uncalled
  | @join logicId rest worker phase found ended =>
    have calls : tms.calling = some logicId := by simp only [calling, phase]
    have ranAll : ∀ call, worker.called = some call →
        (worker.RanAll call ↔ TmsWorker.Drained call) := fun call called =>
      (sound.workers logicId worker found).ranAll_iff called ended
    have running : tms.call = worker.called := by simp [TmsShutdown.call, calls, found]
    simp only [ReturnsDrained, running]
    constructor
    · intro returns call called
      obtain ⟨same, isFound, call', called', ran⟩ := returns logicId (.head _)
      cases found.symm.trans isFound
      cases called.symm.trans called'
      exact (ranAll call called).mp ran
    · intro drained other member
      rcases List.mem_cons.mp member with rfl | before
      · obtain ⟨same, isFound, called⟩ := sound.called other calls
        cases found.symm.trans isFound
        obtain ⟨call, called⟩ := Option.isSome_iff_exists.mp called
        exact ⟨worker, found, call, called,
          (ranAll call called).mpr (drained call called)⟩
      · exact runs other before

/-- Every `Close` that has returned left no earlier task behind exactly if all were called drained.
-/
theorem runsAll_iff_returnsDrained (threadModuleList : List UInt16) (created : List UInt32)
    {actions : List (ShutdownAction Task)} {finish : TmsShutdown Task}
    (ran : run step (started threadModuleList created) actions = some finish) :
    Always step RunsAll (started threadModuleList created) actions ↔
      Throughout step ReturnsDrained (started threadModuleList created) actions :=
  always_iff_throughout (fun _ _ _ sound stepped => step_sound sound stepped)
    (fun _ _ _ sound runs stepped => step_runsAll_iff sound runs stepped)
    (started_sound threadModuleList created) (fun _ member => nomatch member) ran

def idleWorkers : List (ShutdownAction Nat) :=
  [.addMessage 0 5, .testRun 0, .pop 0, .finish 0, .testRun 0, .close, .queueClose, .queueClose,
    .testRun 1, .pop 1, .finish 1, .tmsClose, .clearRun, .putClose, .pop 0, .finish 0, .testRun 0,
    .join, .clearRun, .putClose, .testRun 1, .join]

theorem runsAll_idleWorkers : Always step RunsAll (started [0, 1] [1, 0]) idleWorkers :=
  (runsAll_iff_returnsDrained [0, 1] [1, 0] (Option.some_get
    (show (run step (started [0, 1] [1, 0]) idleWorkers).isSome = true by decide)).symm).mpr
      (by decide)

/-- Two tasks wait when `m_run` is cleared, and `Close` returns without them. -/
theorem close_abandons_tasks :
    ∃ finish worker call, run step (started [0] [0])
      [.addMessage 0 7, .close, .queueClose, .tmsClose, .clearRun, .putClose, .testRun 0, .join] =
        some finish ∧
      finish.returned = [0] ∧ finish.workers 0 = some worker ∧ worker.called = some call ∧
      call.handed = [.posted 7, .closeSessions 0] ∧ worker.executed = [] :=
  ⟨_, _, _, rfl, rfl, rfl, rfl, rfl, rfl⟩

end TmsShutdown

end PssAsio
