import PssAsio.NetSvrManagerCore
import PssAsio.TransitionRuns

/-!
Starting and closing single services.
-/

namespace PssAsio

open TransitionRuns NetSvrManager

def ConfigNetIo.Supported (netio : ConfigNetIo) : Prop :=
  netio.protocolType = .connectIoTcp ∨ netio.protocolType = .connectIoUdp

def ServiceTask.netio : ServiceTask → ConfigNetIo
  | .start netio => netio
  | .close netio => netio

def ServiceTask.starts : ServiceTask → Bool
  | .start _ => true
  | .close _ => false

inductive SingleServices.ServiceAction where
  | startSingleService (netio : ConfigNetIo)
  | closeSingleService (netio : ConfigNetIo)
  | runTask
  | sendAcceptListenFail (serverIp : String) (serverPort : UInt16)
  deriving DecidableEq, Repr

def ServiceTask.call : ServiceTask → SingleServices.ServiceAction
  | .start netio => .startSingleService netio
  | .close netio => .closeSingleService netio

namespace SingleServices

variable (state : SingleServices)

/-- The accept handler of a TCP server that is closed or broken, registered or not. -/
def sendAcceptListenFail (serverIp : String) (serverPort : UInt16) : SingleServices :=
  { state with manager := state.manager.delAcceptNetIoEvent serverIp serverPort .connectIoTcp }

def step : ServiceAction → Option SingleServices
  | .startSingleService netio => some (state.startSingleService netio)
  | .closeSingleService netio => some (state.closeSingleService netio)
  | .runTask =>
      match state.tasks with
      | [] => none
      | task :: rest => some ({ state with tasks := rest }.runTask task)
  | .sendAcceptListenFail serverIp serverPort =>
      some (state.sendAcceptListenFail serverIp serverPort)

def registered (netio : ConfigNetIo) : Option IoNetServer :=
  (state.manager.services netio.protocolType).lookup (ioKey netio.ip netio.port)

/-- Not the accept handler, which can make room for a second start. -/
def ServiceAction.Undisturbed : ServiceAction → Prop
  | .sendAcceptListenFail _ _ => False
  | _ => True

structure StartsOnce (action : ServiceAction) : Prop where
  free : action = .runTask → ∀ netio, state.tasks.head? = some (.start netio) →
    state.registered netio = none
  kept : ∀ next netio before after, state.step action = some next →
    state.registered netio = some before → next.registered netio = some after → after = before

def waiting (netio : ConfigNetIo) : List ServiceTask :=
  state.tasks.filter fun task => task.netio = netio

def StartsApart : ServiceAction → Prop
  | .startSingleService netio =>
      state.isFind netio = false → (state.waiting netio).getLast? ≠ some (.start netio)
  | _ => True

instance (action : ServiceAction) : Decidable (state.StartsApart action) := by
  unfold StartsApart
  split <;> infer_instance

def Alternates : (held : Bool) → List ServiceTask → Prop
  | _, [] => True
  | held, .start _ :: rest => held = false ∧ Alternates true rest
  | _, .close _ :: rest => Alternates false rest

def heldAfter : (held : Bool) → List ServiceTask → Bool
  | held, [] => held
  | _, .start _ :: rest => heldAfter true rest
  | _, .close _ :: rest => heldAfter false rest

theorem alternates_append (held : Bool) (tasks : List ServiceTask) (task : ServiceTask) :
    Alternates held (tasks ++ [task]) ↔
      Alternates held tasks ∧ Alternates (heldAfter held tasks) [task] := by
  induction tasks generalizing held with
  | nil => simp [Alternates, heldAfter]
  | cons first rest ih =>
    cases first with
    | start netio => simp only [List.cons_append, Alternates, heldAfter, ih, and_assoc]
    | close netio => simp only [List.cons_append, Alternates, heldAfter, ih]

theorem Alternates.free {held : Bool} {tasks : List ServiceTask}
    (alternates : Alternates held tasks) :
    Alternates false tasks := by
  cases tasks with
  | nil => trivial
  | cons task rest =>
    cases task with
    | start netio => exact ⟨rfl, alternates.2⟩
    | close netio => exact alternates

theorem heldAfter_false_iff {netio : ConfigNetIo} (held : Bool) {tasks : List ServiceTask}
    (own : ∀ task ∈ tasks, task.netio = netio) :
    heldAfter held tasks = false ↔
      tasks.getLast? ≠ some (.start netio) ∧ (tasks = [] → held = false) := by
  induction tasks generalizing held with
  | nil => simp [heldAfter]
  | cons first rest ih =>
    obtain ⟨here, later⟩ := List.forall_mem_cons.mp own
    cases rest with
    | nil =>
      cases first with
      | start other => simp [heldAfter, show other = netio from here]
      | close other => simp [heldAfter]
    | cons second rest =>
      cases first with
      | start other => simpa [heldAfter] using ih true later
      | close other => simpa [heldAfter] using ih false later

variable {state next : SingleServices} {netio other : ConfigNetIo}

theorem same_place_iff :
    netio.protocolType = other.protocolType ∧
      ioKey other.ip other.port = ioKey netio.ip netio.port ↔ other = netio := by
  constructor
  · rintro ⟨types, keys⟩
    obtain ⟨ips, ports⟩ := ioKey_inj keys
    obtain ⟨ip, port, protocolType⟩ := netio
    obtain ⟨otherIp, otherPort, otherType⟩ := other
    simp_all
  · rintro rfl
    exact ⟨rfl, rfl⟩

theorem createService_registered (supported : netio.Supported) :
    (state.createService netio).registered other =
      if other = netio then some ⟨state.objects, netio.ip, netio.port, netio.protocolType⟩
      else state.registered other := by
  have own : listOf netio.protocolType = some netio.protocolType := by
    rcases supported with tcp | udp
    · rw [tcp]
      rfl
    · rw [udp]
      rfl
  simp only [registered, createService, addAcceptNetIoEvent_lookup, own, Option.some.injEq,
    same_place_iff]

theorem closeService_manager (supported : netio.Supported)
    (found : state.registered netio ≠ none) :
    (state.closeService netio).manager =
      state.manager.delAcceptNetIoEvent netio.ip netio.port netio.protocolType := by
  obtain ⟨server, held⟩ := Option.ne_none_iff_exists'.mp found
  rcases supported with tcp | udp
  · simp only [registered, tcp, services] at held
    simp only [closeService, tcp, held, delAcceptNetIoEvent]
  · simp only [registered, udp, services] at held
    simp only [closeService, udp, held, delAcceptNetIoEvent]

theorem closeService_absent (supported : netio.Supported)
    (absent : state.registered netio = none) : state.closeService netio = state := by
  rcases supported with tcp | udp
  · simp only [registered, tcp, services] at absent
    simp only [closeService, tcp, absent]
  · simp only [registered, udp, services] at absent
    simp only [closeService, udp, absent]

theorem closeService_registered (supported : netio.Supported) :
    (state.closeService netio).registered other =
      if other = netio then none else state.registered other := by
  by_cases absent : state.registered netio = none
  · rw [closeService_absent supported absent]
    split
    · rename_i same
      rw [same, absent]
    · rfl
  · have noSsl : netio.protocolType ≠ .connectIoSsl := by
      rcases supported with tcp | udp
      · simp [tcp]
      · simp [udp]
    simp only [registered, closeService_manager supported absent]
    rw [delAcceptNetIoEvent_lookup _ _ _ _ _ _ fun ssl => absurd ssl noSsl]
    simp only [same_place_iff]

theorem sendAcceptListenFail_registered (serverIp : String) (serverPort : UInt16) :
    (state.sendAcceptListenFail serverIp serverPort).registered netio =
      if netio = ⟨serverIp, serverPort, .connectIoTcp⟩ then none else state.registered netio := by
  simp only [registered, sendAcceptListenFail]
  rw [delAcceptNetIoEvent_lookup _ _ _ _ _ _ (by simp)]
  exact if_congr (@same_place_iff ⟨serverIp, serverPort, .connectIoTcp⟩ netio) rfl rfl

theorem isFind_iff (supported : netio.Supported) :
    state.isFind netio = (state.registered netio).isSome := by
  rcases supported with tcp | udp
  · simp only [isFind, registered, tcp, services]
  · simp only [isFind, registered, udp, services]

theorem waiting_addMessage (task : ServiceTask) :
    (state.addMessage task).waiting netio =
      state.waiting netio ++ if task.netio = netio then [task] else [] := by
  simp only [waiting, addMessage, List.filter_append, List.filter_singleton]
  congr 1
  simp

theorem waiting_own : ∀ task ∈ state.waiting netio, task.netio = netio := by
  simp [waiting]

def Handled (state : SingleServices) : Prop :=
  ∀ task ∈ state.tasks, task.netio.Supported

def Alternating (state : SingleServices) : Prop :=
  ∀ netio, Alternates (state.registered netio).isSome (state.waiting netio)

inductive Stepped (state : SingleServices) : ServiceAction → SingleServices → Prop where
  | ignored {netio : ConfigNetIo} (reason : state.isFind netio = true ∨ ¬netio.Supported) :
      Stepped state (.startSingleService netio) state
  | unsupported (netio : ConfigNetIo) : Stepped state (.closeSingleService netio) state
  | queued {task : ServiceTask} (supported : task.netio.Supported)
      (absent : task.starts = true → state.isFind task.netio = false) :
      Stepped state task.call (state.addMessage task)
  | ran {task : ServiceTask} {rest : List ServiceTask} (tasks : state.tasks = task :: rest) :
      Stepped state .runTask ({ state with tasks := rest }.runTask task)
  | failed (serverIp : String) (serverPort : UInt16) :
      Stepped state (.sendAcceptListenFail serverIp serverPort)
        (state.sendAcceptListenFail serverIp serverPort)

theorem stepped_of_step {action : ServiceAction} (stepped : state.step action = some next) :
    Stepped state action next := by
  cases action with
  | startSingleService netio =>
    cases stepped
    simp only [startSingleService]
    cases found : state.isFind netio with
    | true => exact .ignored (.inl found)
    | false =>
      cases type : netio.protocolType with
      | connectIoTcp | connectIoUdp =>
        have supported : (ServiceTask.start netio).netio.Supported := by
          simp [ServiceTask.netio, ConfigNetIo.Supported, type]
        exact .queued supported fun _ => found
      | _ => exact .ignored (.inr (by simp [ConfigNetIo.Supported, type]))
  | closeSingleService netio =>
    cases stepped
    simp only [closeSingleService]
    cases type : netio.protocolType with
    | connectIoTcp | connectIoUdp =>
      have supported : (ServiceTask.close netio).netio.Supported := by
        simp [ServiceTask.netio, ConfigNetIo.Supported, type]
      exact .queued supported nofun
    | _ => exact .unsupported netio
  | runTask =>
    simp only [step] at stepped
    split at stepped
    · cases stepped
    · rename_i task rest tasks
      cases stepped
      exact .ran tasks
  | sendAcceptListenFail serverIp serverPort =>
    cases stepped
    exact .failed serverIp serverPort

section Calls

theorem addMessage_alternating_iff (alternating : state.Alternating) (task : ServiceTask) :
    (state.addMessage task).Alternating ↔
      Alternates (heldAfter (state.registered task.netio).isSome
        (state.waiting task.netio)) [task] := by
  constructor
  · intro all
    have own := all task.netio
    rw [waiting_addMessage, if_pos rfl, alternates_append] at own
    exact own.2
  · intro last netio
    rw [waiting_addMessage]
    split
    · rename_i same
      subst same
      exact (alternates_append _ _ _).mpr ⟨alternating _, last⟩
    · rw [List.append_nil]
      exact alternating netio

theorem sendAcceptListenFail_alternating (alternating : state.Alternating) (serverIp : String)
    (serverPort : UInt16) : (state.sendAcceptListenFail serverIp serverPort).Alternating := by
  intro netio
  rw [sendAcceptListenFail_registered]
  split
  · exact (alternating netio).free
  · exact alternating netio

end Calls

section Tasks

variable {task : ServiceTask} {rest : List ServiceTask}

theorem waiting_cons (tasks : state.tasks = task :: rest) :
    state.waiting netio = (if task.netio = netio then [task] else []) ++
      ({ state with tasks := rest } : SingleServices).waiting netio := by
  simp only [waiting, tasks, List.filter_cons]
  by_cases own : task.netio = netio
  · simp [own]
  · simp [own]

theorem alternates_cons (held : Bool) :
    Alternates held (task :: rest) ↔
      (task.starts = true → held = false) ∧
        Alternates task.starts rest := by
  cases task with
  | start netio | close netio => simp [Alternates, ServiceTask.starts]

theorem runTask_registered (supported : task.netio.Supported) :
    ((state.runTask task).registered other).isSome =
      if other = task.netio then task.starts
      else (state.registered other).isSome := by
  cases task with
  | start netio =>
    have own : netio.Supported := supported
    rw [runTask, createService_registered own]
    exact apply_ite Option.isSome _ _ _
  | close netio =>
    have own : netio.Supported := supported
    rw [runTask, closeService_registered own]
    exact apply_ite Option.isSome _ _ _

theorem runTask_tasks (state : SingleServices) (task : ServiceTask) :
    (state.runTask task).tasks = state.tasks := by
  cases task with
  | start netio => rfl
  | close netio =>
    simp only [runTask, closeService]
    split
    · split
      · rfl
      · rfl
    · split
      · rfl
      · rfl
    · rfl

theorem runTask_alternating_iff (supported : task.netio.Supported)
    (tasks : state.tasks = task :: rest) :
    state.Alternating ↔
      (task.starts = true → state.registered task.netio = none) ∧
        ({ state with tasks := rest }.runTask task).Alternating := by
  have held (other : ConfigNetIo) :
      (({ state with tasks := rest }.runTask task).registered other).isSome =
        if other = task.netio then task.starts
        else (state.registered other).isSome := runTask_registered supported
  have waits (other : ConfigNetIo) :
      ({ state with tasks := rest }.runTask task).waiting other =
        ({ state with tasks := rest } : SingleServices).waiting other := by
    rw [waiting, runTask_tasks]
    rfl
  constructor
  · intro all
    have own := all task.netio
    rw [waiting_cons tasks, if_pos rfl, List.singleton_append, alternates_cons] at own
    refine ⟨fun starts => by simpa using own.1 starts, fun other => ?_⟩
    rw [held, waits]
    split
    · rename_i same
      rw [same]
      exact own.2
    · rename_i different
      have unaffected := all other
      rwa [waiting_cons tasks, if_neg (Ne.symm different), List.nil_append] at unaffected
  · rintro ⟨free, all⟩ other
    have after := all other
    rw [held, waits] at after
    rw [waiting_cons tasks]
    by_cases same : other = task.netio
    · rw [if_pos same] at after
      rw [if_pos same.symm, List.singleton_append, alternates_cons]
      refine ⟨fun starts => ?_, after⟩
      rw [same, free starts]
      rfl
    · rw [if_neg same] at after
      rwa [if_neg (Ne.symm same), List.nil_append]

end Tasks

theorem Handled.step {action : ServiceAction} (handled : state.Handled)
    (stepped : state.step action = some next) : next.Handled := by
  cases stepped_of_step stepped with
  | ignored reason | unsupported netio | failed serverIp serverPort => exact handled
  | queued supported absent => exact List.forall_mem_append.mpr ⟨handled, by simpa using supported⟩
  | ran tasks =>
    unfold Handled at handled ⊢
    rw [tasks] at handled
    rw [runTask_tasks]
    exact (List.forall_mem_cons.mp handled).2

theorem runTask_keeps (state : SingleServices) {task : ServiceTask} {before after : IoNetServer}
    (supported : task.netio.Supported)
    (free : task.starts = true → state.registered task.netio = none)
    (held : state.registered other = some before)
    (heldAfter : (state.runTask task).registered other = some after) : after = before := by
  cases task with
  | start netio =>
    have own : netio.Supported := supported
    have absent : state.registered netio = none := free rfl
    have different : other ≠ netio := by
      rintro rfl
      rw [absent] at held
      cases held
    rw [runTask, createService_registered own, if_neg different, held] at heldAfter
    exact (Option.some.inj heldAfter).symm
  | close netio =>
    have own : netio.Supported := supported
    rw [runTask, closeService_registered own] at heldAfter
    split at heldAfter
    · cases heldAfter
    · rw [held] at heldAfter
      exact (Option.some.inj heldAfter).symm

theorem startsOnce_of_alternating (handled : state.Handled) (alternating : state.Alternating)
    (action : ServiceAction) : state.StartsOnce action := by
  have free {task : ServiceTask} {rest : List ServiceTask} (tasks : state.tasks = task :: rest) :
      task.netio.Supported ∧ (task.starts = true → state.registered task.netio = none) := by
    have supported := handled task (by rw [tasks]; exact List.mem_cons_self)
    exact ⟨supported, ((runTask_alternating_iff supported tasks).mp alternating).1⟩
  constructor
  · rintro rfl netio head
    obtain ⟨rest, tasks⟩ := List.head?_eq_some_iff.mp head
    exact (free tasks).2 rfl
  · intro next netio before after stepped held heldAfter
    cases stepped_of_step stepped with
    | ignored reason | unsupported _ | queued supported absent =>
      exact Option.some.inj (heldAfter.symm.trans held)
    | @ran task rest tasks =>
      exact runTask_keeps { state with tasks := rest } (free tasks).1 (free tasks).2 held heldAfter
    | failed serverIp serverPort =>
      rw [sendAcceptListenFail_registered, Option.ite_none_left_eq_some] at heldAfter
      exact Option.some.inj (heldAfter.2.symm.trans held)

theorem alternating_of_addMessage {task : ServiceTask}
    (alternating : (state.addMessage task).Alternating) : state.Alternating := by
  intro netio
  have after := alternating netio
  rw [waiting_addMessage] at after
  split at after
  · exact ((alternates_append _ _ _).mp after).1
  · rwa [List.append_nil] at after

theorem alternating_of_step {action : ServiceAction} (handled : state.Handled)
    (stepped : state.step action = some next) (once : state.StartsOnce action)
    (undisturbed : action.Undisturbed) (alternating : next.Alternating) : state.Alternating := by
  cases stepped_of_step stepped with
  | ignored reason | unsupported _ => exact alternating
  | queued supported absent => exact alternating_of_addMessage alternating
  | failed serverIp serverPort => exact undisturbed.elim
  | @ran task rest tasks =>
    have supported := handled task (by rw [tasks]; exact List.mem_cons_self)
    refine (runTask_alternating_iff supported tasks).mpr ⟨fun starts => ?_, alternating⟩
    cases task with
    | start netio => exact once.free rfl netio (by rw [tasks]; rfl)
    | close netio => cases starts

theorem step_alternating_iff {action : ServiceAction} (handled : state.Handled)
    (alternating : state.Alternating) (stepped : state.step action = some next) :
    next.Alternating ↔ state.StartsApart action := by
  cases stepped_of_step stepped with
  | @ignored netio reason =>
    refine iff_of_true alternating fun absent last => ?_
    rcases reason with found | unsupported
    · rw [absent] at found
      cases found
    · exact unsupported (handled _ (List.mem_filter.mp (List.mem_of_getLast? last)).1)
  | unsupported _ => exact iff_of_true alternating trivial
  | @queued task supported absent =>
    rw [addMessage_alternating_iff alternating]
    cases task with
    | close netio => exact iff_of_true trivial trivial
    | start netio =>
      have unregistered : (state.registered netio).isSome = false :=
        (isFind_iff supported).symm.trans (absent rfl)
      simp only [ServiceTask.call, StartsApart, ServiceTask.netio, Alternates, and_true,
        show state.isFind netio = false from absent rfl, unregistered,
        heldAfter_false_iff _ waiting_own, forall_const, implies_true]
  | @ran task rest tasks =>
    have supported := handled task (by rw [tasks]; exact List.mem_cons_self)
    exact iff_of_true ((runTask_alternating_iff supported tasks).mp alternating).2 trivial
  | failed serverIp serverPort =>
    exact iff_of_true (sendAcceptListenFail_alternating alternating _ _) trivial

section Runs

variable {start finish : SingleServices} {actions : List ServiceAction}

theorem handled_of_empty (empty : start.tasks = []) : start.Handled := by
  simp [Handled, empty]

theorem alternating_of_empty (empty : start.tasks = []) : start.Alternating := by
  intro netio
  rw [waiting, empty]
  trivial

theorem startsOnce_of_startsApart (empty : start.tasks = [])
    (apart : Throughout step StartsApart start actions) :
    Throughout step StartsOnce start actions := by
  have preserved : ∀ state action next, Handled state ∧ Alternating state →
      StartsApart state action → step state action = some next →
      Handled next ∧ Alternating next := by
    rintro state action next ⟨handled, alternating⟩ permitted stepped
    exact ⟨handled.step stepped, (step_alternating_iff handled alternating stepped).mpr permitted⟩
  refine throughout_of_invariant preserved ?_
    ⟨handled_of_empty empty, alternating_of_empty empty⟩ apart
  rintro state action ⟨handled, alternating⟩ _
  exact startsOnce_of_alternating handled alternating action

theorem startsApart_of_startsOnce (empty : start.tasks = [])
    (ran : run step start actions = some finish) (done : finish.tasks = [])
    (undisturbed : ∀ action ∈ actions, action.Undisturbed)
    (once : Throughout step StartsOnce start actions) :
    Throughout step StartsApart start actions := by
  have always : Always step (fun state => state.Handled → state.Alternating) start actions := by
    refine always_of_end ?_ ran (fun _ => alternating_of_empty done)
      (throughout_and once (throughout_of_mem undisturbed start))
    intro state action next stepped single alternating handled
    exact alternating_of_step handled stepped single.1 single.2
      (alternating (handled.step stepped))
  refine (always_iff_throughout ?_ ?_ (handled_of_empty empty)
    (fun _ => alternating_of_empty empty) ran).mp always
  · intro state action next handled stepped
    exact handled.step stepped
  · intro state action next handled alternating stepped
    rw [← step_alternating_iff handled (alternating handled) stepped]
    exact ⟨fun later => later (handled.step stepped), fun later _ => later⟩

/-- Starts that come apart are single ones; when all tasks of a run are done and no accept handler
has erased a server, also the other way round. -/
theorem startsOnce_iff_startsApart (start : SingleServices) (actions : List ServiceAction)
    (empty : start.tasks = []) :
    (Throughout step StartsApart start actions → Throughout step StartsOnce start actions) ∧
      ∀ finish, run step start actions = some finish → finish.tasks = [] →
        (∀ action ∈ actions, action.Undisturbed) →
        (Throughout step StartsOnce start actions ↔ Throughout step StartsApart start actions) := by
  refine ⟨startsOnce_of_startsApart empty, fun finish ran done undisturbed => ?_⟩
  exact ⟨startsApart_of_startsOnce empty ran done undisturbed, startsOnce_of_startsApart empty⟩

end Runs

def idle : SingleServices := ⟨.empty, [], 0, []⟩

def tcpService : ConfigNetIo := ⟨"127.0.0.1", 10012, .connectIoTcp⟩

theorem restarted_once :
    Throughout step StartsOnce idle [.startSingleService tcpService, .runTask,
      .closeSingleService tcpService, .runTask, .startSingleService tcpService, .runTask,
      .sendAcceptListenFail "127.0.0.1" 10012, .startSingleService tcpService, .runTask] :=
  (startsOnce_iff_startsApart idle _ rfl).1 (by decide)

theorem started_twice :
    ¬Throughout step StartsOnce idle [.startSingleService tcpService,
      .startSingleService tcpService, .runTask, .runTask] := by
  rintro ⟨-, -, -, second, -⟩
  have absent := second.free rfl tcpService rfl
  revert absent
  decide

end SingleServices

end PssAsio
