import PssAsio.KcpListenerCore
import PssAsio.TtyReads
import PssAsio.UdpServerCore
import PssAsio.WorkThreadOrder

/-!
The close tasks that reading a connection leads to, for all session classes.
-/

namespace PssAsio

open TransitionRuns KeyedQueues

inductive ReadPhase where
  | rearming
  | reading
  | stopped
  deriving DecidableEq, Repr

structure SocketReader where
  kind : BridgeClass
  session : BridgeSession
  phase : ReadPhase
  isOpen : Bool

inductive ReadObject (Peer : Type) where
  | socket (reader : SocketReader)
  | tty (port : TtyReads)
  | udp (server : UdpServer Peer)
  | kcp (server : KcpListener Peer)

inductive LogicCall where
  | work (action : WorkAction)
  | addMessage (logicId connectId : UInt32)
  deriving DecidableEq

structure CloseTask where
  connectId : UInt32
  logicId : UInt32
  accepted : Bool
  deriving DecidableEq, Repr

structure CloseHost (Peer : Type) where
  logic : WorkThreadLogic
  objects : List (ReadObject Peer)
  closes : List CloseTask

inductive CloseAction (Peer : Type) where
  | startSocket (kind : BridgeClass) (connectId recvSize sendSize : UInt32)
  | startTty (connectId recvSize sendSize : UInt32)
  | startUdp (recvSize countIndex : UInt32)
  | startKcp (recvSize countIndex : UInt32)
  | doRead (index : Nat)
  | readSome (index : Nat) (data : List UInt8) (verdict : ReceiveVerdict)
  | readError (index : Nat)
  | closeSocket (index : Nat)
  | setIoBridgeConnectId (index : Nat) (toIoConnectId : UInt32)
  | tty (index : Nat) (action : TtyReadAction)
  | udp (index : Nat) (action : UdpAction Peer)
  | kcp (index : Nat) (action : KcpListenerAction Peer)
  | work (action : WorkAction)
  deriving DecidableEq

namespace SocketReader

def started (kind : BridgeClass) (connectId recvSize sendSize : UInt32) (fresh : Nat → UInt8) :
    SocketReader :=
  ⟨kind, BridgeSession.opened connectId recvSize sendSize fresh, .rearming, true⟩

variable (reader : SocketReader)

def Full : Prop := reader.session.sessionRecvBuffer.getBufferSize = 0
  deriving Decidable

def fullCalls : List LogicCall :=
  if reader.Full then
    match reader.kind with
    | .tcpSession | .tcpSslSession | .udpClientSession =>
        [.work (.closeSessionEvent reader.session.connectId)]
    | .tcpClientSession | .tcpSslClientSession => [.addMessage 1 reader.session.connectId]
    | .ttyServer => []
  else []

def doRead : Option (SocketReader × List LogicCall) :=
  if reader.phase = .rearming then some ({ reader with phase := .reading }, reader.fullCalls)
  else none

def Ignores : Prop :=
  reader.kind = .udpClientSession ∧ reader.isOpen = false
  deriving Decidable

def doReadSome (data : List UInt8) (verdict : ReceiveVerdict) :
    Option (SocketReader × List LogicCall) :=
  if reader.phase = .reading then
    if reader.Ignores then some ({ reader with phase := .stopped }, [])
    else
      (reader.kind.receive reader.session data verdict).map fun (session, delivery) =>
        ({ reader with session := session, phase := .rearming },
          (delivery.calls verdict).map .work)
  else none

def readError : Option (SocketReader × List LogicCall) :=
  if reader.phase = .reading then
    some ({ reader with phase := .stopped },
      if reader.Ignores then [] else [.work (.closeSessionEvent reader.session.connectId)])
  else none

def PostsDirectly : Prop :=
  reader.phase = .rearming ∧ reader.Full ∧
    (reader.kind = .tcpClientSession ∨ reader.kind = .tcpSslClientSession)
  deriving Decidable

end SocketReader

variable {Peer : Type}

namespace CloseHost

def started (threadCount : Nat) (commandToSessionFunction : List UInt16)
    (pluginThreads : List UInt32) : CloseHost Peer :=
  ⟨WorkThreadLogic.initWorkThreadLogic threadCount commandToSessionFunction pluginThreads, [], []⟩

variable (host : CloseHost Peer)

def post (logicId connectId : UInt32) : CloseHost Peer :=
  { host with
    logic := host.logic.addMessage logicId (.closeSession connectId)
    closes := host.closes ++ [⟨connectId, logicId,
      (host.logic.tms.addMessage logicId (.closeSession connectId)).2⟩] }

def perform : LogicCall → Option (CloseHost Peer)
  | .work (.closeSessionEvent connectId) =>
      (host.logic.threadModule connectId).map fun found => host.post found.1.toUInt32 connectId
  | .work action => (host.logic.step action).map fun logic => { host with logic := logic }
  | .addMessage logicId connectId => some (host.post logicId connectId)

def performAll (host : CloseHost Peer) : List LogicCall → Option (CloseHost Peer)
  | [] => some host
  | call :: rest => (host.perform call).bind fun next => next.performAll rest

def add (object : ReadObject Peer) (made : List LogicCall) : Option (CloseHost Peer) :=
  { host with objects := host.objects ++ [object] }.performAll made

def replace (index : Nat) (object : ReadObject Peer) (made : List LogicCall) :
    Option (CloseHost Peer) :=
  { host with objects := host.objects.set index object }.performAll made

def socket (index : Nat) : Option SocketReader :=
  match host.objects[index]? with
  | some (.socket reader) => some reader
  | _ => none

def onSocket (index : Nat) (handler : SocketReader → Option (SocketReader × List LogicCall)) :
    Option (CloseHost Peer) :=
  (host.socket index).bind fun reader =>
    (handler reader).bind fun (next, made) => host.replace index (.socket next) made

variable [DecidableEq Peer]

def step (fresh : Nat → UInt8) (host : CloseHost Peer) :
    CloseAction Peer → Option (CloseHost Peer)
  | .startSocket kind connectId recvSize sendSize =>
      -- Serial ports are started below.
      if kind = .ttyServer then none
      else
        host.add (.socket (SocketReader.started kind connectId recvSize sendSize fresh))
          [.work (.addThreadSession connectId)]
  | .startTty connectId recvSize sendSize =>
      host.add (.tty (TtyReads.started connectId recvSize sendSize fresh))
        [.work (.addThreadSession connectId)]
  | .startUdp recvSize countIndex =>
      host.add (.udp (UdpServer.started recvSize fresh countIndex)) []
  | .startKcp recvSize countIndex =>
      host.add (.kcp (KcpListener.started recvSize fresh countIndex)) []
  | .doRead index => host.onSocket index SocketReader.doRead
  | .readSome index data verdict =>
      host.onSocket index fun reader => reader.doReadSome data verdict
  | .readError index => host.onSocket index SocketReader.readError
  | .closeSocket index =>
      host.onSocket index fun reader => some ({ reader with isOpen := false }, [])
  | .setIoBridgeConnectId index toIoConnectId =>
      host.onSocket index fun reader => some ({ reader with
        session := reader.kind.setIoBridgeConnectId reader.session toIoConnectId }, [])
  | .tty index action =>
      match host.objects[index]? with
      | some (.tty port) =>
          (port.step action).bind fun next =>
            host.replace index (.tty next) ((next.calls.drop port.calls.length).map .work)
      | _ => none
  | .udp index action =>
      match host.objects[index]? with
      | some (.udp server) =>
          (server.step action).bind fun next =>
            host.replace index (.udp next) ((next.calls.drop server.calls.length).map .work)
      | _ => none
  | .kcp index action =>
      match host.objects[index]? with
      | some (.kcp server) =>
          (server.step action).bind fun next =>
            host.replace index (.kcp next) ((next.calls.drop server.calls.length).map .work)
      | _ => none
  | .work action => host.perform (.work action)

end CloseHost

def CloseTask.Owned (threadCount : Nat) (close : CloseTask) : Prop :=
  close.logicId = WorkThreadLogic.logicThread threadCount close.connectId ∧ close.accepted = true
  deriving Decidable

namespace CloseHost

variable (threadCount : Nat)

variable (host : CloseHost Peer)

def ClosesOwn : Prop :=
  (∀ close ∈ host.closes, close.Owned threadCount) ∧
    ∀ connectId, WorkThreadLogic.InOrder threadCount host.logic connectId

def directId : CloseAction Peer → Option UInt32
  | .doRead index =>
      (host.socket index).bind fun reader =>
        if reader.PostsDirectly then some reader.session.connectId else none
  | _ => none

variable (action : CloseAction Peer)

def Suited : Prop :=
  ∀ connectId ∈ host.directId action, connectId.toNat % threadCount = 1

instance : Decidable (host.Suited threadCount action) :=
  -- by name: `UInt32` is finite, and a search through it is an instance too
  Option.decidableForallMem (host.directId action)

structure Good : Prop where
  running : WorkThreadLogic.Running threadCount host.logic
  owned : ∀ close ∈ host.closes, close.Owned threadCount

variable {host next : CloseHost Peer} {threadCount}

theorem logicThread_open {logic : WorkThreadLogic}
    (running : WorkThreadLogic.Running threadCount logic) (positive : 1 ≤ threadCount)
    (connectId : UInt32) :
    (logic.tms.logicList.queue (WorkThreadLogic.logicThread threadCount connectId)).isSome :=
  running.opened _ (Nat.mod_lt _ positive)

def Works (host next : CloseHost Peer) : Prop :=
  ∃ objects, ∃ made : List WorkAction,
    { host with objects := objects }.performAll (made.map .work) = some next

theorem works_of_onSocket {index : Nat}
    {handler : SocketReader → Option (SocketReader × List LogicCall)}
    (handled : ∀ reader after made, host.socket index = some reader → handler reader = some (after,
      made) → ∃ works : List WorkAction, made = works.map .work)
    (stepped : host.onSocket index handler = some next) : host.Works next := by
  simp only [onSocket, Option.bind_eq_some_iff] at stepped
  obtain ⟨reader, found, ⟨after, made⟩, answered, performed⟩ := stepped
  obtain ⟨works, rfl⟩ := handled reader after made found answered
  exact ⟨_, works, performed⟩

variable (good : host.Good threadCount) (positive : 1 ≤ threadCount)

include good positive

theorem Good.closesOwn :
    host.ClosesOwn threadCount :=
  ⟨good.owned, fun connectId => good.running.inOrder positive connectId⟩

theorem Good.post {logicId connectId : UInt32}
    (own : logicId = WorkThreadLogic.logicThread threadCount connectId) :
    (host.post logicId connectId).Good threadCount := by
  subst own
  have accepted : (host.logic.tms.addMessage (WorkThreadLogic.logicThread threadCount connectId)
      (.closeSession connectId)).2 = true := by
    obtain ⟨tasks, opened⟩ :=
      Option.isSome_iff_exists.mp (logicThread_open good.running positive connectId)
    simp [Tms.addMessage, good.running.started, Queues.put, opened]
  constructor
  · apply good.running.addMessage
    intro other owner
    rw [← Option.some.inj owner]
  · intro close listed
    rcases List.mem_append.mp listed with before | last
    · exact good.owned close before
    · rw [List.mem_singleton.mp last]
      exact ⟨rfl, accepted⟩

variable (within : threadCount ≤ 65535)

include within

theorem Good.work {action : WorkAction}
    (performed : host.perform (.work action) = some next) : next.Good threadCount := by
  cases action with
  | closeSessionEvent connectId =>
    simp only [perform, Option.map_eq_some_iff] at performed
    obtain ⟨⟨index, workThreadId⟩, found, rfl⟩ := performed
    exact good.post positive (WorkThreadLogic.currThreadIndex_toUInt32 within
      good.running.counted (WorkThreadLogic.threadModule_index found))
  | _ =>
    simp only [perform, Option.map_eq_some_iff] at performed
    obtain ⟨logic, stepped, rfl⟩ := performed
    exact ⟨WorkThreadLogic.step_running within _ _ _ good.running stepped, good.owned⟩

theorem Good.performAll {made : List WorkAction}
    (performed : host.performAll (made.map .work) = some next) : next.Good threadCount := by
  induction made generalizing host with
  | nil => exact Option.some.inj performed ▸ good
  | cons action rest ih =>
    rw [List.map_cons, CloseHost.performAll, Option.bind_eq_some_iff] at performed
    obtain ⟨middle, first, later⟩ := performed
    exact ih (good.work positive within first) later

theorem Good.works (works : host.Works next) : next.Good threadCount := by
  obtain ⟨objects, made, performed⟩ := works
  have same : { host with objects := objects }.Good threadCount := ⟨good.running, good.owned⟩
  exact same.performAll positive within performed

end CloseHost

namespace SocketReader

variable {after reader : SocketReader} {made : List LogicCall}

theorem doRead_works (indirect : ¬reader.PostsDirectly)
    (answered : reader.doRead = some (after, made)) :
    ∃ works : List WorkAction, made = works.map .work := by
  simp only [doRead, Option.ite_none_right_eq_some, Option.some.injEq, Prod.mk.injEq] at answered
  obtain ⟨rearming, -, rfl⟩ := answered
  unfold fullCalls
  split
  · rename_i full
    cases kind : reader.kind with
    | tcpSession | tcpSslSession | udpClientSession =>
      exact ⟨[.closeSessionEvent reader.session.connectId], rfl⟩
    | tcpClientSession => exact absurd ⟨rearming, full, .inl kind⟩ indirect
    | tcpSslClientSession => exact absurd ⟨rearming, full, .inr kind⟩ indirect
    | ttyServer => exact ⟨[], rfl⟩
  · exact ⟨[], rfl⟩

theorem doRead_direct (direct : reader.PostsDirectly) : reader.doRead =
      some ({ reader with phase := .reading }, [.addMessage 1 reader.session.connectId]) := by
  obtain ⟨rearming, full, client | client⟩ := direct
  · rw [doRead, if_pos rearming, fullCalls, if_pos full, client]
  · rw [doRead, if_pos rearming, fullCalls, if_pos full, client]

theorem doReadSome_works {data : List UInt8} {verdict : ReceiveVerdict}
    (answered : reader.doReadSome data verdict = some (after, made)) :
    ∃ works : List WorkAction, made = works.map .work := by
  simp only [doReadSome, Option.ite_none_right_eq_some] at answered
  obtain ⟨-, handled⟩ := answered
  split at handled
  · obtain ⟨-, rfl⟩ := Prod.mk.inj (Option.some.inj handled)
    exact ⟨[], rfl⟩
  · obtain ⟨⟨session, delivery⟩, -, same⟩ := Option.map_eq_some_iff.mp handled
    exact ⟨delivery.calls verdict, (Prod.mk.inj same).2.symm⟩

theorem readError_works (answered : reader.readError = some (after, made)) :
    ∃ works : List WorkAction, made = works.map .work := by
  simp only [readError, Option.ite_none_right_eq_some, Option.some.injEq, Prod.mk.injEq]
    at answered
  obtain ⟨-, -, rfl⟩ := answered
  split
  · exact ⟨[], rfl⟩
  · exact ⟨[.closeSessionEvent reader.session.connectId], rfl⟩

end SocketReader

namespace CloseHost

variable [DecidableEq Peer] {fresh : Nat → UInt8}

variable {action : CloseAction Peer} {host : CloseHost Peer}

theorem works_of_step {next : CloseHost Peer} (indirect : host.directId action = none)
    (stepped : host.step fresh action = some next) : host.Works next := by
  cases action with
  | startSocket kind connectId recvSize sendSize =>
    simp only [step, Option.ite_none_left_eq_some] at stepped
    exact ⟨_, [.addThreadSession connectId], stepped.2⟩
  | startTty connectId recvSize sendSize => exact ⟨_, [.addThreadSession connectId], stepped⟩
  | startUdp recvSize countIndex | startKcp recvSize countIndex => exact ⟨_, [], stepped⟩
  | doRead index =>
    refine works_of_onSocket (fun reader after made found answered => ?_) stepped
    refine SocketReader.doRead_works (fun direct => ?_) answered
    simp [directId, found, direct] at indirect
  | readSome index data verdict =>
    exact works_of_onSocket (fun _ _ _ _ => SocketReader.doReadSome_works) stepped
  | readError index =>
    exact works_of_onSocket (fun _ _ _ _ => SocketReader.readError_works) stepped
  | closeSocket index | setIoBridgeConnectId index toIoConnectId =>
    refine works_of_onSocket (fun _ _ _ _ answered => ?_) stepped
    exact ⟨[], (Prod.mk.inj (Option.some.inj answered)).2.symm⟩
  | tty index action =>
    simp only [step] at stepped
    split at stepped
    · obtain ⟨port, -, performed⟩ := Option.bind_eq_some_iff.mp stepped
      exact ⟨_, _, performed⟩
    · cases stepped
  | udp index action | kcp index action =>
    simp only [step] at stepped
    split at stepped
    · obtain ⟨server, -, performed⟩ := Option.bind_eq_some_iff.mp stepped
      exact ⟨_, _, performed⟩
    · cases stepped
  | work action =>
    refine ⟨host.objects, [action], ?_⟩
    rw [List.map_singleton, performAll]
    exact Option.bind_eq_some_iff.mpr ⟨next, stepped, rfl⟩

theorem step_direct (fresh : Nat → UInt8) {connectId : UInt32}
    (direct : host.directId action = some connectId) :
    ∃ objects, host.step fresh action =
      some ({ host with objects := objects }.post 1 connectId) := by
  cases action with
  | doRead index =>
    simp only [directId, Option.bind_eq_some_iff, Option.ite_none_right_eq_some] at direct
    obtain ⟨reader, found, posts, same⟩ := direct
    cases same
    exact ⟨_, by
      simp only [step, onSocket, found, Option.bind_some, SocketReader.doRead_direct posts,
        replace, performAll, perform]
      rfl⟩
  | _ => cases direct

theorem logicThread_eq_one_iff (threadCount : Nat) (connectId : UInt32) :
    1 = WorkThreadLogic.logicThread threadCount connectId ↔
      connectId.toNat % threadCount = 1 := by
  have below : connectId.toNat % threadCount < 2 ^ 32 :=
    Nat.lt_of_le_of_lt (Nat.mod_le _ _) connectId.toNat_lt
  rw [← UInt32.toNat_inj, WorkThreadLogic.logicThread, UInt32.toNat_ofNat_of_lt' below]
  exact eq_comm

theorem suited_iff {threadCount : Nat} (positive : 1 ≤ threadCount) (within : threadCount ≤ 65535)
    (good : host.Good threadCount) (action : CloseAction Peer) :
    host.Suited threadCount action ↔
      ∀ next, host.step fresh action = some next → next.ClosesOwn threadCount := by
  cases direct : host.directId action with
  | none =>
    refine iff_of_true (by simp [Suited, direct]) fun next stepped => ?_
    exact (good.works positive within (works_of_step direct stepped)).closesOwn positive
  | some connectId =>
    obtain ⟨objects, stepped⟩ := step_direct fresh direct
    have same : { host with objects := objects }.Good threadCount := ⟨good.running, good.owned⟩
    simp only [Suited, direct, Option.mem_some, forall_eq', stepped, Option.some.injEq,
      ← logicThread_eq_one_iff threadCount]
    constructor
    · intro own
      exact (same.post positive own).closesOwn positive
    · intro closesOwn
      exact (closesOwn.1 _ (List.mem_append_right _ (List.mem_singleton_self _))).1

theorem step_running {threadCount : Nat} (positive : 1 ≤ threadCount) (within : threadCount ≤ 65535)
    {next : CloseHost Peer} (good : host.Good threadCount) (kept : next.ClosesOwn threadCount)
    (stepped : host.step fresh action = some next) :
    WorkThreadLogic.Running threadCount next.logic := by
  cases direct : host.directId action with
  | none => exact (good.works positive within (works_of_step direct stepped)).running
  | some connectId =>
    obtain ⟨objects, found⟩ := step_direct fresh direct
    have same : { host with objects := objects }.Good threadCount := ⟨good.running, good.owned⟩
    obtain rfl := Option.some.inj (stepped.symm.trans found)
    have own := (kept.1 _ (List.mem_append_right _ (List.mem_singleton_self _))).1
    exact (same.post positive own).running

/-- Sessions are closed by their own worker unless a TCP client with a full buffer has another one.
-/
theorem closesOwn_iff_suited {threadCount : Nat} (positive : 1 ≤ threadCount)
    (within : threadCount ≤ 65535) (commandToSessionFunction : List UInt16)
    (pluginThreads : List UInt32) (actions : List (CloseAction Peer)) :
    Always (step fresh) (ClosesOwn threadCount)
        (started threadCount commandToSessionFunction pluginThreads) actions ↔
      Throughout (step fresh) (Suited threadCount)
        (started threadCount commandToSessionFunction pluginThreads) actions := by
  have running := WorkThreadLogic.init_running threadCount commandToSessionFunction pluginThreads
  have good : (started threadCount commandToSessionFunction pluginThreads :
      CloseHost Peer).Good threadCount := ⟨running, fun _ listed => by cases listed⟩
  have kept : ∀ (host : CloseHost Peer) action next,
      WorkThreadLogic.Running threadCount host.logic → host.ClosesOwn threadCount →
      next.ClosesOwn threadCount → host.step fresh action = some next →
      WorkThreadLogic.Running threadCount next.logic :=
    fun _ _ _ here owned later stepped =>
      step_running positive within ⟨here, owned.1⟩ later stepped
  exact always_iff_throughout_of_kept kept
    (fun _ action here owned => suited_iff positive within ⟨here, owned.1⟩ action) running
    (good.closesOwn positive)

theorem second_worker_closesOwn :
    Always (step fun _ => 0) (ClosesOwn 2) (started 2 [] [] : CloseHost Nat)
      [.startSocket .tcpClientSession 3 1 8, .doRead 0, .readSome 0 [7] ⟨some [], 0, false⟩,
        .doRead 0, .work (.svc 1), .work (.svc 1)] :=
  (closesOwn_iff_suited (by decide) (by decide) [] [] _).mpr (by decide)

/-- With one worker the close is dropped, with four it goes to the worker of another connection. -/
theorem full_client_buffer_misrouted :
    (run (step fun _ => 0) (started 1 [] [] : CloseHost Nat)
        [.startSocket .tcpClientSession 1 1 8, .doRead 0,
          .readSome 0 [7] ⟨some [], 0, false⟩, .doRead 0]).map (fun host => host.closes) =
        some [⟨1, 1, false⟩] ∧
      (run (step fun _ => 0) (started 4 [] [] : CloseHost Nat)
        [.startSocket .tcpClientSession 2 1 8, .doRead 0,
          .readSome 0 [7] ⟨some [], 0, false⟩, .doRead 0]).map (fun host => host.closes) =
        some [⟨2, 1, true⟩] ∧
      ¬ Always (step fun _ => 0) (ClosesOwn 1) (started 1 [] [] : CloseHost Nat)
        [.startSocket .tcpClientSession 1 1 8, .doRead 0,
          .readSome 0 [7] ⟨some [], 0, false⟩, .doRead 0] := by
  refine ⟨by decide, by decide, fun always => ?_⟩
  have owned : Always (step fun _ => 0) (fun host => ∀ close ∈ host.closes, close.Owned 1)
      (started 1 [] [] : CloseHost Nat)
      [.startSocket .tcpClientSession 1 1 8, .doRead 0,
        .readSome 0 [7] ⟨some [], 0, false⟩, .doRead 0] :=
    always_imp (fun _ closesOwn => closesOwn.1) always
  revert owned
  decide

end CloseHost

end PssAsio
