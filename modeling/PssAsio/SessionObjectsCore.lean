import PssAsio.SessionRegistrationCore

/-!
The session classes, from where each of them takes the address it registers with and the one it
withdraws. What a close leaves to another thread is in `pending`.
-/

namespace PssAsio

inductive SocketClass where
  | tcpSession
  | tcpClientSession
  | tcpSslSession
  | tcpSslClientSession
  | ttyServer
  | udpClientSession
  deriving DecidableEq, Repr

namespace SocketClass

def ioType : SocketClass → ConnectIoType
  | .tcpSession => .connectIoTcp
  | .tcpClientSession => .connectIoServerTcp
  | .tcpSslSession | .tcpSslClientSession => .connectIoSsl
  | .ttyServer => .connectIoTty
  | .udpClientSession => .connectIoServerUdp

def connectsLater : SocketClass → Bool
  | .tcpClientSession | .tcpSslClientSession => true
  | _ => false

/-- `close` uses `connect_id_`, not the connect id it is called with. -/
def closesOwnId : SocketClass → Bool
  | .tcpSession | .ttyServer => true
  | _ => false

/-- `close` returns at once when the socket is not open. -/
def checksOpen : SocketClass → Bool
  | .tcpSession | .udpClientSession => true
  | _ => false

theorem ioType_ne_kcp (socketClass : SocketClass) : socketClass.ioType ≠ .connectIoKcp := by
  cases socketClass <;> simp [ioType]

end SocketClass

structure SocketSession where
  socketClass : SocketClass
  serverId : Nat
  connectId : Nat
  remoteIp : ClientIpInfo
  isOpen : Bool
  deriving DecidableEq, Repr

namespace SocketSession

variable (session : SocketSession)

def endpoint : IoEndpoint :=
  ⟨session.remoteIp, session.socketClass.ioType⟩

def getMarkId : Nat :=
  match session.socketClass with
  | .tcpSession | .tcpSslSession => 0
  | _ => session.serverId

def threadSession (object connectId : Nat) : ThreadSession :=
  ⟨⟨object, connectId⟩, session.getMarkId, session.endpoint⟩

end SocketSession

structure PeerAddress where
  info : ClientIpInfo
  printed : info.clientIp ≠ "unset ip"
  deriving DecidableEq

inductive ServerClass where
  | udpServer
  | kcpServer
  deriving DecidableEq, Repr

def ServerClass.ioType : ServerClass → ConnectIoType
  | .udpServer => .connectIoUdp
  | .kcpServer => .connectIoKcp

structure EndpointServer where
  serverClass : ServerClass
  udpEndpoint2IdList : AList fun _ : PeerAddress => Nat
  udpId2EndpointList : AList fun _ : Nat => PeerAddress
  isOpen : Bool

namespace EndpointServer

variable (server : EndpointServer)

def getRemoteIp (connectId : Nat) : ClientIpInfo :=
  match server.udpId2EndpointList.lookup connectId with
  | some sendEndpoint => sendEndpoint.info
  | none => {}

def eraseEndpoint (connectId : Nat) : EndpointServer :=
  match server.udpId2EndpointList.lookup connectId with
  | some sendEndpoint =>
      { server with
        udpId2EndpointList := server.udpId2EndpointList.erase connectId
        udpEndpoint2IdList := server.udpEndpoint2IdList.erase sendEndpoint }
  | none => server

def threadSession (object connectId : Nat) (remoteIp : ClientIpInfo) : ThreadSession :=
  ⟨⟨object, connectId⟩, 0, ⟨remoteIp, server.serverClass.ioType⟩⟩

end EndpointServer

inductive SessionObject where
  | socket (session : SocketSession)
  | server (server : EndpointServer)

/-- What a thread still has to do. -/
inductive SessionTask where
  | added (session : ThreadSession)
  | dispatched (closing : ThreadSession)
  | looked (closing : ThreadSession)
  | cleared (closing : ThreadSession)
  | erase (object connectId : Nat)
  deriving DecidableEq, Repr

def SessionTask.adds (connectId : Nat) : SessionTask → Bool
  | .added session => session.session.sessionId = connectId
  | _ => false

structure SessionHost where
  objects : List SessionObject
  connectCounter : Nat
  pending : List SessionTask
  assigned : AList fun _ : Nat => IoEndpoint

inductive SessionAction where
  | openSession (socketClass : SocketClass) (remoteIp : ClientIpInfo) (serverId : Nat)
  | start (socketClass : SocketClass) (configured : ClientIpInfo) (serverId : Nat)
  | handleConnect (object : Nat) (remoteIp : ClientIpInfo)
  | listen (serverClass : ServerClass)
  | receive (object : Nat) (recvEndpoint : PeerAddress) (initKcp : Bool)
  | close (object connectId : Nat)
  | closeServer (object : Nat)
  | resume (index : Nat)
  | addSessionIoMapping (fromIo toIo : IoEndpoint) (bridgeType : IoBridgeType)
  | deleteSessionIoMapping (fromIo : IoEndpoint)

inductive RegistryCall where
  | addThreadSession (added : ThreadSession)
  | deleteThreadSession (closing : ThreadSession)
  | addSessionIoMapping (fromIo toIo : IoEndpoint) (bridgeType : IoBridgeType)
  | deleteSessionIoMapping (fromIo : IoEndpoint)
  deriving DecidableEq, Repr

namespace SessionHost

def init : SessionHost := ⟨[], 0, [], ∅⟩

variable (host : SessionHost)

def assign (remote : IoEndpoint) : SessionHost :=
  { host with
    connectCounter := host.connectCounter + 1
    assigned := host.assigned.insert (host.connectCounter + 1) remote }

def construct (object : SessionObject) : SessionHost :=
  { host with objects := host.objects ++ [object] }

variable (object : Nat)

def setObject (changed : SessionObject) : SessionHost :=
  { host with objects := host.objects.set object changed }

def post (tasks : List SessionTask) : SessionHost :=
  { host with pending := host.pending ++ tasks }

/-- `open` of the accepted sessions and `start` of those that connect in it. -/
def openSession (socketClass : SocketClass) (remoteIp : ClientIpInfo) (serverId : Nat) :
    SessionHost × RegistryCall :=
  let connectId := host.connectCounter + 1
  let session : SocketSession := ⟨socketClass, serverId, connectId, remoteIp, true⟩
  ((host.assign session.endpoint).construct (.socket session),
    .addThreadSession (session.threadSession host.objects.length connectId))

/-- `start` of the others; only `CTcpClientSession` stores the configured address. -/
def start (socketClass : SocketClass) (configured : ClientIpInfo) (serverId : Nat) : SessionHost :=
  let remoteIp := if socketClass = .tcpClientSession then configured else {}
  host.construct (.socket ⟨socketClass, serverId, 0, remoteIp, true⟩)

def handleConnect (session : SocketSession) (remoteIp : ClientIpInfo) :
    SessionHost × RegistryCall :=
  let connectId := host.connectCounter + 1
  let connected := { session with connectId, remoteIp }
  ((host.assign connected.endpoint).setObject object (.socket connected),
    .addThreadSession (connected.threadSession object connectId))

variable (server : EndpointServer)

/-- A KCP endpoint without a control block stays in the lists without being registered. -/
def addUdpEndpoint (recvEndpoint : PeerAddress) (initKcp : Bool) : SessionHost :=
  match server.udpEndpoint2IdList.lookup recvEndpoint with
  | some _ => host
  | none =>
      let connectId := host.connectCounter + 1
      let listed := { server with
        udpEndpoint2IdList := server.udpEndpoint2IdList.insert recvEndpoint connectId
        udpId2EndpointList := server.udpId2EndpointList.insert connectId recvEndpoint }
      let session := server.threadSession object connectId recvEndpoint.info
      let assigned := (host.assign session.remote).setObject object (.server listed)
      if server.serverClass = .kcpServer ∧ initKcp = false then assigned
      else assigned.post [.added session]

/-- The callers know the connect id of the session, or 0. -/
def closeSocket (session : SocketSession) (connectId : Nat) : Option SessionHost :=
  if connectId ≠ 0 ∧ connectId ≠ session.connectId then none
  else if session.socketClass.checksOpen ∧ session.isOpen = false then some host
  else
    let closedId := if session.socketClass.closesOwnId then session.connectId else connectId
    some (host.post [.dispatched (session.threadSession object closedId)])

def closeUdpEndpointById (connectId : Nat) : SessionHost :=
  if server.isOpen = false then host
  else
    match server.udpId2EndpointList.lookup connectId with
    | some sendEndpoint =>
        host.post [.looked (server.threadSession object connectId sendEndpoint.info)]
    | none => host.post [.erase object connectId]

/-- The endpoint is erased before its address is looked up. -/
def closeKcpEndpointById (connectId : Nat) : Option (SessionHost × RegistryCall) :=
  match server.udpId2EndpointList.lookup connectId with
  | none => none
  | some _ =>
      let erased := server.eraseEndpoint connectId
      some (host.setObject object (.server erased), .deleteThreadSession
        (erased.threadSession object connectId (erased.getRemoteIp connectId)))

/-- `CKcpServer::close` closes its endpoints one by one first. -/
def closeServer : Option SessionHost :=
  match server.serverClass with
  | .udpServer =>
      if server.isOpen = false then some host
      else
        let withdrawn := server.udpId2EndpointList.entries.map fun entry =>
          SessionTask.cleared (server.threadSession object entry.1 entry.2.info)
        some ((host.setObject object (.server { server with
          udpId2EndpointList := ∅, udpEndpoint2IdList := ∅, isOpen := false })).post withdrawn)
  | .kcpServer =>
      if server.udpId2EndpointList.entries.isEmpty then
        some (host.setObject object (.server { server with isOpen := false }))
      else none

def finish (index : Nat) : SessionHost :=
  { host with pending := host.pending.eraseIdx index }

def proceed (index : Nat) (task : SessionTask) : SessionHost :=
  { host with pending := host.pending.set index task }

def closeObject : SessionHost :=
  match host.objects[object]? with
  | some (.socket session) => host.setObject object (.socket { session with
      isOpen := decide (session.socketClass = .ttyServer) && session.isOpen })
  | _ => host

variable (connectId : Nat)

def eraseObject : SessionHost :=
  match host.objects[object]? with
  | some (.server server) => host.setObject object (.server (server.eraseEndpoint connectId))
  | _ => host

def resume (index : Nat) : SessionTask → SessionHost × Option RegistryCall
  | .added session => (host.finish index, some (.addThreadSession session))
  | .dispatched closing =>
      ((host.finish index).closeObject closing.session.session, some (.deleteThreadSession closing))
  | .looked closing =>
      (host.proceed index (.erase closing.session.session closing.session.sessionId),
        some (.deleteThreadSession closing))
  | .cleared closing => (host.finish index, some (.deleteThreadSession closing))
  | .erase object connectId => ((host.finish index).eraseObject object connectId, none)

def withCall (moved : SessionHost × RegistryCall) : SessionHost × Option RegistryCall :=
  (moved.1, some moved.2)

def closeSession : Option (SessionHost × Option RegistryCall) :=
  match host.objects[object]? with
  | some (.socket session) => (host.closeSocket object session connectId).map (·, none)
  | some (.server server) =>
      -- Nobody is told of a connect id before it is registered.
      if host.pending.any (·.adds connectId) then none
      else
        match server.serverClass with
        | .udpServer => some (host.closeUdpEndpointById object server connectId, none)
        | .kcpServer => (host.closeKcpEndpointById object server connectId).map withCall
  | none => none

def step : SessionAction → Option (SessionHost × Option RegistryCall)
  | .openSession socketClass remoteIp serverId =>
      if socketClass.connectsLater then none
      else some (withCall (host.openSession socketClass remoteIp serverId))
  | .start socketClass configured serverId =>
      if socketClass.connectsLater then some (host.start socketClass configured serverId, none)
      else none
  | .handleConnect object remoteIp =>
      match host.objects[object]? with
      | some (.socket session) =>
          if session.socketClass.connectsLater ∧ session.connectId = 0 then
            some (withCall (host.handleConnect object session remoteIp))
          else none
      | _ => none
  | .listen serverClass => some (host.construct (.server ⟨serverClass, ∅, ∅, true⟩), none)
  | .receive object recvEndpoint initKcp =>
      match host.objects[object]? with
      | some (.server server) =>
          if server.isOpen then some (host.addUdpEndpoint object server recvEndpoint initKcp, none)
          else none
      | _ => none
  | .close object connectId => host.closeSession object connectId
  | .closeServer object =>
      match host.objects[object]? with
      | some (.server server) => (host.closeServer object server).map (·, none)
      | _ => none
  | .resume index => (host.pending[index]?).map (host.resume index)
  | .addSessionIoMapping fromIo toIo bridgeType =>
      some (host, some (.addSessionIoMapping fromIo toIo bridgeType))
  | .deleteSessionIoMapping fromIo => some (host, some (.deleteSessionIoMapping fromIo))

/-! Connect ids are 0 or go with the address they were made for. -/

def Told (remote : IoEndpoint) : Prop :=
  connectId = 0 ∨ host.assigned.lookup connectId = some remote

def Carries : SessionObject → Nat → IoEndpoint → Prop
  | .socket session, connectId, remote =>
      session.connectId = connectId ∧ session.endpoint = remote
  | .server server, connectId, remote => ∃ sendEndpoint : PeerAddress,
      server.udpId2EndpointList.lookup connectId = some sendEndpoint ∧
        remote = ⟨sendEndpoint.info, server.serverClass.ioType⟩

def TaskTold : SessionTask → Prop
  | .added session => host.assigned.lookup session.session.sessionId = some session.remote
  | .dispatched closing | .looked closing | .cleared closing =>
      host.Told closing.session.sessionId closing.remote ∧
        closing.remote.ioType ≠ .connectIoKcp
  | .erase _ _ => True

structure Consistent : Prop where
  counted : ∀ {connectId remote}, host.assigned.lookup connectId = some remote →
    0 < connectId ∧ connectId ≤ host.connectCounter
  carried : ∀ object ∈ host.objects, ∀ connectId remote, Carries object connectId remote →
    host.Told connectId remote
  waiting : ∀ task ∈ host.pending, host.TaskTold task

def CallTold : RegistryCall → Prop
  | .addThreadSession added =>
      host.assigned.lookup added.session.sessionId = some added.remote
  | .deleteThreadSession closing =>
      host.Told closing.session.sessionId closing.remote ∧
          closing.remote.ioType ≠ .connectIoKcp ∨
        closing.remote = ⟨{}, .connectIoKcp⟩ ∧ ∃ sendEndpoint : PeerAddress,
          host.Told closing.session.sessionId ⟨sendEndpoint.info, .connectIoKcp⟩
  | .addSessionIoMapping .. | .deleteSessionIoMapping _ => True

structure Extends (next : SessionHost) : Prop where
  kept : ∀ {connectId remote}, host.assigned.lookup connectId = some remote →
    next.assigned.lookup connectId = some remote

structure Moves (moved : SessionHost × Option RegistryCall) : Prop where
  consistent : moved.1.Consistent
  grown : Extends host moved.1
  told : ∀ call ∈ moved.2, moved.1.CallTold call

variable {host next : SessionHost}

theorem Moves.silent (consistent : next.Consistent) (grown : Extends host next) :
    Moves host (next, none) :=
  ⟨consistent, grown, by simp⟩

theorem Moves.calling {call : RegistryCall} (consistent : next.Consistent)
    (grown : Extends host next) (told : next.CallTold call) : Moves host (next, some call) :=
  ⟨consistent, grown, by simpa using told⟩

theorem Extends.refl (host : SessionHost) : Extends host host := ⟨id⟩

variable {connectId object : Nat} {server : EndpointServer}

theorem Extends.told (grown : Extends host next) {remote : IoEndpoint}
    (told : host.Told connectId remote) : next.Told connectId remote :=
  told.imp_right grown.kept

theorem Extends.taskTold (grown : Extends host next) {task : SessionTask}
    (told : host.TaskTold task) : next.TaskTold task := by
  cases task with
  | added => exact grown.kept told
  | dispatched | looked | cleared => exact ⟨grown.told told.1, told.2⟩
  | erase => trivial

theorem consistent_init : init.Consistent := by
  refine ⟨?_, ?_, ?_⟩
  · intro connectId remote found
    exact absurd found (by simp [init])
  · intro object member
    exact absurd member List.not_mem_nil
  · intro task member
    exact absurd member List.not_mem_nil

theorem assign_lookup (host : SessionHost) (remote : IoEndpoint) :
    (host.assign remote).assigned.lookup (host.connectCounter + 1) = some remote :=
  AList.lookup_insert _

theorem carries_eraseEndpoint {erased : Nat} {remote : IoEndpoint}
    (carries : Carries (.server (server.eraseEndpoint erased)) connectId remote) :
    Carries (.server server) connectId remote := by
  obtain ⟨sendEndpoint, found, same⟩ := carries
  simp only [EndpointServer.eraseEndpoint] at found same
  split at found
  · rename_i other listed
    simp only [listed] at same
    by_cases equal : connectId = erased
    · subst equal
      rw [AList.lookup_erase] at found
      cases found
    · exact ⟨sendEndpoint, (AList.lookup_erase_ne equal).symm.trans found, same⟩
  · rename_i absent
    simp only [absent] at same
    exact ⟨sendEndpoint, found, same⟩

theorem getRemoteIp_eraseEndpoint (server : EndpointServer) (connectId : Nat) :
    (server.eraseEndpoint connectId).getRemoteIp connectId = {} := by
  cases listed : server.udpId2EndpointList.lookup connectId with
  | none | some => simp [EndpointServer.eraseEndpoint, EndpointServer.getRemoteIp, listed]

theorem serverClass_eraseEndpoint (server : EndpointServer) (connectId : Nat) :
    (server.eraseEndpoint connectId).serverClass = server.serverClass := by
  simp only [EndpointServer.eraseEndpoint]
  split <;> rfl

variable (consistent : host.Consistent)

include consistent

theorem consistent_assign (remote : IoEndpoint) :
    (host.assign remote).Consistent ∧ Extends host (host.assign remote) := by
  have extended : Extends host (host.assign remote) := by
    constructor
    intro connectId other found
    have old := (consistent.counted found).2
    exact (AList.lookup_insert_ne (by omega)).trans found
  refine ⟨⟨?_, ?_, ?_⟩, extended⟩
  · intro connectId other found
    by_cases new : connectId = host.connectCounter + 1
    · simp only [assign]
      omega
    · rw [assign, AList.lookup_insert_ne new] at found
      have old := consistent.counted found
      simp only [assign]
      omega
  · intro object member connectId other carries
    exact extended.told (consistent.carried object member connectId other carries)
  · intro task member
    exact extended.taskTold (consistent.waiting task member)

theorem consistent_construct {object : SessionObject}
    (told : ∀ connectId remote, Carries object connectId remote → host.Told connectId remote) :
    (host.construct object).Consistent := by
  refine ⟨consistent.counted, ?_, consistent.waiting⟩
  exact List.forall_mem_append.mpr ⟨consistent.carried, List.forall_mem_singleton.mpr told⟩

theorem consistent_setObject {object : SessionObject} (index : Nat)
    (told : ∀ connectId remote, Carries object connectId remote → host.Told connectId remote) :
    (host.setObject index object).Consistent := by
  refine ⟨consistent.counted, ?_, consistent.waiting⟩
  intro other member
  rcases List.mem_or_eq_of_mem_set member with old | rfl
  · exact consistent.carried other old
  · exact told

theorem consistent_post {tasks : List SessionTask}
    (told : ∀ task ∈ tasks, host.TaskTold task) : (host.post tasks).Consistent :=
  ⟨consistent.counted, consistent.carried,
    List.forall_mem_append.mpr ⟨consistent.waiting, told⟩⟩

theorem consistent_finish (index : Nat) : (host.finish index).Consistent :=
  ⟨consistent.counted, consistent.carried,
    fun task member => consistent.waiting task (List.mem_of_mem_eraseIdx member)⟩

theorem openSession_moves (socketClass : SocketClass) (remoteIp : ClientIpInfo) (serverId : Nat) :
    Moves host (withCall (host.openSession socketClass remoteIp serverId)) := by
  let session : SocketSession := ⟨socketClass, serverId, host.connectCounter + 1, remoteIp, true⟩
  obtain ⟨assigned, grown⟩ := consistent_assign consistent session.endpoint
  refine .calling (consistent_construct assigned ?_) ⟨grown.kept⟩
    (assign_lookup host session.endpoint)
  rintro connectId remote ⟨rfl, rfl⟩
  exact .inr (assign_lookup host session.endpoint)

theorem handleConnect_moves (object : Nat) (session : SocketSession) (remoteIp : ClientIpInfo) :
    Moves host (withCall (host.handleConnect object session remoteIp)) := by
  let connected := { session with connectId := host.connectCounter + 1, remoteIp }
  obtain ⟨assigned, grown⟩ := consistent_assign consistent connected.endpoint
  refine .calling (consistent_setObject assigned object ?_) ⟨grown.kept⟩
    (assign_lookup host connected.endpoint)
  rintro connectId remote ⟨rfl, rfl⟩
  exact .inr (assign_lookup host connected.endpoint)

theorem addUdpEndpoint_moves (member : .server server ∈ host.objects) (recvEndpoint : PeerAddress)
    (initKcp : Bool) :
    Moves host (host.addUdpEndpoint object server recvEndpoint initKcp, none) := by
  simp only [addUdpEndpoint]
  split
  · exact .silent consistent (.refl host)
  · let session := server.threadSession object (host.connectCounter + 1) recvEndpoint.info
    obtain ⟨assigned, grown⟩ := consistent_assign consistent session.remote
    have listed : ((host.assign session.remote).setObject object (.server { server with
        udpEndpoint2IdList :=
          server.udpEndpoint2IdList.insert recvEndpoint (host.connectCounter + 1)
        udpId2EndpointList := server.udpId2EndpointList.insert (host.connectCounter + 1)
          recvEndpoint })).Consistent := by
      apply consistent_setObject assigned
      rintro connectId remote ⟨sendEndpoint, found, rfl⟩
      by_cases new : connectId = host.connectCounter + 1
      · subst new
        rw [AList.lookup_insert, Option.some.injEq] at found
        subst found
        exact .inr (assign_lookup host session.remote)
      · rw [AList.lookup_insert_ne new] at found
        exact grown.told (consistent.carried _ member connectId _ ⟨sendEndpoint, found, rfl⟩)
    split
    · exact .silent listed ⟨grown.kept⟩
    · refine .silent (consistent_post listed ?_) ⟨grown.kept⟩
      exact List.forall_mem_singleton.mpr (assign_lookup host session.remote)

theorem closeSocket_moves {session : SocketSession} (member : .socket session ∈ host.objects)
    (closed : host.closeSocket object session connectId = some next) : Moves host (next, none) := by
  have told := consistent.carried _ member _ _ ⟨rfl, rfl⟩
  simp only [closeSocket] at closed
  split at closed
  · cases closed
  · rename_i known
    split at closed
    · cases closed
      exact .silent consistent (.refl host)
    · cases closed
      refine .silent (consistent_post consistent (List.forall_mem_singleton.mpr ⟨?_, ?_⟩)) ⟨id⟩
      · simp only [SocketSession.threadSession]
        split
        · exact told
        · by_cases zero : connectId = 0
          · exact .inl zero
          · have own : connectId = session.connectId := by_contra fun other => known ⟨zero, other⟩
            exact own ▸ told
      · exact session.socketClass.ioType_ne_kcp

theorem taskTold_server (member : .server server ∈ host.objects)
    (udp : server.serverClass = .udpServer) {sendEndpoint : PeerAddress}
    (found : server.udpId2EndpointList.lookup connectId = some sendEndpoint) :
    host.TaskTold (.looked (server.threadSession object connectId sendEndpoint.info)) := by
  constructor
  · exact consistent.carried _ member _ _ ⟨sendEndpoint, found, rfl⟩
  · simp [EndpointServer.threadSession, udp, ServerClass.ioType]

theorem closeUdpEndpointById_moves (member : .server server ∈ host.objects)
    (udp : server.serverClass = .udpServer) (object connectId : Nat) :
    Moves host (host.closeUdpEndpointById object server connectId, none) := by
  simp only [closeUdpEndpointById]
  split
  · exact .silent consistent (.refl host)
  · split
    · rename_i sendEndpoint found
      refine .silent (consistent_post consistent (List.forall_mem_singleton.mpr ?_)) ⟨id⟩
      exact taskTold_server consistent member udp found
    · exact .silent (consistent_post consistent (List.forall_mem_singleton.mpr trivial)) ⟨id⟩

/-- The address is never the one that was registered. -/
theorem closeKcpEndpointById_moves (member : .server server ∈ host.objects)
    (kcp : server.serverClass = .kcpServer) {moved : SessionHost × RegistryCall}
    (closed : host.closeKcpEndpointById object server connectId = some moved) :
    Moves host (withCall moved) := by
  simp only [closeKcpEndpointById] at closed
  split at closed
  · cases closed
  · rename_i sendEndpoint found
    cases closed
    have told := consistent.carried _ member _ _ ⟨sendEndpoint, found, rfl⟩
    rw [kcp] at told
    refine .calling (consistent_setObject consistent object ?_) ⟨id⟩
      (.inr ⟨?_, sendEndpoint, told⟩)
    · intro other remote carries
      exact consistent.carried _ member other remote (carries_eraseEndpoint carries)
    · rw [getRemoteIp_eraseEndpoint, EndpointServer.threadSession, serverClass_eraseEndpoint, kcp]
      rfl

theorem closeServer_moves (member : .server server ∈ host.objects)
    (closed : host.closeServer object server = some next) : Moves host (next, none) := by
  simp only [closeServer] at closed
  split at closed
  · rename_i udp
    split at closed
    · cases closed
      exact .silent consistent (.refl host)
    · cases closed
      refine .silent (consistent_post (consistent_setObject consistent object ?_) ?_) ⟨id⟩
      · rintro connectId remote ⟨sendEndpoint, found, -⟩
        simp at found
      · simp only [List.forall_mem_map]
        intro entry listed
        exact taskTold_server consistent member udp (AList.mem_lookup_iff.mpr listed)
  · split at closed
    · cases closed
      refine .silent (consistent_setObject consistent object ?_) ⟨id⟩
      intro connectId remote carries
      exact consistent.carried _ member connectId remote carries
    · cases closed

theorem closeObject_keeps (object : Nat) :
    (host.closeObject object).Consistent ∧ Extends host (host.closeObject object) := by
  simp only [closeObject]
  split
  · rename_i session found
    refine ⟨consistent_setObject consistent object ?_, ⟨id⟩⟩
    intro connectId remote carries
    exact consistent.carried _ (List.mem_of_getElem? found) connectId remote carries
  · exact ⟨consistent, .refl host⟩

theorem eraseObject_keeps (object erased : Nat) :
    (host.eraseObject object erased).Consistent ∧
      Extends host (host.eraseObject object erased) := by
  simp only [eraseObject]
  split
  · rename_i server found
    refine ⟨consistent_setObject consistent object ?_, ⟨id⟩⟩
    intro connectId remote carries
    exact consistent.carried _ (List.mem_of_getElem? found) connectId remote
      (carries_eraseEndpoint carries)
  · exact ⟨consistent, .refl host⟩

theorem resume_moves {index : Nat} {task : SessionTask}
    (found : host.pending[index]? = some task) : Moves host (host.resume index task) := by
  have told := consistent.waiting task (List.mem_of_getElem? found)
  have finished := consistent_finish consistent index
  cases task with
  | added session => exact .calling finished ⟨id⟩ told
  | dispatched closing =>
    obtain ⟨closed, grown⟩ := closeObject_keeps finished closing.session.session
    exact .calling closed ⟨grown.kept⟩ (.inl ⟨grown.told told.1, told.2⟩)
  | looked closing =>
    refine .calling ⟨consistent.counted, consistent.carried, ?_⟩ ⟨id⟩ (.inl told)
    intro other member
    rcases List.mem_or_eq_of_mem_set member with old | rfl
    · exact consistent.waiting other old
    · trivial
  | cleared closing => exact .calling finished ⟨id⟩ (.inl told)
  | erase object connectId =>
    obtain ⟨erased, grown⟩ := eraseObject_keeps finished object connectId
    exact .silent erased ⟨grown.kept⟩

theorem closeSession_moves {moved : SessionHost × Option RegistryCall}
    (closed : host.closeSession object connectId = some moved) : Moves host moved := by
  simp only [closeSession] at closed
  split at closed
  · rename_i session found
    obtain ⟨next, ended, rfl⟩ := Option.map_eq_some_iff.mp closed
    exact closeSocket_moves consistent (List.mem_of_getElem? found) ended
  · rename_i server found
    have member := List.mem_of_getElem? found
    split at closed
    · cases closed
    · split at closed
      · rename_i udp
        cases closed
        exact closeUdpEndpointById_moves consistent member udp object connectId
      · rename_i kcp
        obtain ⟨next, ended, rfl⟩ := Option.map_eq_some_iff.mp closed
        exact closeKcpEndpointById_moves consistent member kcp ended
  · cases closed

theorem step_moves {action : SessionAction} {moved : SessionHost × Option RegistryCall}
    (stepped : host.step action = some moved) : Moves host moved := by
  cases action with
  | openSession socketClass remoteIp serverId =>
    simp only [step] at stepped
    split at stepped
    · cases stepped
    · cases stepped
      exact openSession_moves consistent socketClass remoteIp serverId
  | start socketClass configured serverId =>
    simp only [step] at stepped
    split at stepped
    · cases stepped
      refine .silent (consistent_construct consistent ?_) ⟨id⟩
      rintro connectId remote ⟨rfl, -⟩
      exact .inl rfl
    · cases stepped
  | handleConnect object remoteIp =>
    simp only [step] at stepped
    split at stepped
    · split at stepped
      · cases stepped
        exact handleConnect_moves consistent object _ remoteIp
      · cases stepped
    · cases stepped
  | listen serverClass =>
    cases stepped
    refine .silent (consistent_construct consistent ?_) ⟨id⟩
    rintro connectId remote ⟨sendEndpoint, found, -⟩
    simp at found
  | receive object recvEndpoint initKcp =>
    simp only [step] at stepped
    split at stepped
    · rename_i server found
      split at stepped
      · cases stepped
        exact addUdpEndpoint_moves consistent (List.mem_of_getElem? found) recvEndpoint initKcp
      · cases stepped
    · cases stepped
  | close object connectId => exact closeSession_moves consistent stepped
  | closeServer object =>
    simp only [step] at stepped
    split at stepped
    · rename_i server found
      obtain ⟨next, ended, rfl⟩ := Option.map_eq_some_iff.mp stepped
      exact closeServer_moves consistent (List.mem_of_getElem? found) ended
    · cases stepped
  | resume index =>
    obtain ⟨task, found, rfl⟩ := Option.map_eq_some_iff.mp stepped
    exact resume_moves consistent found
  | addSessionIoMapping | deleteSessionIoMapping =>
    cases stepped
    exact .calling consistent (.refl host) trivial

end SessionHost

end PssAsio
