import PssAsio.BridgeSessions
import PssAsio.KcpPayload
import PssAsio.UdpDatagramsApart

/-!
The bridge contract of the classes that serve many connections with one object.
-/

namespace PssAsio

open TransitionRuns Function

def UdpSessionInfo.Follows {Peer : Type} (info : UdpSessionInfo Peer) :
    BridgeRoute → Prop
  | .packetParser => info.ioState = .sessionIoLogic
  | .bridge target =>
      target > 0 ∧ info.ioState = .sessionIoBridge ∧ info.ioBridgeConnectId = target

variable {Peer : Type}

namespace UdpServer

theorem disposeData_eq (server : UdpServer Peer) (connectId : UInt32) {length : Nat}
    (sessionInfo : Option (UdpSessionInfo Peer)) (verdict : ReceiveVerdict)
    {bytes : List UInt8} (reads : server.sessionRecvBuffer.readBytes 0 length = some bytes) :
    ∃ disposed, server.disposeData connectId length sessionInfo verdict = some disposed ∧
      (refuses sessionInfo verdict = false →
        disposed.udpId2EndpointList = server.udpId2EndpointList) ∧
      ∀ other, other ≠ connectId →
        disposed.udpId2EndpointList other = server.udpId2EndpointList other := by
  have parsed := (parseData_frame server connectId length verdict).2.2.2
  unfold disposeData
  cases sessionInfo with
  | none => exact ⟨_, rfl, fun _ => parsed, fun other _ => by rw [parsed]⟩
  | some info =>
    by_cases bridged : info.ioState = .sessionIoBridge
    · simp only [bridged, if_true, doIoBridgeData, reads, Option.map_some, refuses]
      by_cases target : info.ioBridgeConnectId > 0
      · cases verdict.bridgeSent with
        | true => exact ⟨_, rfl, by simp [target], by simp [target]⟩
        | false =>
          refine ⟨_, rfl, by simp [target], fun other different => ?_⟩
          simp [target, setSessionInfo, update_of_ne different]
      · exact ⟨_, rfl, by simp [target], by simp [target]⟩
    · simp only [bridged, if_false]
      exact ⟨_, rfl, fun _ => parsed, fun other _ => by rw [parsed]⟩

variable [DecidableEq Peer]

theorem addUdpEndpoint_same (server other : UdpServer Peer) (recvEndpoint : Peer)
    (endpoints : other.udpEndpoint2IdList = server.udpEndpoint2IdList)
    (sessions : other.udpId2EndpointList = server.udpId2EndpointList)
    (count : other.countIndex = server.countIndex) :
    (other.addUdpEndpoint recvEndpoint).2 = (server.addUdpEndpoint recvEndpoint).2 ∧
      (other.addUdpEndpoint recvEndpoint).1.udpId2EndpointList =
        (server.addUdpEndpoint recvEndpoint).1.udpId2EndpointList := by
  cases found : server.udpEndpoint2IdList recvEndpoint with
  | some connectId =>
    have foundToo : other.udpEndpoint2IdList recvEndpoint = some connectId := by
      rw [endpoints, found]
    rw [addUdpEndpoint_known found, addUdpEndpoint_known foundToo]
    exact ⟨rfl, sessions⟩
  | none =>
    have foundToo : other.udpEndpoint2IdList recvEndpoint = none := by
      rw [endpoints, found]
    rw [addUdpEndpoint_unknown found, addUdpEndpoint_unknown foundToo]
    simp only [call, sessions, count, and_self]

variable {data : List UInt8} {recvEndpoint : Peer} {server : UdpServer Peer}

theorem receive_added {received : UdpServer Peer}
    (emptied : 0 < server.receives → server.sessionRecvBuffer.content = []) (bytes : data ≠ [])
    (stepped : server.step (.receive recvEndpoint data) = some received) :
    received.handling = some (.added (server.addUdpEndpoint recvEndpoint).2 data.length) ∧
      received.sessionRecvBuffer.content = data ∧
      received.receives = server.receives - 1 ∧
      received.udpId2EndpointList =
        (server.addUdpEndpoint recvEndpoint).1.udpId2EndpointList := by
  cases stepped_of_step stepped with
  | receive _ _ filled idle pending stored =>
    have positive := List.length_pos_iff.mpr bytes
    obtain ⟨-, receives, content⟩ := doReceiveFrom_fills
      { server with receives := server.receives - 1, sessionRecvBuffer := filled }
      recvEndpoint (emptied pending) stored positive rfl
    have buffer := addUdpEndpoint_buffer
      { server with receives := server.receives - 1, sessionRecvBuffer := filled } recvEndpoint
    obtain ⟨sameId, sameTable⟩ := addUdpEndpoint_same server
      { server with receives := server.receives - 1, sessionRecvBuffer := filled }
      recvEndpoint rfl rfl rfl
    have room : filled.getBufferSize ≠ 0 := by
      have size := SessionBuffer.store_getBufferSize stored
      omega
    refine ⟨?_, content, receives, ?_⟩
    · simp only [doReceiveFrom, buffer, if_neg positive.ne', if_neg room, sameId]
    · simp only [doReceiveFrom, buffer, if_neg positive.ne', if_neg room, sameTable]

theorem receive_empty {received : UdpServer Peer}
    (stepped : server.step (.receive recvEndpoint []) = some received) :
    received.handling = none ∧ received.receives = server.receives - 1 ∧
      received.udpId2EndpointList =
        (server.addUdpEndpoint recvEndpoint).1.udpId2EndpointList := by
  cases stepped_of_step stepped with
  | receive _ _ filled idle pending stored =>
    obtain ⟨receives, handling, -⟩ := addUdpEndpoint_frame
      { server with receives := server.receives - 1, sessionRecvBuffer := filled } recvEndpoint
    obtain ⟨-, sameTable⟩ := addUdpEndpoint_same server
      { server with receives := server.receives - 1, sessionRecvBuffer := filled }
      recvEndpoint rfl rfl rfl
    simp only [doReceiveFrom, List.length_nil, if_true]
    exact ⟨handling.trans idle, receives, sameTable⟩

def sessionRouting (sessionInfo : Option (UdpSessionInfo Peer)) (data : List UInt8) :
    BridgeRouting :=
  match sessionInfo with
  | some info =>
      if info.ioState = .sessionIoBridge then ioBridgeRouting info.ioBridgeConnectId data
      else .packetFromRecvBuffer data
  | none => .packetFromRecvBuffer data

omit [DecidableEq Peer] in
theorem routing_eq (server : UdpServer Peer) {length : Nat}
    (sessionInfo : Option (UdpSessionInfo Peer))
    (reads : server.sessionRecvBuffer.readBytes 0 length = some data)
    (content : server.sessionRecvBuffer.content = data) :
    server.routing length sessionInfo = some (sessionRouting sessionInfo data) := by
  unfold routing sessionRouting
  cases sessionInfo with
  | none => simp only [content]
  | some info =>
    simp only [reads, content, Option.map_some]
    split <;> rfl

structure Handled (server : UdpServer Peer) (connectId : UInt32)
    (sessionInfo : Option (UdpSessionInfo Peer)) (verdict : ReceiveVerdict)
    (next : UdpServer Peer) : Prop where
  idle : next.handling = none
  receives : next.receives = server.receives + 1
  emptied : next.sessionRecvBuffer.content = []
  accepted : refuses sessionInfo verdict = false →
    next.udpId2EndpointList = server.udpId2EndpointList
  others : ∀ other, other ≠ connectId →
    next.udpId2EndpointList other = server.udpId2EndpointList other

theorem dispose_handled {connectId : UInt32} {sessionInfo : Option (UdpSessionInfo Peer)}
    (verdict : ReceiveVerdict)
    (handling : server.handling = some (.found connectId data.length sessionInfo))
    (content : server.sessionRecvBuffer.content = data) :
    ∃ next, server.step (.dispose verdict) = some next ∧
      server.routing data.length sessionInfo = some (sessionRouting sessionInfo data) ∧
      server.Handled connectId sessionInfo verdict next := by
  have within : 0 + data.length ≤ server.sessionRecvBuffer.writeSize := by
    rw [← server.sessionRecvBuffer.content_length, content]
    omega
  have reads := SessionBuffer.readBytes_content _ _ _ within
  rw [content, List.drop_zero, List.take_length] at reads
  obtain ⟨disposed, disposes, accepted, others⟩ :=
    server.disposeData_eq connectId sessionInfo verdict reads
  have left := disposeData_content disposes (congrArg List.length content)
  have counted := (disposeData_disposed disposes).receives
  refine ⟨{ disposed.doReceive with handling := none }, ?_,
    server.routing_eq sessionInfo reads content, ⟨rfl, ?_, left, accepted, others⟩⟩
  · simp only [step, handling, disposes, Option.map_some]
  · simp only [doReceive, counted]

theorem receiveFrom_handled (verdict : ReceiveVerdict)
    (emptied : 0 < server.receives → server.sessionRecvBuffer.content = []) (bytes : data ≠ [])
    (takes : (server.step (.receive recvEndpoint data)).isSome) :
    ∃ found next : UdpServer Peer, found.receives = server.receives - 1 ∧
      found.udpId2EndpointList =
        (server.addUdpEndpoint recvEndpoint).1.udpId2EndpointList ∧
      found.Handled (server.addUdpEndpoint recvEndpoint).2
        (found.udpId2EndpointList (server.addUdpEndpoint recvEndpoint).2) verdict next ∧
      server.receiveFrom recvEndpoint data verdict =
        some (next, some ⟨(server.addUdpEndpoint recvEndpoint).2, [], data,
          sessionRouting (found.udpId2EndpointList (server.addUdpEndpoint recvEndpoint).2) data,
          [], refuses (found.udpId2EndpointList (server.addUdpEndpoint recvEndpoint).2)
            verdict⟩) := by
  obtain ⟨received, stepped⟩ := Option.isSome_iff_exists.mp takes
  obtain ⟨handling, content, receives, table⟩ := receive_added emptied bytes stepped
  have nothing : server.sessionRecvBuffer.content = [] := by
    cases stepped_of_step stepped with
    | receive _ _ _ _ pending => exact emptied pending
  generalize identified : (server.addUdpEndpoint recvEndpoint).2 = connectId at handling ⊢
  obtain ⟨found, finds, looked, kept, sessions, buffer⟩ :
      ∃ found : UdpServer Peer, received.step .findEndpoint = some found ∧
        found.handling =
          some (.found connectId data.length (received.udpId2EndpointList connectId)) ∧
        found.receives = received.receives ∧
        found.udpId2EndpointList = received.udpId2EndpointList ∧
        found.sessionRecvBuffer = received.sessionRecvBuffer := by
    simp only [step, handling, Option.some.injEq, exists_eq_left', and_self]
  rw [← sessions] at looked
  obtain ⟨next, disposes, routing, handled⟩ :=
    dispose_handled verdict looked (buffer ▸ content)
  refine ⟨found, next, kept.trans receives, sessions.trans table, handled, ?_⟩
  simp only [receiveFrom, stepped, Option.bind_some, finds, looked, routing, disposes,
    Option.map_some, handled.emptied, nothing]

end UdpServer

namespace UdpBridge

variable {bridge : UdpBridge Peer}

structure Tracks (bridge : UdpBridge Peer) : Prop where
  idle : bridge.server.handling = none
  single : bridge.server.receives ≤ 1
  emptied : 0 < bridge.server.receives → bridge.server.sessionRecvBuffer.content = []
  follows : ∀ connectId route, bridge.expected connectId = some route →
    ∃ info, bridge.server.udpId2EndpointList connectId = some info ∧ info.Follows route

theorem setIoBridgeConnectId_tracks (tracks : bridge.Tracks) {fromConnectId : UInt32}
    (toConnectId : UInt32) (live : (bridge.server.udpId2EndpointList fromConnectId).isSome) :
    Tracks ⟨bridge.server.setIoBridgeConnectId fromConnectId toConnectId,
      update bridge.expected fromConnectId (some (.ofTarget toConnectId))⟩ := by
  refine ⟨tracks.idle, tracks.single, tracks.emptied, ?_⟩
  intro connectId route expects
  simp only [UdpServer.setIoBridgeConnectId, UdpServer.setSessionInfo] at expects ⊢
  by_cases same : connectId = fromConnectId
  · obtain ⟨info, found⟩ := Option.isSome_iff_exists.mp live
    rw [same, update_self, Option.some.injEq] at expects
    rw [same, update_self, found, Option.map_some, ← expects]
    refine ⟨_, rfl, ?_⟩
    by_cases positive : toConnectId > 0
    · simp [BridgeRoute.ofTarget, positive, UdpSessionInfo.Follows]
    · simp [BridgeRoute.ofTarget, positive, UdpSessionInfo.Follows]
  · rw [update_of_ne same] at expects ⊢
    exact tracks.follows connectId route expects

theorem Tracks.of_same (tracks : bridge.Tracks) {server : UdpServer Peer}
    (handling : server.handling = bridge.server.handling)
    (receives : server.receives = bridge.server.receives)
    (buffer : server.sessionRecvBuffer = bridge.server.sessionRecvBuffer)
    (table : server.udpId2EndpointList = bridge.server.udpId2EndpointList) :
    Tracks { bridge with server := server } := by
  refine ⟨handling.trans tracks.idle, receives.trans_le tracks.single, ?_, ?_⟩
  · simp only [receives, buffer]
    exact tracks.emptied
  · simp only [table]
    exact tracks.follows

theorem started_tracks (maxRecvSize : UInt32) (fresh : Nat → UInt8) (countIndex : UInt32) :
    (started maxRecvSize fresh countIndex : UdpBridge Peer).Tracks := by
  refine ⟨rfl, Nat.le_refl 1, fun _ => SessionBuffer.init_content _ _, ?_⟩
  intro connectId route expects
  cases expects

variable [DecidableEq Peer]

theorem greeted_follows (tracks : bridge.Tracks) (recvEndpoint : Peer) (connectId : UInt32)
    (route : BridgeRoute) (expects : bridge.greeted recvEndpoint connectId = some route) :
    ∃ info, (bridge.server.addUdpEndpoint recvEndpoint).1.udpId2EndpointList connectId =
      some info ∧ info.Follows route := by
  unfold greeted BridgeRoute.greet at expects
  cases found : bridge.server.udpEndpoint2IdList recvEndpoint with
  | some known =>
    rw [found] at expects
    rw [UdpServer.addUdpEndpoint_known found]
    exact tracks.follows connectId route expects
  | none =>
    rw [found] at expects
    rw [UdpServer.addUdpEndpoint_unknown found]
    simp only [UdpServer.call] at expects ⊢
    by_cases same : connectId = bridge.server.countIndex + 1
    · rw [same, update_self, Option.some.injEq] at expects
      rw [same, update_self, ← expects]
      exact ⟨_, rfl, rfl⟩
    · rw [update_of_ne same] at expects ⊢
      exact tracks.follows connectId route expects

theorem receiveFrom_obeys (tracks : bridge.Tracks) (recvEndpoint : Peer) (data : List UInt8)
    (verdict : ReceiveVerdict) : bridge.Obeys (.receiveFrom recvEndpoint data verdict) := by
  intro bytes takes
  obtain ⟨found, next, -, table, -, receives⟩ :=
    UdpServer.receiveFrom_handled verdict tracks.emptied bytes takes
  rw [table] at receives
  rw [receives]
  simp only [BridgeDelivery.Agrees]
  split
  · rename_i target expects
    obtain ⟨info, found, positive, bridged, stored⟩ := greeted_follows tracks _ _ _ expects
    simp [found, UdpServer.sessionRouting, bridged, ioBridgeRouting, stored, positive]
  · rename_i expects
    obtain ⟨info, found, logic⟩ := greeted_follows tracks _ _ _ expects
    have unbridged : info.ioState ≠ .sessionIoBridge := by
      rw [show info.ioState = .sessionIoLogic from logic]
      decide
    simp [found, UdpServer.sessionRouting, unbridged]
  · trivial

theorem handled_tracks (tracks : bridge.Tracks) {recvEndpoint : Peer}
    {verdict : ReceiveVerdict} {found next : UdpServer Peer} {delivery : BridgeDelivery}
    (receives : found.receives = bridge.server.receives - 1)
    (table : found.udpId2EndpointList =
      (bridge.server.addUdpEndpoint recvEndpoint).1.udpId2EndpointList)
    (handled : found.Handled delivery.connectId
      (found.udpId2EndpointList delivery.connectId) verdict next)
    (refused : delivery.refused =
      UdpServer.refuses (found.udpId2EndpointList delivery.connectId) verdict) :
    Tracks ⟨next, settled (bridge.greeted recvEndpoint) (some delivery)⟩ := by
  have single := tracks.single
  refine ⟨handled.idle, ?_, fun _ => handled.emptied, ?_⟩
  · simp only [handled.receives, receives]
    omega
  · intro connectId route expects
    simp only [settled] at expects ⊢
    by_cases same : connectId = delivery.connectId
    · -- A refused forward leaves the contract without a route for the connection.
      rw [same, update_self] at expects
      unfold BridgeDelivery.leaves at expects
      split at expects
      · cases expects
      · rename_i accepts
        rw [refused, Bool.not_eq_true] at accepts
        rw [handled.accepted accepts, table, same]
        exact greeted_follows tracks recvEndpoint _ route expects
    · rw [update_of_ne same] at expects
      rw [handled.others connectId same, table]
      exact greeted_follows tracks recvEndpoint connectId route expects

theorem receiveFrom_tracks (tracks : bridge.Tracks) {recvEndpoint : Peer}
    {data : List UInt8} {verdict : ReceiveVerdict} {server : UdpServer Peer}
    {delivery : Option BridgeDelivery}
    (received : bridge.server.receiveFrom recvEndpoint data verdict = some (server, delivery)) :
    Tracks ⟨server, settled (bridge.greeted recvEndpoint) delivery⟩ := by
  have single := tracks.single
  obtain ⟨arrived, stepped, rest⟩ := Option.bind_eq_some_iff.mp received
  by_cases bytes : data = []
  · subst bytes
    obtain ⟨idle, receives, table⟩ := UdpServer.receive_empty stepped
    have unfound : arrived.step .findEndpoint = none := by
      simp only [UdpServer.step, idle]
    rw [unfound] at rest
    obtain ⟨rfl, rfl⟩ := Prod.mk.injEq .. ▸ Option.some.inj rest
    refine ⟨idle, by simp only [receives]; omega, ?_, ?_⟩
    · intro pending
      simp only [receives] at pending
      omega
    · intro connectId route expects
      simp only [table]
      exact greeted_follows tracks recvEndpoint connectId route expects
  · obtain ⟨found, next, receives, table, handled, same⟩ :=
      UdpServer.receiveFrom_handled verdict tracks.emptied bytes
        (Option.isSome_iff_exists.mpr ⟨arrived, stepped⟩)
    rw [same, Option.some.injEq, Prod.mk.injEq] at received
    obtain ⟨rfl, rfl⟩ := received
    exact handled_tracks tracks receives table handled rfl

theorem closeErase_tracks (tracks : bridge.Tracks) (connectId : UInt32)
    (closing : List (UInt32 × UdpClosing)) :
    Tracks ⟨{ bridge.server.eraseEndpoint connectId with closing := closing },
      update bridge.expected connectId none⟩ := by
  obtain ⟨receives, buffer, handling⟩ := bridge.server.eraseEndpoint_frame connectId
  refine ⟨handling.trans tracks.idle, receives.trans_le tracks.single, ?_, ?_⟩
  · simp only [receives, buffer]
    exact tracks.emptied
  · intro other route expects
    simp only at expects ⊢
    have different : other ≠ connectId := by
      rintro rfl
      rw [update_self] at expects
      cases expects
    rw [update_of_ne different] at expects
    have kept : (bridge.server.eraseEndpoint connectId).udpId2EndpointList other =
        bridge.server.udpId2EndpointList other := by
      unfold UdpServer.eraseEndpoint
      split
      · exact update_of_ne different _ _
      · rfl
    rw [kept]
    exact tracks.follows other route expects

theorem step_tracks {next : UdpBridge Peer} {action : UdpBridgeAction Peer}
    (tracks : bridge.Tracks) (stepped : bridge.step action = some next) : next.Tracks := by
  cases action with
  | receiveFrom recvEndpoint data verdict =>
    obtain ⟨⟨server, delivery⟩, received, rfl⟩ := Option.map_eq_some_iff.mp stepped
    exact receiveFrom_tracks tracks received
  | setIoBridgeConnectId fromConnectId toConnectId =>
    simp only [step, Option.ite_none_right_eq_some, Option.some.injEq] at stepped
    obtain ⟨live, rfl⟩ := stepped
    exact setIoBridgeConnectId_tracks tracks toConnectId live
  | createCounter | closeLook connectId =>
    cases stepped
    exact tracks.of_same rfl rfl rfl rfl
  | closeWithdraw index =>
    obtain ⟨server, moved, rfl⟩ := Option.map_eq_some_iff.mp stepped
    cases UdpServer.stepped_of_step moved with
    | closeSkip | closeWithdraw => exact tracks.of_same rfl rfl rfl rfl
  | closeErase index =>
    simp only [step] at stepped
    split at stepped
    · rename_i connectId phase found
      obtain ⟨server, moved, rfl⟩ := Option.map_eq_some_iff.mp stepped
      cases UdpServer.stepped_of_step moved with
      | closeErase _ erased withdrawn =>
        rw [found, Option.some.injEq, Prod.mk.injEq] at withdrawn
        obtain ⟨rfl, -⟩ := withdrawn
        exact closeErase_tracks tracks _ _
    · cases stepped

theorem run_obeys (maxRecvSize : UInt32) (fresh : Nat → UInt8) (countIndex : UInt32)
    (actions : List (UdpBridgeAction Peer)) :
    Throughout step Obeys (started maxRecvSize fresh countIndex) actions := by
  refine (throughout_congr (fun _ _ _ tracks stepped => step_tracks tracks stepped) ?_
    (started_tracks maxRecvSize fresh countIndex)).mpr
      (throughout_of_forall (fun _ _ => True) (fun _ _ => trivial) _ actions)
  intro bridge action tracks
  rw [iff_true]
  cases action with
  | receiveFrom recvEndpoint data verdict =>
    exact receiveFrom_obeys tracks recvEndpoint data verdict
  | setIoBridgeConnectId | createCounter | closeLook | closeWithdraw | closeErase => trivial

end UdpBridge

section Loop

variable {length : Nat} {queue : List (List UInt8)} {buffer : SessionBuffer} {taken : KcpReceived}

theorem SessionBuffer.setWriteData_maxBuffSize (session : SessionBuffer) (length : Nat) :
    (session.setWriteData length).1.maxBuffSize = session.maxBuffSize := by
  unfold SessionBuffer.setWriteData
  split <;> rfl

theorem SessionBuffer.setWriteData_writeSize (session : SessionBuffer)
    (small : session.maxBuffSize < 2 ^ 32) (fits : length ≤ session.maxBuffSize) :
    session.writeSize ≤ (session.setWriteData length).1.writeSize ∧
      (0 < length → 0 < (session.setWriteData length).1.writeSize) := by
  have bounded := session.bounded
  have unwrapped : (session.writeSize + length) % 2 ^ 64 = session.writeSize + length :=
    Nat.mod_eq_of_lt (by omega)
  unfold SessionBuffer.setWriteData
  rw [unwrapped]
  split
  · simp only
    omega
  · simp only
    omega

theorem ikcpRecvLoop_maxBuffSize (ran : ikcpRecvLoop length queue buffer = some taken) :
    taken.buffer.maxBuffSize = buffer.maxBuffSize := by
  induction queue generalizing buffer taken with
  | nil => rw [← Option.some.inj ran]
  | cons message queue ih =>
    by_cases short : message.length ≤ length
    · obtain ⟨stored, rest, stores, later, rfl⟩ := ikcpRecvLoop_cons_eq_some short ran
      obtain ⟨-, -, maxBuffSize, -⟩ := storeAtRead_eq_some stores
      exact (ih later).trans ((stored.setWriteData_maxBuffSize message.length).trans maxBuffSize)
    · simp only [ikcpRecvLoop, short, if_false, Option.some.injEq] at ran
      rw [← ran]

theorem ikcpRecvLoop_holds (small : buffer.maxBuffSize < 2 ^ 32)
    (ran : ikcpRecvLoop length queue buffer = some taken) :
    buffer.writeSize ≤ taken.buffer.writeSize ∧
      (logicDataLength taken.received ≠ 0 → 0 < taken.buffer.writeSize) := by
  induction queue generalizing buffer taken with
  | nil =>
    cases ran
    exact ⟨Nat.le_refl _, fun bytes => absurd rfl bytes⟩
  | cons message queue ih =>
    by_cases short : message.length ≤ length
    · obtain ⟨stored, rest, stores, later, rfl⟩ := ikcpRecvLoop_cons_eq_some short ran
      obtain ⟨fits, writeSize, maxBuffSize, -⟩ := storeAtRead_eq_some stores
      obtain ⟨grows, holds⟩ :=
        stored.setWriteData_writeSize (maxBuffSize ▸ small) (maxBuffSize ▸ fits)
      obtain ⟨kept, held⟩ := ih (by rw [stored.setWriteData_maxBuffSize, maxBuffSize]; exact small)
        later
      refine ⟨writeSize.symm.trans_le (grows.trans kept), fun bytes => ?_⟩
      by_cases blank : logicDataLength rest.received = 0
      · have positive : 0 < message.length := by
          simp only [logicDataLength, List.flatten_cons, List.length_append] at bytes blank
          omega
        exact Nat.lt_of_lt_of_le (holds positive) kept
      · exact held blank
    · simp only [ikcpRecvLoop, short, if_false, Option.some.injEq] at ran
      rw [← ran]
      exact ⟨Nat.le_refl _, fun bytes => absurd rfl bytes⟩

end Loop

namespace KcpListener

variable {connectId : UInt32} {next server : KcpListener Peer} {completed : List (List UInt8)}
  {length : Nat}

theorem parseData_dataSize {received : List (List UInt8)}
    (parsed : server.parseData connectId received = some next) :
    next.sessionRecvDataBuffer.maxBuffSize = server.sessionRecvDataBuffer.maxBuffSize := by
  unfold parseData at parsed
  split at parsed
  · rename_i buffer _ returned
    cases parsed
    exact (buffer.move_maxBuffSize _).trans
      (parsePacketFromRecvBufferSingle_maxBuffSize returned)
  · rename_i returned
    cases parsed
    exact parsePacketFromRecvBufferSingle_maxBuffSize returned
  · cases parsed

theorem Received.dataSize {channel : KcpChannel Peer}
    (received : Received server connectId channel length completed next) :
    next.sessionRecvDataBuffer.maxBuffSize = server.sessionRecvDataBuffer.maxBuffSize := by
  cases received with
  | full buffer | created buffer => rfl
  | unparsed queue taken buffer block ran => exact ikcpRecvLoop_maxBuffSize ran
  | parsed queue taken buffer next block ran bytes unbridged parses =>
    exact (parseData_dataSize parses).trans (ikcpRecvLoop_maxBuffSize ran)

theorem inputDelivery_some {queue : List (List UInt8)} {delivery : BridgeDelivery}
    (small : server.sessionRecvDataBuffer.maxBuffSize < 2 ^ 32)
    (delivers : server.inputDelivery connectId queue length completed = some delivery) :
    (server.Bridged ∧ ¬delivery.routing.IsParser ∧ delivery.kept ≠ []) ∨
      (¬server.Bridged ∧ delivery.routing.IsParser) := by
  obtain ⟨taken, ran, rest⟩ := Option.bind_eq_some_iff.mp delivers
  split at rest
  · cases rest
  · rename_i bytes
    have held := (ikcpRecvLoop_holds small ran).2 bytes
    split at rest
    · rename_i bridged
      obtain ⟨raw, -, rfl⟩ := Option.map_eq_some_iff.mp rest
      refine .inl ⟨bridged, id, ?_⟩
      intro nothing
      have sized := taken.buffer.content_length
      simp only at nothing
      rw [nothing, List.length_nil] at sized
      omega
    · rename_i unbridged
      cases rest
      exact .inr ⟨unbridged, trivial⟩

theorem inputDelivery_parses {channel : KcpChannel Peer} {queue : List (List UInt8)}
    {delivery : BridgeDelivery} (holds : server.PayloadExact)
    (short : ∀ message ∈ completed, message.length ≤ length)
    (fits : completed.flatten ≠ [] → ¬server.Bridged → server.sessionRecvDataBuffer.writeSize = 0 ∧
      (completed.filter (· ≠ [])).length ≤ 1) (unbridged : ¬server.Bridged)
    (found : server.udpId2EndpointList connectId = some channel)
    (block : channel.kcpcb = some queue)
    (delivers : server.inputDelivery connectId queue length completed = some delivery) :
    delivery.routing = .packetFromRecvBuffer (delivery.held ++ delivery.data) := by
  obtain ⟨taken, ran, rest⟩ := Option.bind_eq_some_iff.mp delivers
  obtain ⟨-, received, ran⟩ := holds.inputTaken short found block ran server.sessionRecvBuffer
  split at rest
  · cases rest
  · rename_i bytes
    rw [received] at bytes rest
    obtain ⟨empty, single⟩ :=
      fits (fun none => bytes (by rw [logicDataLength, none]; rfl)) unbridged
    have nothing : server.sessionRecvDataBuffer.content = [] :=
      List.eq_nil_of_length_eq_zero (by rw [SessionBuffer.content_length, empty])
    simp only [Bridged] at unbridged
    rw [if_neg unbridged] at rest
    cases rest
    simp only [nothing, List.nil_append, ikcpRecvLoop_content ran short single empty]

variable [DecidableEq Peer]

theorem addUdpEndpoint_bridge (server : KcpListener Peer) (recvEndpoint : Peer)
    (initKcp : Bool) :
    (server.addUdpEndpoint recvEndpoint initKcp).1.ioState = server.ioState ∧
      (server.addUdpEndpoint recvEndpoint initKcp).1.ioBridgeConnectId =
        server.ioBridgeConnectId ∧
      (server.addUdpEndpoint recvEndpoint initKcp).1.sessionRecvDataBuffer =
        server.sessionRecvDataBuffer := by
  unfold addUdpEndpoint
  cases server.udpEndpoint2IdList recvEndpoint with
  | some connectId => exact ⟨rfl, rfl, rfl⟩
  | none => cases initKcp <;> exact ⟨rfl, rfl, rfl⟩

theorem doReceiveFrom_dataSize {recvEndpoint : Peer} {initKcp : Bool}
    (handled : server.doReceiveFrom recvEndpoint length initKcp completed = some next) :
    next.sessionRecvDataBuffer.maxBuffSize = server.sessionRecvDataBuffer.maxBuffSize := by
  have buffer := congrArg SessionBuffer.maxBuffSize
    (server.addUdpEndpoint_bridge recvEndpoint initKcp).2.2
  obtain ⟨-, rfl⟩ | ⟨-, rfl | ⟨channel, -, received⟩⟩ := doReceiveFrom_cases handled
  · exact buffer
  · exact buffer
  · exact received.dataSize.trans buffer

theorem step_dataSize {action : KcpListenerAction Peer}
    (stepped : server.step action = some next) :
    next.sessionRecvDataBuffer.maxBuffSize = server.sessionRecvDataBuffer.maxBuffSize := by
  cases action with
  | receive recvEndpoint data initKcp completed =>
    simp only [step, Option.ite_none_right_eq_some, Option.bind_eq_some_iff] at stepped
    obtain ⟨-, filled, -, handled⟩ := stepped
    have same := doReceiveFrom_dataSize handled
    exact same
  | close connectId =>
    obtain ⟨channel, -, rfl⟩ := Option.map_eq_some_iff.mp stepped
    rfl
  | setIoBridgeConnectId toConnectId =>
    cases stepped
    unfold setIoBridgeConnectId
    split <;> rfl
  | createCounter => rw [← Option.some.inj stepped]

theorem delivery_input {recvEndpoint : Peer} {data : List UInt8} {initKcp : Bool}
    {delivery : BridgeDelivery}
    (delivers : server.delivery recvEndpoint data initKcp completed = some delivery) :
    ∃ (input : KcpListener Peer) (connectId : UInt32) (channel : KcpChannel Peer)
      (queue : List (List UInt8)), input.udpId2EndpointList connectId = some channel ∧
      channel.kcpcb = some queue ∧ input.sessionRecvDataBuffer = server.sessionRecvDataBuffer ∧
      (input.Bridged ↔ server.Bridged) ∧ (server.PayloadExact → input.PayloadExact) ∧
      input.inputDelivery connectId queue data.length completed = some delivery := by
  obtain ⟨filled, -, rest⟩ := Option.bind_eq_some_iff.mp delivers
  obtain ⟨ioState, ioBridgeConnectId, buffer⟩ :=
    { server with sessionRecvBuffer := filled }.addUdpEndpoint_bridge recvEndpoint initKcp
  have kept : server.PayloadExact → ({ server with
      sessionRecvBuffer := filled }.addUdpEndpoint recvEndpoint initKcp).1.PayloadExact := by
    intro holds
    have stored : PayloadExact { server with sessionRecvBuffer := filled } := holds.of_same rfl rfl
    exact (addUdpEndpoint_exact stored recvEndpoint initKcp).1
  simp only at rest
  split at rest
  · cases rest
  · obtain ⟨channel, found, received⟩ := Option.bind_eq_some_iff.mp rest
    unfold receiveDelivery at received
    split at received
    · cases received
    · obtain ⟨kcpData, -, later⟩ := Option.bind_eq_some_iff.mp received
      split at later
      · cases later
      · obtain ⟨queue, block, input⟩ := Option.bind_eq_some_iff.mp later
        refine ⟨_, _, channel, queue, ?_, block, ?_, ?_, ?_, input⟩
        · exact found
        · exact buffer
        · simp only [Bridged, ioState, ioBridgeConnectId]
        · exact fun holds => (kept holds).of_same rfl rfl

end KcpListener

def KcpBridgeAction.listened {Peer : Type} :
    KcpBridgeAction Peer → KcpListenerAction Peer
  | .receive recvEndpoint data initKcp completed => .receive recvEndpoint data initKcp completed
  | .close connectId => .close connectId
  | .setIoBridgeConnectId _ toConnectId => .setIoBridgeConnectId toConnectId
  | .createCounter => .createCounter

namespace KcpBridge

variable [DecidableEq Peer]

variable (bridge : KcpBridge Peer)

def Keeps : KcpBridgeAction Peer → Prop
  | .receive recvEndpoint data initKcp completed =>
      ∀ delivery ∈ bridge.server.delivery recvEndpoint data initKcp completed,
        ∀ route ∈ bridge.greeted recvEndpoint delivery.connectId,
          route = .packetParser ∧ ¬bridge.server.Bridged
  | _ => True

def Fits (action : KcpBridgeAction Peer) : Prop :=
  bridge.Keeps action ∧ bridge.server.PayloadFits action.listened

def Small : Prop :=
  bridge.server.sessionRecvDataBuffer.maxBuffSize < 2 ^ 32

variable {bridge next : KcpBridge Peer} {action : KcpBridgeAction Peer}

theorem keeps_of_obeys (small : bridge.Small) (obeys : bridge.Obeys action) :
    bridge.Keeps action := by
  cases action with
  | receive recvEndpoint data initKcp completed =>
    intro delivery delivers route expects
    rw [Option.mem_def] at delivers expects
    simp only [Obeys, delivers, expects, BridgeDelivery.Agrees] at obeys
    obtain ⟨input, connectId, channel, queue, -, -, buffer, bridged, -, made⟩ :=
      KcpListener.delivery_input delivers
    have spec := KcpListener.inputDelivery_some (buffer ▸ small) made
    rw [bridged] at spec
    cases route with
    | packetParser =>
      refine ⟨rfl, fun bridges => ?_⟩
      obtain ⟨-, other, -⟩ | ⟨unbridged, -⟩ := spec
      · rw [obeys] at other
        exact other trivial
      · exact unbridged bridges
    | bridge target =>
      obtain ⟨-, -, kept⟩ | ⟨-, parser⟩ := spec
      · exact absurd obeys.2 kept
      · rw [obeys.1] at parser
        exact parser.elim
  | close | setIoBridgeConnectId | createCounter => trivial

theorem obeys_of_fits (holds : bridge.server.PayloadExact) (fits : bridge.Fits action) :
    bridge.Obeys action := by
  cases action with
  | receive recvEndpoint data initKcp completed =>
    obtain ⟨keeps, short, fits⟩ := fits
    simp only [Obeys]
    split
    · rename_i delivery delivers
      cases expects : bridge.greeted recvEndpoint delivery.connectId with
      | none => trivial
      | some route =>
        obtain ⟨rfl, unbridged⟩ := keeps delivery delivers route expects
        obtain ⟨input, connectId, channel, queue, found, block, buffer, bridged, kept, made⟩ :=
          KcpListener.delivery_input delivers
        rw [← bridged] at fits unbridged
        rw [← buffer] at fits
        exact KcpListener.inputDelivery_parses (kept holds) short fits unbridged found block made
    · trivial
  | close | setIoBridgeConnectId | createCounter => trivial

theorem step_server (stepped : bridge.step action = some next) :
    bridge.server.step action.listened = some next.server := by
  cases action with
  | receive | close | createCounter =>
    simp only [step, Option.map_eq_some_iff] at stepped
    obtain ⟨server, moved, rfl⟩ := stepped
    exact moved
  | setIoBridgeConnectId fromConnectId toConnectId =>
    simp only [step, Option.ite_none_right_eq_some, Option.some.injEq] at stepped
    obtain ⟨-, rfl⟩ := stepped
    rfl

omit [DecidableEq Peer] in
theorem started_small (maxRecvSize : UInt32) (fresh : Nat → UInt8) (countIndex : UInt32) :
    (started maxRecvSize fresh countIndex : KcpBridge Peer).Small := by
  have bounded := maxRecvSize.toNat_lt
  simpa [Small, started, KcpListener.started, SessionBuffer.init] using bounded

theorem run_keeps (maxRecvSize : UInt32) (fresh : Nat → UInt8) (countIndex : UInt32)
    (actions : List (KcpBridgeAction Peer))
    (obeys : Throughout step Obeys (started maxRecvSize fresh countIndex) actions) :
    Throughout step Keeps (started maxRecvSize fresh countIndex) actions :=
  throughout_of_invariant
    (fun _ _ _ small _ stepped =>
      (KcpListener.step_dataSize (step_server stepped)).trans_lt small)
    (fun _ _ small kept => keeps_of_obeys small kept)
    (started_small maxRecvSize fresh countIndex) obeys

theorem run_obeys (maxRecvSize : UInt32) (fresh : Nat → UInt8) (countIndex : UInt32)
    (actions : List (KcpBridgeAction Peer))
    (fits : Throughout step Fits (started maxRecvSize fresh countIndex) actions) :
    Throughout step Obeys (started maxRecvSize fresh countIndex) actions := by
  refine throughout_of_invariant (fun bridge action next (holds : bridge.server.PayloadExact) kept
    stepped => ?_) (fun _ _ holds kept => obeys_of_fits holds kept) ?_ fits
  · exact KcpListener.step_exact _ _ _ holds kept.2 (step_server stepped)
  · constructor <;> simp [started, KcpListener.started]

end KcpBridge

namespace BridgeContract

end BridgeContract

end PssAsio
