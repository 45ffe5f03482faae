import PssAsio.BridgeContractCore
import PssAsio.TransitionRuns

/-!
The bridge contract of the classes that serve one connection.
-/

namespace PssAsio

open TransitionRuns

variable {buffer : SessionBuffer} {data : List UInt8}

theorem SessionBuffer.receive_of_room (room : data.length ≤ buffer.getBufferSize) :
    ∃ filled, buffer.receive data = some filled := by
  have bounded := buffer.bounded
  obtain ⟨filled, received, -⟩ := buffer.receive_eq_some data (by
    simp only [SessionBuffer.getBufferSize] at room
    omega)
  exact ⟨filled, received⟩

theorem SessionBuffer.receive_no_room (full : ¬data.length ≤ buffer.getBufferSize) :
    buffer.receive data = none := by
  simp [SessionBuffer.receive, SessionBuffer.store, full]

theorem SessionBuffer.readBytes_front {filled : SessionBuffer} {held : List UInt8}
    (content : filled.content = held ++ data) :
    filled.readBytes 0 data.length = some ((held ++ data).take data.length) := by
  have within : 0 + data.length ≤ filled.writeSize := by
    rw [← filled.content_length, content, List.length_append]
    omega
  rw [SessionBuffer.readBytes_content _ _ _ within, content, List.drop_zero]

theorem ioBridgeRouting_eq_send_iff {ioBridgeConnectId target : UInt32} {held : List UInt8}
    (positive : target > 0) :
    (ioBridgeRouting ioBridgeConnectId ((held ++ data).take data.length) =
        .sendIoBridgeMessage target data ∧ (held ++ data).drop data.length = []) ↔
      ioBridgeConnectId = target ∧ held = [] := by
  constructor
  · rintro ⟨sent, emptied⟩
    have shorter := List.drop_eq_nil_iff.mp emptied
    rw [List.length_append] at shorter
    have nothing : held = [] := List.eq_nil_of_length_eq_zero (by omega)
    unfold ioBridgeRouting at sent
    split at sent
    · rw [BridgeRouting.sendIoBridgeMessage.injEq] at sent
      exact ⟨sent.1, nothing⟩
    · cases sent
  · rintro ⟨rfl, rfl⟩
    simp [ioBridgeRouting, positive]

namespace BridgeSession

structure Routed (session : BridgeSession) (written : SessionBuffer) (data : List UInt8)
    (next : BridgeSession) (delivery : BridgeDelivery) : Prop where
  connectId : next.connectId = session.connectId
  ioState : next.ioState = session.ioState
  ioBridgeConnectId :
    next.ioBridgeConnectId = if delivery.refused then 0 else session.ioBridgeConnectId
  held : delivery.held = session.sessionRecvBuffer.content
  received : delivery.data = data
  kept : delivery.kept = next.sessionRecvBuffer.content
  bridges : session.ioState = .sessionIoBridge →
    delivery.routing = ioBridgeRouting session.ioBridgeConnectId
        ((session.sessionRecvBuffer.content ++ data).take data.length) ∧
      next.sessionRecvBuffer = written.move data.length
  parses : session.ioState ≠ .sessionIoBridge →
    delivery.routing = .packetFromRecvBuffer (session.sessionRecvBuffer.content ++ data)

variable (session : BridgeSession)

theorem bridgeData_routed {written : SessionBuffer} (verdict : ReceiveVerdict)
    (bridged : session.ioState = .sessionIoBridge)
    (content : written.content = session.sessionRecvBuffer.content ++ data) :
    ∃ next delivery, session.bridgeData written data verdict = some (next, delivery) ∧
      session.Routed written data next delivery := by
  have bytes := SessionBuffer.readBytes_front content
  simp only [bridgeData, doIoBridgeData, bytes, Option.bind_some, Option.map_some]
  refine ⟨_, _, rfl, rfl, rfl, ?_, rfl, rfl, rfl, fun _ => ⟨rfl, ?_⟩,
    fun other => absurd bridged other⟩
  · simp only [decide_eq_true_eq]
  · split
    · split <;> rfl
    · rfl

theorem routeData_routed {written : SessionBuffer} (verdict : ReceiveVerdict)
    (after : SessionBuffer → SessionBuffer)
    (content : written.content = session.sessionRecvBuffer.content ++ data) :
    ∃ next delivery, session.routeData written data verdict after = some (next, delivery) ∧
      session.Routed written data next delivery ∧
      (session.ioState ≠ .sessionIoBridge →
        next.sessionRecvBuffer = after (written.move verdict.consumed)) := by
  unfold routeData
  by_cases bridged : session.ioState = .sessionIoBridge
  · obtain ⟨next, delivery, routed, spec⟩ := session.bridgeData_routed verdict bridged content
    rw [if_pos bridged]
    exact ⟨next, delivery, routed, spec, fun other => absurd bridged other⟩
  · rw [if_neg bridged]
    exact ⟨_, _, rfl, ⟨rfl, rfl, rfl, rfl, rfl, rfl, fun other => absurd other bridged,
      fun _ => congrArg _ content⟩, fun _ => rfl⟩

theorem ttyDoReadSome_eq (verdict : ReceiveVerdict) (bytes : data ≠ []) :
    session.ttyDoReadSome data verdict = session.doReadSome data verdict fun buffer =>
      if verdict.parsed.isNone then buffer.move data.length else buffer := by
  have positive : data.length > 0 := List.length_pos_iff.mpr bytes
  unfold ttyDoReadSome doReadSome SessionBuffer.receive
  rw [if_pos positive, Option.bind_map]
  cases stored : session.sessionRecvBuffer.store data with
  | none => rfl
  | some filled =>
    have room : filled.getBufferSize ≠ 0 := by
      have size := SessionBuffer.store_getBufferSize stored
      omega
    simp only [Option.bind_some, if_neg room, Function.comp_apply]

end BridgeSession

namespace BridgeClass

def Drains : BridgeClass → Prop
  | .tcpSslClientSession | .udpClientSession => True
  | _ => False

variable (kind : BridgeClass)

def storedTarget (session : BridgeSession) (target : UInt32) : UInt32 :=
  match kind with
  | .tcpSslClientSession => session.connectId
  | _ => target

def Keeps (session : BridgeSession) (data : List UInt8) :
    BridgeRoute → Prop
  | .packetParser =>
      kind = .udpClientSession → data.length ≤ session.sessionSendBuffer.getBufferSize
  | .bridge target =>
      match kind with
      | .udpClientSession => data.length ≤ session.sessionSendBuffer.getBufferSize
      | .tcpSslClientSession => target = session.connectId
      | _ => session.sessionRecvBuffer.content = []

def afterParse (length : Nat) (verdict : ReceiveVerdict) (buffer : SessionBuffer) : SessionBuffer :=
  match kind with
  | .tcpSslClientSession => buffer.move length
  | .ttyServer => if verdict.parsed.isNone then buffer.move length else buffer
  | _ => buffer

theorem receive_eq_doReadSome {kind : BridgeClass} (stream : kind ≠ .udpClientSession)
    (session : BridgeSession) (verdict : ReceiveVerdict) (bytes : data ≠ []) :
    kind.receive session data verdict =
      session.doReadSome data verdict (kind.afterParse data.length verdict) := by
  cases kind with
  | udpClientSession => exact absurd rfl stream
  | ttyServer => exact session.ttyDoReadSome_eq verdict bytes
  | _ => rfl

end BridgeClass

namespace SessionBridge

structure Tracks (kind : BridgeClass) (bridge : SessionBridge) : Prop where
  bridged : ∀ target, bridge.expected = some (.bridge target) →
    target > 0 ∧ bridge.session.ioState = .sessionIoBridge ∧
      bridge.session.ioBridgeConnectId = kind.storedTarget bridge.session target
  parsed : bridge.expected = some .packetParser → bridge.session.ioState = .sessionIoLogic
  drained : kind.Drains → bridge.session.sessionRecvBuffer.content = []

def Keeps (kind : BridgeClass) (bridge : SessionBridge) : SessionBridgeAction → Prop
  | .receive data _ =>
      data ≠ [] → data.length ≤ bridge.session.sessionRecvBuffer.getBufferSize →
        ∀ route ∈ bridge.expected, kind.Keeps bridge.session data route
  | _ => True

variable {kind : BridgeClass} {bridge : SessionBridge}

variable {copied written : SessionBuffer} {delivery : BridgeDelivery}
  {next session : BridgeSession} {verdict : ReceiveVerdict}

theorem stream_obeys_iff (stream : kind ≠ .udpClientSession) (tracks : bridge.Tracks kind)
    (verdict : ReceiveVerdict) (bytes : data ≠ [])
    (room : data.length ≤ bridge.session.sessionRecvBuffer.getBufferSize) :
    (match kind.receive bridge.session data verdict with
      | some (_, delivery) => delivery.Agrees bridge.expected
      | none => bridge.expected = none) ↔
      ∀ route ∈ bridge.expected, kind.Keeps bridge.session data route := by
  obtain ⟨written, received⟩ := SessionBuffer.receive_of_room room
  have content := SessionBuffer.receive_content received
  obtain ⟨next, delivery, routed, spec, -⟩ := bridge.session.routeData_routed verdict
    (kind.afterParse data.length verdict) content
  rw [BridgeClass.receive_eq_doReadSome stream _ verdict bytes]
  simp only [BridgeSession.doReadSome, received, Option.bind_some, routed]
  rcases expects : bridge.expected with _ | _ | target
  · simp [BridgeDelivery.Agrees]
  · have logic := tracks.parsed expects
    have parses := spec.parses (by rw [logic]; decide)
    simp [BridgeDelivery.Agrees, parses, spec.held, spec.received, BridgeClass.Keeps, stream]
  · obtain ⟨positive, bridged, stored⟩ := tracks.bridged target expects
    obtain ⟨routing, left⟩ := spec.bridges bridged
    have kept : delivery.kept =
        (bridge.session.sessionRecvBuffer.content ++ data).drop data.length := by
      rw [spec.kept, left, SessionBuffer.move_content, content]
    simp only [BridgeDelivery.Agrees, routing, kept, spec.received]
    rw [ioBridgeRouting_eq_send_iff positive, stored]
    have emptied := tracks.drained
    cases kind with
    | udpClientSession => exact absurd rfl stream
    | tcpSslClientSession =>
      have swap : target = bridge.session.connectId ↔ bridge.session.connectId = target :=
        eq_comm
      simp [BridgeClass.storedTarget, BridgeClass.Keeps, emptied trivial, swap]
    | tcpSession | tcpClientSession | tcpSslSession | ttyServer =>
      simp [BridgeClass.storedTarget, BridgeClass.Keeps]

theorem udpClient_eq (session : BridgeSession) (verdict : ReceiveVerdict) {bytes : List UInt8}
    (received : session.sessionRecvBuffer.receive data = some written)
    (reads : written.readBytes 0 data.length = some bytes)
    (copies : session.sessionSendBuffer.receive bytes = some copied) :
    ∃ routed delivery,
      session.udpClientDoReceiveFrom data verdict =
        some ({ routed with sessionRecvBuffer := routed.sessionRecvBuffer.move data.length },
          { delivery with kept := (routed.sessionRecvBuffer.move data.length).content }) ∧
      { session with sessionSendBuffer := copied }.Routed written data routed delivery ∧
      routed.sessionRecvBuffer.content.length ≤ written.content.length := by
  obtain ⟨routed, delivery, routes, spec, parsed⟩ :=
    { session with sessionSendBuffer := copied }.routeData_routed verdict
      (fun buffer => if verdict.parsed.isNone then buffer.move data.length else buffer)
      (SessionBuffer.receive_content received)
  refine ⟨routed, delivery, ?_, spec, ?_⟩
  · simp only [BridgeSession.udpClientDoReceiveFrom, received, reads, copies, Option.bind_some,
      routes, Option.map_some]
  · by_cases bridged : session.ioState = .sessionIoBridge
    · rw [(spec.bridges bridged).2, SessionBuffer.move_content, List.length_drop]
      omega
    · rw [parsed bridged]
      split <;> simp only [SessionBuffer.move_content, List.length_drop] <;> omega

theorem udpClient_sendBuffer (session : BridgeSession) (verdict : ReceiveVerdict)
    {bytes : List UInt8} (received : session.sessionRecvBuffer.receive data = some written)
    (reads : written.readBytes 0 data.length = some bytes)
    (copies : session.sessionSendBuffer.receive bytes = some copied) :
    ∃ next delivery, session.udpClientDoReceiveFrom data verdict = some (next, delivery) ∧
      next.sessionSendBuffer = copied := by
  simp only [BridgeSession.udpClientDoReceiveFrom, received, reads, copies, Option.bind_some,
    BridgeSession.routeData]
  split
  · simp only [BridgeSession.bridgeData, doIoBridgeData, reads, Option.bind_some, Option.map_some]
    exact ⟨_, _, rfl, rfl⟩
  · exact ⟨_, _, rfl, rfl⟩

theorem udpClient_agrees (tracks : bridge.Tracks .udpClientSession) {routed : BridgeSession}
    (received : bridge.session.sessionRecvBuffer.receive data = some written)
    (spec : { bridge.session with sessionSendBuffer := copied }.Routed written data routed delivery)
    (shorter : routed.sessionRecvBuffer.content.length ≤ written.content.length) :
    { delivery with kept := (routed.sessionRecvBuffer.move data.length).content }.Agrees
      bridge.expected := by
  have emptied := tracks.drained trivial
  have content := SessionBuffer.receive_content received
  rw [emptied, List.nil_append] at content
  rcases expects : bridge.expected with _ | _ | target
  · trivial
  · have logic := tracks.parsed expects
    simp only [BridgeDelivery.Agrees, spec.held, spec.received]
    exact spec.parses (by simp only [logic]; decide)
  · obtain ⟨positive, bridged, stored⟩ := tracks.bridged target expects
    obtain ⟨routing, -⟩ := spec.bridges bridged
    have left : (routed.sessionRecvBuffer.move data.length).content = [] := by
      rw [SessionBuffer.move_content]
      exact List.drop_of_length_le (by rw [← content]; exact shorter)
    obtain ⟨sent, -⟩ : ioBridgeRouting bridge.session.ioBridgeConnectId
          ((bridge.session.sessionRecvBuffer.content ++ data).take data.length) =
        .sendIoBridgeMessage target data ∧
      (bridge.session.sessionRecvBuffer.content ++ data).drop data.length = [] :=
      (ioBridgeRouting_eq_send_iff positive).mpr ⟨stored, emptied⟩
    simp only [BridgeDelivery.Agrees, routing, spec.received]
    exact ⟨sent, left⟩

theorem udpClient_obeys_iff (tracks : bridge.Tracks .udpClientSession) (verdict : ReceiveVerdict)
    (room : data.length ≤ bridge.session.sessionRecvBuffer.getBufferSize) :
    (match bridge.session.udpClientDoReceiveFrom data verdict with
      | some (_, delivery) => delivery.Agrees bridge.expected
      | none => bridge.expected = none) ↔
      ∀ route ∈ bridge.expected,
        BridgeClass.udpClientSession.Keeps bridge.session data route := by
  have keeps : ∀ route, BridgeClass.udpClientSession.Keeps bridge.session data route ↔
      data.length ≤ bridge.session.sessionSendBuffer.getBufferSize := by
    rintro (_ | target) <;> simp [BridgeClass.Keeps]
  simp only [keeps]
  obtain ⟨written, received⟩ := SessionBuffer.receive_of_room room
  have reads := SessionBuffer.readBytes_front (SessionBuffer.receive_content received)
  rw [tracks.drained trivial, List.nil_append, List.take_length] at reads
  by_cases copies : data.length ≤ bridge.session.sessionSendBuffer.getBufferSize
  · obtain ⟨copied, fills⟩ := SessionBuffer.receive_of_room copies
    obtain ⟨routed, delivery, delivers, spec, shorter⟩ :=
      udpClient_eq bridge.session verdict received reads fills
    simp only [delivers, copies, implies_true, iff_true]
    exact udpClient_agrees tracks received spec shorter
  · have fails : bridge.session.udpClientDoReceiveFrom data verdict = none := by
      simp [BridgeSession.udpClientDoReceiveFrom, received, reads,
        SessionBuffer.receive_no_room copies]
    simp only [fails, copies, imp_false]
    exact Option.eq_none_iff_forall_not_mem

theorem obeys_iff_keeps (tracks : bridge.Tracks kind) (action : SessionBridgeAction) :
    bridge.Obeys kind action ↔ bridge.Keeps kind action := by
  cases action with
  | receive data verdict =>
    refine forall_congr' fun bytes => forall_congr' fun room => ?_
    by_cases datagrams : kind = .udpClientSession
    · subst datagrams
      exact udpClient_obeys_iff tracks verdict room
    · exact stream_obeys_iff datagrams tracks verdict bytes room
  | setIoBridgeConnectId | setWriteBuffer | doWrite => exact Iff.rfl

structure Received (kind : BridgeClass) (session next : BridgeSession)
    (delivery : BridgeDelivery) : Prop where
  connectId : next.connectId = session.connectId
  ioState : next.ioState = session.ioState
  ioBridgeConnectId :
    next.ioBridgeConnectId = if delivery.refused then 0 else session.ioBridgeConnectId
  drained : kind.Drains → session.sessionRecvBuffer.content = [] →
    next.sessionRecvBuffer.content = []

theorem doReadSome_received (stream : kind ≠ .udpClientSession)
    (reads : session.doReadSome data verdict (kind.afterParse data.length verdict) = some (next,
      delivery)) : Received kind session next delivery := by
  obtain ⟨written, received, routes⟩ := Option.bind_eq_some_iff.mp reads
  have content := SessionBuffer.receive_content received
  obtain ⟨routed, passed, same, spec, parsed⟩ := session.routeData_routed verdict
    (kind.afterParse data.length verdict) content
  rw [same, Option.some.injEq, Prod.mk.injEq] at routes
  obtain ⟨rfl, rfl⟩ := routes
  refine ⟨spec.connectId, spec.ioState, spec.ioBridgeConnectId, fun drains emptied => ?_⟩
  rw [emptied, List.nil_append] at content
  by_cases bridged : session.ioState = .sessionIoBridge
  · rw [(spec.bridges bridged).2, SessionBuffer.move_content, content, List.drop_length]
  · rw [parsed bridged]
    cases kind with
    | tcpSslClientSession =>
      simp only [BridgeClass.afterParse, SessionBuffer.move_content, content]
      exact List.drop_of_length_le (by rw [List.length_drop]; omega)
    | udpClientSession => exact absurd rfl stream
    | tcpSession | tcpClientSession | tcpSslSession | ttyServer => exact drains.elim

theorem udpClient_received
    (receives : session.udpClientDoReceiveFrom data verdict = some (next, delivery)) :
    Received .udpClientSession session next delivery := by
  have unfolded := receives
  simp only [BridgeSession.udpClientDoReceiveFrom, Option.bind_eq_some_iff] at unfolded
  obtain ⟨written, received, bytes, reads, copied, copies, -⟩ := unfolded
  obtain ⟨routed, passed, same, spec, shorter⟩ := udpClient_eq session verdict received reads copies
  rw [same, Option.some.injEq, Prod.mk.injEq] at receives
  obtain ⟨rfl, rfl⟩ := receives
  refine ⟨spec.connectId, spec.ioState, spec.ioBridgeConnectId, fun _ emptied => ?_⟩
  have content := SessionBuffer.receive_content received
  rw [emptied, List.nil_append] at content
  simp only [SessionBuffer.move_content]
  exact List.drop_of_length_le (by rw [← content]; exact shorter)

theorem receive_received (receives : kind.receive session data verdict = some (next, delivery)) :
    Received kind session next delivery := by
  cases kind with
  | udpClientSession => exact udpClient_received receives
  | ttyServer =>
    by_cases bytes : data = []
    · simp only [BridgeClass.receive, BridgeSession.ttyDoReadSome, bytes, List.length_nil,
        gt_iff_lt, Nat.lt_irrefl, if_false, Option.some.injEq, Prod.mk.injEq] at receives
      obtain ⟨rfl, rfl⟩ := receives
      exact ⟨rfl, rfl, rfl, fun drains => drains.elim⟩
    · rw [BridgeClass.receive_eq_doReadSome (by decide) session verdict bytes] at receives
      exact doReadSome_received (by decide) receives
  | tcpSession | tcpClientSession | tcpSslSession | tcpSslClientSession =>
    exact doReadSome_received (by decide) receives

theorem setIoBridgeConnectId_tracks (tracks : bridge.Tracks kind) (toConnectId : UInt32) :
    SessionBridge.Tracks kind
      ⟨kind.setIoBridgeConnectId bridge.session toConnectId, some (.ofTarget toConnectId)⟩ := by
  by_cases positive : toConnectId > 0
  · refine ⟨?_, ?_, ?_⟩
    · rintro target asked
      simp only [BridgeRoute.ofTarget, positive, if_true, Option.some.injEq,
        BridgeRoute.bridge.injEq] at asked
      subst asked
      refine ⟨positive, ?_⟩
      cases kind <;> simp [BridgeClass.setIoBridgeConnectId, BridgeSession.setIoBridge, positive,
        BridgeClass.storedTarget]
    · simp [BridgeRoute.ofTarget, positive]
    · cases kind <;> simpa [BridgeClass.setIoBridgeConnectId, BridgeSession.setIoBridge, positive]
        using tracks.drained
  · refine ⟨?_, ?_, ?_⟩
    · simp [BridgeRoute.ofTarget, positive]
    · intro _
      cases kind <;> simp [BridgeClass.setIoBridgeConnectId, BridgeSession.setIoBridge, positive]
    · cases kind <;> simpa [BridgeClass.setIoBridgeConnectId, BridgeSession.setIoBridge, positive]
        using tracks.drained

theorem Received.tracks (tracks : bridge.Tracks kind)
    (received : Received kind bridge.session session delivery) :
    SessionBridge.Tracks kind ⟨session, delivery.leaves bridge.expected⟩ := by
  have drained := fun drains => received.drained drains (tracks.drained drains)
  cases refused : delivery.refused with
  | true => exact ⟨by simp [BridgeDelivery.leaves, refused],
      by simp [BridgeDelivery.leaves, refused], drained⟩
  | false =>
    have stays : delivery.leaves bridge.expected = bridge.expected := by
      simp [BridgeDelivery.leaves, refused]
    rw [stays]
    refine ⟨fun target expects => ?_, fun expects => ?_, drained⟩
    · obtain ⟨positive, bridged, stored⟩ := tracks.bridged target expects
      refine ⟨positive, received.ioState.trans bridged, ?_⟩
      have same := received.ioBridgeConnectId
      simp only [refused, Bool.false_eq_true, if_false] at same
      rw [same, stored]
      cases kind <;> simp only [BridgeClass.storedTarget, received.connectId]
    · exact received.ioState.trans (tracks.parsed expects)

theorem step_tracks {next : SessionBridge} {action : SessionBridgeAction}
    (tracks : bridge.Tracks kind) (stepped : bridge.step kind action = some next) :
    next.Tracks kind := by
  cases action with
  | setIoBridgeConnectId toConnectId =>
    cases stepped
    exact setIoBridgeConnectId_tracks tracks toConnectId
  | receive data verdict =>
    obtain ⟨⟨session, delivery⟩, receives, rfl⟩ := Option.map_eq_some_iff.mp stepped
    exact (receive_received receives).tracks tracks
  | setWriteBuffer data =>
    simp only [step, Option.ite_none_right_eq_some, BridgeSession.setWriteBuffer,
      Option.map_map, Option.map_eq_some_iff] at stepped
    obtain ⟨rfl, filled, -, rfl⟩ := stepped
    exact ⟨tracks.bridged, tracks.parsed, tracks.drained⟩
  | doWrite =>
    simp only [step, Option.ite_none_right_eq_some, Option.some.injEq] at stepped
    obtain ⟨rfl, rfl⟩ := stepped
    exact ⟨tracks.bridged, tracks.parsed, tracks.drained⟩

theorem opened_tracks (kind : BridgeClass) (connectId recvSize sendSize : UInt32)
    (fresh : Nat → UInt8) : (opened connectId recvSize sendSize fresh).Tracks kind := by
  refine ⟨?_, fun _ => rfl, fun _ => SessionBuffer.init_content _ _⟩
  rintro target ⟨⟩

theorem run_obeys_iff (kind : BridgeClass) (connectId recvSize sendSize : UInt32)
    (fresh : Nat → UInt8) (actions : List SessionBridgeAction) :
    Throughout (step kind) (Obeys kind) (opened connectId recvSize sendSize fresh) actions ↔
      Throughout (step kind) (Keeps kind) (opened connectId recvSize sendSize fresh) actions :=
  throughout_congr (fun _ _ _ tracks stepped => step_tracks tracks stepped)
    (fun _ action tracks => obeys_iff_keeps tracks action)
    (opened_tracks kind connectId recvSize sendSize fresh)

end SessionBridge

end PssAsio
