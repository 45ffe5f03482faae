import PssAsio.BridgeSessionCore
import PssAsio.KcpListenerCore
import PssAsio.UdpServerCore

/-!
The bridge of the eight session classes, against a contract on `set_io_bridge_connect_id`.
-/

namespace PssAsio

open Function

inductive BridgeRoute where
  | packetParser
  | bridge (target : UInt32)
  deriving DecidableEq, Repr

def BridgeRoute.ofTarget (toConnectId : UInt32) : BridgeRoute :=
  if toConnectId > 0 then .bridge toConnectId else .packetParser

def BridgeRoute.greet (expected : UInt32 → Option BridgeRoute) (known : Option UInt32)
    (countIndex : UInt32) : UInt32 → Option BridgeRoute :=
  match known with
  | some _ => expected
  | none => update expected (countIndex + 1) (some .packetParser)

namespace BridgeDelivery

variable (delivery : BridgeDelivery)

variable (expected : Option BridgeRoute)

/-- The data went where the contract wants it: to the bridge, which leaves nothing of it behind, or
to the parser, behind what that has left in its buffer. -/
def Agrees : Prop :=
  match expected with
  | some (.bridge target) =>
      delivery.routing = .sendIoBridgeMessage target delivery.data ∧ delivery.kept = []
  | some .packetParser =>
      delivery.routing = .packetFromRecvBuffer (delivery.held ++ delivery.data)
  | none => True

def leaves : Option BridgeRoute :=
  if delivery.refused then none else expected

instance : Decidable (delivery.Agrees expected) := by
  unfold Agrees
  rcases expected with _ | _ | target <;> infer_instance

end BridgeDelivery

namespace BridgeSession

variable (session : BridgeSession)

variable (data : List UInt8)

variable (verdict : ReceiveVerdict)

def doReadSome (after : SessionBuffer → SessionBuffer) : Option (BridgeSession × BridgeDelivery) :=
  (session.sessionRecvBuffer.receive data).bind fun written =>
    session.routeData written data verdict after

/-- The datagram is copied to the send buffer before the bridge is looked at. -/
def udpClientDoReceiveFrom : Option (BridgeSession × BridgeDelivery) :=
  (session.sessionRecvBuffer.receive data).bind fun written =>
    (written.readBytes 0 data.length).bind fun bytes =>
      (session.sessionSendBuffer.receive bytes).bind fun copied =>
        let after (buffer : SessionBuffer) : SessionBuffer :=
          if verdict.parsed.isNone then buffer.move data.length else buffer
        let filled : BridgeSession := { session with sessionSendBuffer := copied }
        (filled.routeData written data verdict after).map fun (routed, delivery) =>
          let buffer := routed.sessionRecvBuffer.move data.length
          ({ routed with sessionRecvBuffer := buffer }, { delivery with kept := buffer.content })

/-- A full buffer does not end the handler, and an empty read only starts the next one. -/
def ttyDoReadSome : Option (BridgeSession × BridgeDelivery) :=
  if data.length > 0 then
    (session.sessionRecvBuffer.store data).bind fun filled =>
      let checked := if filled.getBufferSize = 0 then filled.move data.length else filled
      let after (buffer : SessionBuffer) : SessionBuffer :=
        if verdict.parsed.isNone then buffer.move data.length else buffer
      session.routeData (checked.setWriteData data.length).1 data verdict after
  else
    let content := session.sessionRecvBuffer.content
    some (session,
      ⟨session.connectId, content, data, .packetFromRecvBuffer content, content, false⟩)

def setWriteBuffer : Option BridgeSession :=
  (session.sessionSendBuffer.receive data).map fun filled =>
    { session with sessionSendBuffer := filled }

def doWrite : BridgeSession :=
  { session with
    sessionSendBuffer := session.sessionSendBuffer.move session.sessionSendBuffer.getWriteSize }

end BridgeSession

inductive BridgeClass where
  | tcpSession
  | tcpClientSession
  | tcpSslSession
  | tcpSslClientSession
  | udpClientSession
  | ttyServer
  deriving DecidableEq, Repr

namespace BridgeClass

def setIoBridgeConnectId (kind : BridgeClass) (session : BridgeSession) (toConnectId : UInt32) :
    BridgeSession :=
  match kind with
  -- `CTcpSSLClientSession` assigns `from_io_connect_id`.
  | .tcpSslClientSession => session.setIoBridge toConnectId session.connectId
  | _ => session.setIoBridge toConnectId toConnectId

def receive (kind : BridgeClass) (session : BridgeSession) (data : List UInt8)
    (verdict : ReceiveVerdict) : Option (BridgeSession × BridgeDelivery) :=
  match kind with
  | .tcpSession | .tcpClientSession | .tcpSslSession => session.doReadSome data verdict id
  | .tcpSslClientSession => session.doReadSome data verdict fun buffer => buffer.move data.length
  | .udpClientSession => session.udpClientDoReceiveFrom data verdict
  | .ttyServer => session.ttyDoReadSome data verdict

end BridgeClass

structure SessionBridge where
  session : BridgeSession
  expected : Option BridgeRoute

inductive SessionBridgeAction where
  | setIoBridgeConnectId (toConnectId : UInt32)
  | receive (data : List UInt8) (verdict : ReceiveVerdict)
  | setWriteBuffer (data : List UInt8)
  | doWrite
  deriving DecidableEq

namespace SessionBridge

def opened (connectId recvSize sendSize : UInt32) (fresh : Nat → UInt8) : SessionBridge :=
  ⟨BridgeSession.opened connectId recvSize sendSize fresh, some .packetParser⟩

variable (kind : BridgeClass)

def step (bridge : SessionBridge) :
    SessionBridgeAction → Option SessionBridge
  | .setIoBridgeConnectId toConnectId =>
      some ⟨kind.setIoBridgeConnectId bridge.session toConnectId, some (.ofTarget toConnectId)⟩
  | .receive data verdict =>
      (kind.receive bridge.session data verdict).map fun (session, delivery) =>
        ⟨session, delivery.leaves bridge.expected⟩
  | .setWriteBuffer data =>
      if kind = .udpClientSession then
        (bridge.session.setWriteBuffer data).map fun session => { bridge with session := session }
      else none
  | .doWrite =>
      if kind = .udpClientSession then some { bridge with session := bridge.session.doWrite }
      else none

def Obeys (bridge : SessionBridge) : SessionBridgeAction → Prop
  | .receive data verdict =>
      data ≠ [] → data.length ≤ bridge.session.sessionRecvBuffer.getBufferSize →
        match kind.receive bridge.session data verdict with
        | some (_, delivery) => delivery.Agrees bridge.expected
        | none => bridge.expected = none
  | _ => True

instance (bridge : SessionBridge) (action : SessionBridgeAction) :
    Decidable (bridge.Obeys kind action) := by
  unfold Obeys
  (repeat' split) <;> infer_instance

end SessionBridge

variable {Peer : Type}

namespace KcpListener

variable (server : KcpListener Peer)

/-- The bridge gets `length` bytes of `session_recv_buffer_`, the parser
`session_recv_data_buffer_`. -/
def inputDelivery (connectId : UInt32) (queue : List (List UInt8)) (length : Nat)
    (completed : List (List UInt8)) : Option BridgeDelivery :=
  (ikcpRecvLoop length (queue ++ completed) server.sessionRecvDataBuffer).bind fun taken =>
    if logicDataLength taken.received = 0 then none
    else if server.ioState = .sessionIoBridge ∧ server.ioBridgeConnectId > 0 then
      ((server.sessionRecvBuffer.move length).readBytes 0 length).map fun bytes =>
        ⟨connectId, server.sessionRecvDataBuffer.content, taken.received.flatten,
          .sendIoBridgeMessage server.ioBridgeConnectId bytes, taken.buffer.content, false⟩
    else
      some ⟨connectId, server.sessionRecvDataBuffer.content, taken.received.flatten,
        .packetFromRecvBuffer taken.buffer.content, [], false⟩

def receiveDelivery (connectId : UInt32) (channel : KcpChannel Peer) (length : Nat)
    (completed : List (List UInt8)) : Option BridgeDelivery :=
  if server.sessionRecvBuffer.getBufferSize = 0 then none
  else
    let written := { server with
      sessionRecvBuffer := (server.sessionRecvBuffer.setWriteData length).1 }
    (written.sessionRecvBuffer.readBytes 0 length).bind fun kcpData =>
      if isKcpIdCreate kcpData then none
      else channel.kcpcb.bind fun queue => written.inputDelivery connectId queue length completed

variable [DecidableEq Peer]

def delivery (server : KcpListener Peer) (recvEndpoint : Peer) (data : List UInt8)
    (initKcp : Bool) (completed : List (List UInt8)) : Option BridgeDelivery :=
  (server.sessionRecvBuffer.store data).bind fun filled =>
    let added := ({ server with sessionRecvBuffer := filled }.addUdpEndpoint recvEndpoint initKcp).1
    let connectId :=
      ({ server with sessionRecvBuffer := filled }.addUdpEndpoint recvEndpoint initKcp).2
    if connectId = 0 ∨ data.length = 0 then none
    else
      (added.udpId2EndpointList connectId).bind fun channel =>
        added.receiveDelivery connectId channel data.length completed

end KcpListener

structure KcpBridge (Peer : Type) where
  server : KcpListener Peer
  expected : UInt32 → Option BridgeRoute

inductive KcpBridgeAction (Peer : Type) where
  | receive (recvEndpoint : Peer) (data : List UInt8) (initKcp : Bool)
      (completed : List (List UInt8))
  | close (connectId : UInt32)
  | setIoBridgeConnectId (fromConnectId toConnectId : UInt32)
  | createCounter
  deriving DecidableEq, Repr

namespace KcpBridge

variable [DecidableEq Peer]

def started (maxRecvSize : UInt32) (fresh : Nat → UInt8) (countIndex : UInt32) : KcpBridge Peer :=
  ⟨KcpListener.started maxRecvSize fresh countIndex, fun _ => none⟩

variable (bridge : KcpBridge Peer)

def greeted (recvEndpoint : Peer) : UInt32 → Option BridgeRoute :=
  BridgeRoute.greet bridge.expected (bridge.server.udpEndpoint2IdList recvEndpoint)
    bridge.server.countIndex

def step (bridge : KcpBridge Peer) : KcpBridgeAction Peer → Option (KcpBridge Peer)
  | .receive recvEndpoint data initKcp completed =>
      (bridge.server.step (.receive recvEndpoint data initKcp completed)).map fun server =>
        ⟨server, bridge.greeted recvEndpoint⟩
  | .close connectId =>
      (bridge.server.step (.close connectId)).map fun server =>
        ⟨server, update bridge.expected connectId none⟩
  | .setIoBridgeConnectId fromConnectId toConnectId =>
      if (bridge.server.udpId2EndpointList fromConnectId).isSome then
        some ⟨bridge.server.setIoBridgeConnectId toConnectId,
          update bridge.expected fromConnectId (some (.ofTarget toConnectId))⟩
      else none
  | .createCounter =>
      (bridge.server.step .createCounter).map fun server => { bridge with server := server }

def Obeys : KcpBridgeAction Peer → Prop
  | .receive recvEndpoint data initKcp completed =>
      match bridge.server.delivery recvEndpoint data initKcp completed with
      | some delivery => delivery.Agrees (bridge.greeted recvEndpoint delivery.connectId)
      | none => True
  | _ => True

instance (action : KcpBridgeAction Peer) : Decidable (bridge.Obeys action) := by
  unfold Obeys
  (repeat' split) <;> infer_instance

end KcpBridge

namespace UdpServer

def routing (server : UdpServer Peer) (length : Nat)
    (sessionInfo : Option (UdpSessionInfo Peer)) : Option BridgeRouting :=
  match sessionInfo with
  | some info =>
      if info.ioState = .sessionIoBridge then
        (server.sessionRecvBuffer.readBytes 0 length).map (ioBridgeRouting info.ioBridgeConnectId)
      else some (.packetFromRecvBuffer server.sessionRecvBuffer.content)
  | none => some (.packetFromRecvBuffer server.sessionRecvBuffer.content)

def refuses (sessionInfo : Option (UdpSessionInfo Peer)) (verdict : ReceiveVerdict) : Bool :=
  match sessionInfo with
  | some info =>
      info.ioState = .sessionIoBridge && info.ioBridgeConnectId > 0 && !verdict.bridgeSent
  | none => false

variable [DecidableEq Peer]

def receiveFrom (server : UdpServer Peer) (recvEndpoint : Peer) (data : List UInt8)
    (verdict : ReceiveVerdict) : Option (UdpServer Peer × Option BridgeDelivery) :=
  (server.step (.receive recvEndpoint data)).bind fun received =>
    match received.step .findEndpoint with
    | some found =>
        match found.handling with
        | some (.found connectId length sessionInfo) =>
            (found.routing length sessionInfo).bind fun routing =>
              (found.step (.dispose verdict)).map fun disposed =>
                (disposed, some ⟨connectId, server.sessionRecvBuffer.content, data, routing,
                  disposed.sessionRecvBuffer.content, refuses sessionInfo verdict⟩)
        | _ => none
    | none => some (received, none)

end UdpServer

structure UdpBridge (Peer : Type) where
  server : UdpServer Peer
  expected : UInt32 → Option BridgeRoute

inductive UdpBridgeAction (Peer : Type) where
  | receiveFrom (recvEndpoint : Peer) (data : List UInt8) (verdict : ReceiveVerdict)
  | setIoBridgeConnectId (fromConnectId toConnectId : UInt32)
  | createCounter
  | closeLook (connectId : UInt32)
  | closeWithdraw (index : Nat)
  | closeErase (index : Nat)
  deriving DecidableEq

namespace UdpBridge

variable [DecidableEq Peer]

def started (maxRecvSize : UInt32) (fresh : Nat → UInt8) (countIndex : UInt32) : UdpBridge Peer :=
  ⟨UdpServer.started maxRecvSize fresh countIndex, fun _ => none⟩

variable (bridge : UdpBridge Peer)

def greeted (recvEndpoint : Peer) : UInt32 → Option BridgeRoute :=
  BridgeRoute.greet bridge.expected (bridge.server.udpEndpoint2IdList recvEndpoint)
    bridge.server.countIndex

def settled (expected : UInt32 → Option BridgeRoute) :
    Option BridgeDelivery → UInt32 → Option BridgeRoute
  | some delivery =>
      update expected delivery.connectId
        (delivery.leaves (expected delivery.connectId))
  | none => expected

def step (bridge : UdpBridge Peer) : UdpBridgeAction Peer → Option (UdpBridge Peer)
  | .receiveFrom recvEndpoint data verdict =>
      (bridge.server.receiveFrom recvEndpoint data verdict).map fun (server, delivery) =>
        ⟨server, settled (bridge.greeted recvEndpoint) delivery⟩
  | .setIoBridgeConnectId fromConnectId toConnectId =>
      if (bridge.server.udpId2EndpointList fromConnectId).isSome then
        some ⟨bridge.server.setIoBridgeConnectId fromConnectId toConnectId,
          update bridge.expected fromConnectId (some (.ofTarget toConnectId))⟩
      else none
  | .createCounter =>
      (bridge.server.step .createCounter).map fun server => { bridge with server := server }
  | .closeLook connectId =>
      (bridge.server.step (.closeLook connectId)).map fun server =>
        { bridge with server := server }
  | .closeWithdraw index =>
      (bridge.server.step (.closeWithdraw index)).map fun server =>
        { bridge with server := server }
  | .closeErase index =>
      match bridge.server.closing[index]? with
      | some (connectId, _) =>
          (bridge.server.step (.closeErase index)).map fun server =>
            ⟨server, update bridge.expected connectId none⟩
      | none => none

def Obeys : UdpBridgeAction Peer → Prop
  | .receiveFrom recvEndpoint data verdict =>
      data ≠ [] → (bridge.server.step (.receive recvEndpoint data)).isSome →
        match bridge.server.receiveFrom recvEndpoint data verdict with
        | some (_, some delivery) =>
            delivery.Agrees (bridge.greeted recvEndpoint delivery.connectId)
        | _ => False
  | _ => True

end UdpBridge

end PssAsio
