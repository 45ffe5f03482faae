import PssAsio.CloseTasks

/-!
The connect ids that the packet parser sees. A visit is one handler; `connection` in a recorded call
is the id that was made for the connection.
-/

namespace PssAsio

inductive ParserFunction where
  | packetConnect
  | addThreadSession
  | packetFromRecvBuffer
  | parseFormatSendBuffer
  | packetDisconnect
  deriving DecidableEq, Repr

structure ConnectionCall where
  object : Nat
  connection : UInt32
  callee : ParserFunction
  connectId : UInt32
  deriving DecidableEq, Repr

structure ObjectVisit (Peer : Type) where
  object : ReadObject Peer
  connection : UInt32
  passed : List (ParserFunction × UInt32)
  made : List LogicCall

namespace BridgeClass

/-- `close` uses `connect_id_`, not the connect id it is called with. -/
def closesOwnId : BridgeClass → Bool
  | .tcpSession | .ttyServer => true
  | _ => false

/-- `close` returns at once when the socket is not open. -/
def checksOpen : BridgeClass → Bool
  | .tcpSession | .udpClientSession => true
  | _ => false

end BridgeClass

variable {Peer : Type}

namespace SocketReader

def visit (reader : SocketReader) (passed : List (ParserFunction × UInt32))
    (answer : SocketReader × List LogicCall) : ObjectVisit Peer :=
  ⟨.socket answer.1, reader.session.connectId, passed, answer.2⟩

def passes (reader : SocketReader) : List (ParserFunction × UInt32) :=
  if reader.Ignores ∨ reader.session.ioState = .sessionIoBridge then []
  else [(.packetFromRecvBuffer, reader.session.connectId)]

end SocketReader

namespace TtyReads

def passes (port : TtyReads) : TtyReadAction → List (ParserFunction × UInt32)
  | .readSome _ data _ =>
      if data.length > 0 ∧ port.session.ioState ≠ .sessionIoBridge then
        [(.packetFromRecvBuffer, port.session.connectId)]
      else []
  | _ => []

def visit (port : TtyReads) (action : TtyReadAction) : Option (ObjectVisit Peer) :=
  (port.step action).map fun next =>
    ⟨.tty next, port.session.connectId, port.passes action,
      (next.calls.drop port.calls.length).map .work⟩

end TtyReads

namespace UdpServer

/-- `connect_client_id_`, which nothing assigns. -/
def connectClientId : UInt32 := 0

def parsedId (server : UdpServer Peer) : Option UInt32 :=
  match server.handling with
  | some (.found connectId _ sessionInfo) =>
      if sessionInfo.any (fun info => info.ioState = .sessionIoBridge) then none
      else some connectId
  | _ => none

variable [DecidableEq Peer]

variable (server : UdpServer Peer)

def connection : UdpAction Peer → UInt32
  | .receive recvEndpoint _ => (server.addUdpEndpoint recvEndpoint).2
  | .findEndpoint | .dispose _ => (server.handling.map UdpHandling.connectId).getD 0
  | .closeLook connectId => connectId
  | .closeWithdraw index | .closeErase index => (server.closing[index]?.map Prod.fst).getD 0
  | .setIoBridgeConnectId fromConnectId _ => fromConnectId
  | .createCounter => 0

def passes : UdpAction Peer → List (ParserFunction × UInt32)
  | .receive recvEndpoint _ =>
      if (server.udpEndpoint2IdList recvEndpoint).isNone then
        [(.packetConnect, (server.addUdpEndpoint recvEndpoint).2)]
      else []
  | .dispose _ =>
      if server.parsedId.isSome then [(.packetFromRecvBuffer, connectClientId)] else []
  | .closeLook connectId =>
      if (server.udpId2EndpointList connectId).isSome then [(.packetDisconnect, connectId)] else []
  | _ => []

def visit (next : UdpServer Peer) (action : UdpAction Peer) : ObjectVisit Peer :=
  ⟨.udp next, server.connection action, server.passes action,
    (next.calls.drop server.calls.length).map .work⟩

end UdpServer

namespace KcpListener

variable [DecidableEq Peer]

variable (server : KcpListener Peer)

def connection : KcpListenerAction Peer → UInt32
  | .receive recvEndpoint _ initKcp _ => (server.addUdpEndpoint recvEndpoint initKcp).2
  | .close connectId => connectId
  | .setIoBridgeConnectId _ | .createCounter => 0

variable (next : KcpListener Peer)

def passes :
    KcpListenerAction Peer → List (ParserFunction × UInt32)
  | .receive recvEndpoint _ initKcp _ =>
      (if (server.udpEndpoint2IdList recvEndpoint).isNone ∧ initKcp = true then
        [(.packetConnect, (server.addUdpEndpoint recvEndpoint initKcp).2)]
      else []) ++
        (next.parserCalls.drop server.parserCalls.length).map fun call =>
          (.packetFromRecvBuffer, call.connectId)
  | .close connectId => [(.packetDisconnect, connectId)]
  | .setIoBridgeConnectId _ | .createCounter => []

def visit (action : KcpListenerAction Peer) : ObjectVisit Peer :=
  ⟨.kcp next, server.connection action, server.passes next action,
    (next.calls.drop server.calls.length).map .work⟩

end KcpListener

/-- `closing` are the tasks of `close_session_event`, `dispatched` the closures on the io threads.
-/
structure ParserHost (Peer : Type) where
  objects : List (ReadObject Peer)
  sessions : UInt32 → Option Nat
  closing : List (Nat × UInt32)
  dispatched : List (Nat × UInt32)
  connectCounter : UInt32
  calls : List ConnectionCall

inductive ParserAction (Peer : Type) where
  | openSocket (kind : BridgeClass) (recvSize sendSize : UInt32)
  | openTty (recvSize sendSize : UInt32)
  | listenUdp (recvSize : UInt32)
  | listenKcp (recvSize : UInt32)
  | createCounter
  | doRead (index : Nat)
  | readSome (index : Nat) (data : List UInt8) (verdict : ReceiveVerdict)
  | readError (index : Nat)
  | setIoBridgeConnectId (index : Nat) (toIoConnectId : UInt32)
  | tty (index : Nat) (action : TtyReadAction)
  | udp (index : Nat) (action : UdpAction Peer)
  | kcp (index : Nat) (action : KcpListenerAction Peer)
  | closeIoSession (connectId : UInt32)
  | formatSendPacket (connectId : UInt32)
  | runClose (position : Nat)
  | runDispatched (position : Nat)
  deriving DecidableEq

def ReadObject.connectionOf {Peer : Type} (connectId : UInt32) : ReadObject Peer → UInt32
  | .socket reader => reader.session.connectId
  | .tty port => port.session.connectId
  | .udp _ | .kcp _ => connectId

def ReadObject.parsedId {Peer : Type} : ReadObject Peer → Option UInt32
  | .udp server => server.parsedId
  | _ => none

namespace ParserHost

def init : ParserHost Peer := ⟨[], fun _ => none, [], [], 0, []⟩

def perform (index : Nat) (connection : UInt32) (host : ParserHost Peer) :
    LogicCall → ParserHost Peer
  | .work (.addThreadSession connectId) =>
      { host with
        sessions := Function.update host.sessions connectId (some index)
        calls := host.calls ++ [⟨index, connection, .addThreadSession, connectId⟩] }
  | .work (.deleteThreadSession connectId) =>
      { host with sessions := Function.update host.sessions connectId none }
  | .work (.closeSessionEvent connectId) | .addMessage _ connectId =>
      { host with closing := host.closing ++ [(index, connectId)] }
  | .work _ => host

variable (host : ParserHost Peer)

variable (index : Nat)

def passing (objects : List (ReadObject Peer)) (visit : ObjectVisit Peer) : ParserHost Peer :=
  { host with
    objects := objects
    calls := host.calls ++ visit.passed.map fun entry =>
      ⟨index, visit.connection, entry.1, entry.2⟩ }

def enter (objects : List (ReadObject Peer)) (visit : ObjectVisit Peer) : ParserHost Peer :=
  visit.made.foldl (perform index visit.connection) (host.passing index objects visit)

def enroll (visit : ObjectVisit Peer) : ParserHost Peer :=
  host.enter host.objects.length (host.objects ++ [visit.object]) visit

def revisit (visit : ObjectVisit Peer) : ParserHost Peer :=
  host.enter index (host.objects.set index visit.object) visit

def onSocket (handler : SocketReader → Option (ObjectVisit Peer)) : Option (ParserHost Peer) :=
  match host.objects[index]? with
  | some (.socket reader) => (handler reader).map (host.revisit index)
  | _ => none

variable (object : ReadObject Peer)

def openVisit (connectId : UInt32) : ObjectVisit Peer :=
  ⟨object, connectId, [(.packetConnect, connectId)], [.work (.addThreadSession connectId)]⟩

def closeVisit (connectId : UInt32) : ObjectVisit Peer :=
  ⟨object, object.connectionOf connectId, [(.packetDisconnect, connectId)],
    [.work (.deleteThreadSession connectId)]⟩

variable [DecidableEq Peer]

variable (host : ParserHost Peer)

def stepUdp (index : Nat) (server : UdpServer Peer) (action : UdpAction Peer) :
    Option (ParserHost Peer) :=
  let counted := { server with countIndex := host.connectCounter }
  (counted.step action).map fun next =>
    { host.revisit index (counted.visit next action) with connectCounter := next.countIndex }

def stepKcp (index : Nat) (server : KcpListener Peer) (action : KcpListenerAction Peer) :
    Option (ParserHost Peer) :=
  let counted := { server with countIndex := host.connectCounter }
  (counted.step action).map fun next =>
    { host.revisit index (counted.visit next action) with connectCounter := next.countIndex }

def closeObject (index : Nat) (connectId : UInt32) : Option (ParserHost Peer) :=
  match host.objects[index]? with
  | some (.socket reader) =>
      if reader.kind.checksOpen ∧ reader.isOpen = false then some host
      else
        let closedId := if reader.kind.closesOwnId then reader.session.connectId else connectId
        some { host with dispatched := host.dispatched ++ [(index, closedId)] }
  | some (.tty port) =>
      some { host with dispatched := host.dispatched ++ [(index, port.session.connectId)] }
  | some (.udp server) => host.stepUdp index server (.closeLook connectId)
  | some (.kcp server) => host.stepKcp index server (.close connectId)
  | none => none

def step (fresh : Nat → UInt8) (host : ParserHost Peer) :
    ParserAction Peer → Option (ParserHost Peer)
  | .openSocket kind recvSize sendSize =>
      if kind = .ttyServer then none
      else
        let connectId := host.connectCounter + 1
        some ({ host with connectCounter := connectId }.enroll (openVisit
          (.socket (SocketReader.started kind connectId recvSize sendSize fresh)) connectId))
  | .openTty recvSize sendSize =>
      let connectId := host.connectCounter + 1
      some ({ host with connectCounter := connectId }.enroll (openVisit
        (.tty (TtyReads.started connectId recvSize sendSize fresh)) connectId))
  | .listenUdp recvSize =>
      some (host.enroll ⟨.udp (UdpServer.started recvSize fresh host.connectCounter), 0, [], []⟩)
  | .listenKcp recvSize =>
      some (host.enroll ⟨.kcp (KcpListener.started recvSize fresh host.connectCounter), 0, [], []⟩)
  | .createCounter => some { host with connectCounter := host.connectCounter + 1 }
  | .doRead index => host.onSocket index fun reader => reader.doRead.map (reader.visit [])
  | .readSome index data verdict =>
      host.onSocket index fun reader =>
        (reader.doReadSome data verdict).map (reader.visit reader.passes)
  | .readError index => host.onSocket index fun reader => reader.readError.map (reader.visit [])
  | .setIoBridgeConnectId index toIoConnectId =>
      host.onSocket index fun reader => some (reader.visit [] ({ reader with
        session := reader.kind.setIoBridgeConnectId reader.session toIoConnectId }, []))
  | .tty index action =>
      match host.objects[index]? with
      | some (.tty port) => (port.visit action).map (host.revisit index)
      | _ => none
  | .udp index action =>
      match host.objects[index]? with
      | some (.udp server) => host.stepUdp index server action
      | _ => none
  | .kcp index action =>
      match host.objects[index]? with
      | some (.kcp server) => host.stepKcp index server action
      | _ => none
  | .closeIoSession connectId =>
      (host.sessions connectId).map fun index =>
        { host with closing := host.closing ++ [(index, connectId)] }
  | .formatSendPacket connectId =>
      (host.sessions connectId).bind fun index =>
        (host.objects[index]?).map fun object =>
          { host with calls := host.calls ++
            [⟨index, object.connectionOf connectId, .parseFormatSendBuffer, connectId⟩] }
  | .runClose position =>
      (host.closing[position]?).bind fun (index, connectId) =>
        { host with closing := host.closing.eraseIdx position }.closeObject index connectId
  | .runDispatched position =>
      (host.dispatched[position]?).bind fun (index, connectId) =>
        let ran := { host with dispatched := host.dispatched.eraseIdx position }
        match host.objects[index]? with
        | some (.socket reader) =>
            some (ran.revisit index (closeVisit (.socket { reader with isOpen := false })
              connectId))
        | some (.tty port) => some (ran.revisit index (closeVisit (.tty port) connectId))
        | _ => none

def OneId : Prop :=
  ∀ first ∈ host.calls, ∀ second ∈ host.calls, first.object = second.object →
    first.connection = second.connection → first.connectId = second.connectId
  deriving Decidable

def Unmixed : ParserAction Peer → Prop
  | .udp index (.dispose _) =>
      ∀ object ∈ host.objects[index]?, ∀ connectId ∈ object.parsedId,
        connectId = UdpServer.connectClientId
  | _ => True

end ParserHost

end PssAsio
