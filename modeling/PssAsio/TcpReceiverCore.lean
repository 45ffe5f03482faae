import PssAsio.BridgeSessionCore
import PssAsio.TcpSessionCore

/-!
The reading side of `CTcpSession`. A completed read still runs its handler after the close, and
`do_read_some` is cut where it hands over what it has parsed: the closure runs on another thread.
-/

namespace PssAsio

inductive TcpRead where
  | pending
  | completed (data : List UInt8)
  | handling (delivery : BridgeDelivery) (verdict : ReceiveVerdict)
  | failed
  | stopped
  deriving DecidableEq

def TcpRead.hasData : TcpRead → Bool
  | .completed _ | .handling _ _ => true
  | .pending | .failed | .stopped => false

def TcpRead.isHandling : TcpRead → Bool
  | .handling _ _ => true
  | _ => false

structure TcpReceiver where
  session : TcpSession
  reader : BridgeSession
  read : TcpRead
  calls : List WorkAction

inductive TcpReceiverAction where
  | drive (action : TcpAction)
  | readCompleted (data : List UInt8)
  | readFailed
  | doReadSome (verdict : ReceiveVerdict)
  | handOver
  | setIoBridgeConnectId (toConnectId : UInt32)
  deriving DecidableEq

def SessionEvent.calls (connectId : UInt32) : SessionEvent → List WorkAction
  | .addThreadSession => [.addThreadSession connectId]
  | .deleteThreadSession => [.deleteThreadSession connectId]
  | .logicThreadWriteIoError buffer =>
      [.assignationWithEvents connectId [⟨PssAsio.logicThreadWriteIoError, buffer⟩]]
  | _ => []

def CloseCause.fromRead : CloseCause → Bool
  | .readError | .parseFailure | .recvBufferFull => true
  | .idleTimeout | .closeIoSession => false

def TcpAction.onSocketThread (sharesContext : Bool) : TcpAction → Bool
  | .addSendFinishSize _ | .testSendFinish | .writeFailed _ _ => true
  | .doWrite true | .runHandler _ => sharesContext
  | _ => false

namespace TcpReceiver

def opened (sharesContext : Bool) (connectId recvSize : UInt32) (fresh : Nat → UInt8) :
    TcpReceiver where
  session := TcpSession.opened sharesContext
  reader := BridgeSession.opened connectId recvSize 0 fresh
  read := .pending
  calls := [.addThreadSession connectId]

variable (receiver : TcpReceiver)

def perform (made : List WorkAction) : TcpReceiver :=
  { receiver with
    session := { receiver.session with
      closeTasks := receiver.session.closeTasks +
        made.count (.closeSessionEvent receiver.reader.connectId) }
    calls := receiver.calls ++ made }

def closeSessionEvent : TcpReceiver :=
  receiver.perform [.closeSessionEvent receiver.reader.connectId]

def drive (action : TcpAction) : Option TcpReceiver :=
  match action with
  | .closeSessionEvent cause =>
      if cause.fromRead then none
      else (receiver.session.raise cause).map fun session =>
        { receiver with
          session := session
          calls := receiver.calls ++ [.closeSessionEvent receiver.reader.connectId] }
  | action =>
      (receiver.session.step action).map fun session =>
        let raised := session.events.drop receiver.session.events.length
        { receiver with
          session := session
          calls := receiver.calls ++ raised.flatMap (SessionEvent.calls receiver.reader.connectId) }

def doRead : TcpReceiver :=
  let checked :=
    if receiver.reader.sessionRecvBuffer.getBufferSize = 0 then receiver.closeSessionEvent
    else receiver
  { checked with read := .pending }

def doReadSome (verdict : ReceiveVerdict) : Option TcpReceiver :=
  match receiver.read with
  | .completed data =>
      let written := (receiver.reader.sessionRecvBuffer.setWriteData data.length).1
      (receiver.reader.routeData written data verdict id).map fun (reader, delivery) =>
        { receiver with
          reader := { reader with ioBridgeConnectId := receiver.reader.ioBridgeConnectId }
          read := .handling delivery verdict }
  | .failed =>
      let closing := receiver.closeSessionEvent
      some { closing with
        session := { closing.session with reading := false }
        read := .stopped }
  | _ => none

/-- A target that is not found is given up behind the hand-over. -/
def handOver : Option TcpReceiver :=
  match receiver.read with
  | .handling delivery verdict =>
      let reader := receiver.reader
      let ioBridgeConnectId := if delivery.refused then 0 else reader.ioBridgeConnectId
      some { receiver.perform (delivery.calls verdict) with
        reader := { reader with ioBridgeConnectId } }.doRead
  | _ => none

def step : TcpReceiverAction → Option TcpReceiver
  | .drive action =>
      if receiver.read.isHandling ∧ action.onSocketThread receiver.session.sharesContext then none
      else receiver.drive action
  | .readCompleted data =>
      if receiver.read = .pending ∧ receiver.session.socketOpen then
        (receiver.reader.sessionRecvBuffer.store data).map fun filled =>
          { receiver with
            reader := { receiver.reader with sessionRecvBuffer := filled }
            read := .completed data }
      else none
  | .readFailed =>
      if receiver.read = .pending then some { receiver with read := .failed } else none
  | .doReadSome verdict =>
      if receiver.session.finishing then none else receiver.doReadSome verdict
  | .handOver => receiver.handOver
  | .setIoBridgeConnectId toConnectId =>
      some { receiver with reader := receiver.reader.setIoBridge toConnectId toConnectId }

end TcpReceiver

end PssAsio
