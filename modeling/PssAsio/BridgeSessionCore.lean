import PssAsio.WorkThreadLogicCore

/-!
The reading half that the session classes share: what is read goes to the bridge or to the parser.
-/

namespace PssAsio

/-- `dataError` is `LOGIC_IOTOIO_DATA_ERROR` without a bridge to try. -/
inductive BridgeRouting where
  | packetFromRecvBuffer (seen : List UInt8)
  | sendIoBridgeMessage (ioBridgeConnectId : UInt32) (bytes : List UInt8)
  | dataError (bytes : List UInt8)
  deriving DecidableEq, Repr

def BridgeRouting.IsParser : BridgeRouting → Prop
  | .packetFromRecvBuffer _ => True
  | _ => False

structure BridgeDelivery where
  connectId : UInt32
  held : List UInt8
  data : List UInt8
  routing : BridgeRouting
  kept : List UInt8
  refused : Bool
  deriving DecidableEq, Repr

def BridgeDelivery.calls (delivery : BridgeDelivery) (verdict : ReceiveVerdict) : List WorkAction :=
  match delivery.routing with
  | .packetFromRecvBuffer _ =>
      match verdict.parsed with
      | none => [.closeSessionEvent delivery.connectId]
      | some messageList => [.assignationThreadModuleLogic delivery.connectId messageList]
  | .sendIoBridgeMessage _ bytes =>
      if delivery.refused then
        [.assignationThreadModuleLogic delivery.connectId [⟨logicIotoioDataError, bytes⟩]]
      else []
  | .dataError bytes =>
      [.assignationThreadModuleLogic delivery.connectId [⟨logicIotoioDataError, bytes⟩]]

theorem BridgeDelivery.calls_cases (delivery : BridgeDelivery) (verdict : ReceiveVerdict) :
    delivery.calls verdict = [] ∨
      delivery.calls verdict = [.closeSessionEvent delivery.connectId] ∨
      ∃ messageList, delivery.calls verdict =
        [.assignationThreadModuleLogic delivery.connectId messageList] := by
  unfold calls
  split
  · split
    · exact .inr (.inl rfl)
    · exact .inr (.inr ⟨_, rfl⟩)
  · split
    · exact .inr (.inr ⟨_, rfl⟩)
    · exact .inl rfl
  · exact .inr (.inr ⟨_, rfl⟩)

def ioBridgeRouting (ioBridgeConnectId : UInt32) (bytes : List UInt8) : BridgeRouting :=
  if ioBridgeConnectId > 0 then .sendIoBridgeMessage ioBridgeConnectId bytes else .dataError bytes

structure BridgeSession where
  connectId : UInt32
  ioState : SessionState
  ioBridgeConnectId : UInt32
  sessionRecvBuffer : SessionBuffer
  sessionSendBuffer : SessionBuffer

namespace BridgeSession

def opened (connectId recvSize sendSize : UInt32) (fresh : Nat → UInt8) : BridgeSession where
  connectId := connectId
  ioState := .sessionIoLogic
  ioBridgeConnectId := 0
  sessionRecvBuffer := SessionBuffer.init recvSize.toUInt64 fresh
  sessionSendBuffer := SessionBuffer.init sendSize.toUInt64 fresh

variable (session : BridgeSession)

def setIoBridge (toConnectId ioBridgeConnectId : UInt32) : BridgeSession :=
  if toConnectId > 0 then
    { session with ioState := .sessionIoBridge, ioBridgeConnectId := ioBridgeConnectId }
  else { session with ioState := .sessionIoLogic, ioBridgeConnectId := 0 }

variable (written : SessionBuffer)

variable (data : List UInt8)

def bridgeData (verdict : ReceiveVerdict) : Option (BridgeSession × BridgeDelivery) :=
  (written.readBytes 0 data.length).bind fun bytes =>
    (doIoBridgeData session.connectId session.ioBridgeConnectId written data.length
      verdict.bridgeSent).map fun (ret, _, buffer) =>
        ({ session with
          sessionRecvBuffer := buffer
          ioBridgeConnectId := if ret = 1 then 0 else session.ioBridgeConnectId },
        ⟨session.connectId, session.sessionRecvBuffer.content, data,
          ioBridgeRouting session.ioBridgeConnectId bytes, buffer.content, ret = 1⟩)

/-- The branch of a session that is not bridged. -/
def parseData (verdict : ReceiveVerdict) (after : SessionBuffer → SessionBuffer) :
    BridgeSession × BridgeDelivery :=
  let buffer := after (written.move verdict.consumed)
  ({ session with sessionRecvBuffer := buffer },
    ⟨session.connectId, session.sessionRecvBuffer.content, data,
      .packetFromRecvBuffer written.content, buffer.content, false⟩)

def routeData (verdict : ReceiveVerdict) (after : SessionBuffer → SessionBuffer) :
    Option (BridgeSession × BridgeDelivery) :=
  if session.ioState = .sessionIoBridge then session.bridgeData written data verdict
  else some (session.parseData written data verdict after)

theorem routeData_connectId {session next : BridgeSession} {written : SessionBuffer}
    {data : List UInt8} {verdict : ReceiveVerdict} {after : SessionBuffer → SessionBuffer}
    {delivery : BridgeDelivery}
    (routed : session.routeData written data verdict after = some (next, delivery)) :
    next.connectId = session.connectId ∧ delivery.connectId = session.connectId := by
  unfold routeData at routed
  split at routed
  · simp only [bridgeData, Option.bind_eq_some_iff, Option.map_eq_some_iff] at routed
    obtain ⟨bytes, -, answer, -, same⟩ := routed
    cases same
    exact ⟨rfl, rfl⟩
  · cases routed
    exact ⟨rfl, rfl⟩

end BridgeSession

end PssAsio
