import Mathlib.Logic.Function.Basic
import PssAsio.WorkThreadLogicCore

/-!
`CUdpServer` with its io thread and the workers that close its endpoints, cut where no lock is held.
-/

namespace PssAsio

open Function

structure UdpSessionInfo (Peer : Type) where
  ioBridgeConnectId : UInt32
  ioState : SessionState
  sendEndpoint : Peer
  deriving DecidableEq, Repr

inductive UdpHandling (Peer : Type) where
  | added (connectId : UInt32) (length : Nat)
  | found (connectId : UInt32) (length : Nat) (sessionInfo : Option (UdpSessionInfo Peer))
  deriving DecidableEq, Repr

inductive UdpClosing where
  | looked (isFind : Bool)
  | withdrawn
  deriving DecidableEq, Repr

structure UdpServer (Peer : Type) where
  udpEndpoint2IdList : Peer → Option UInt32
  udpId2EndpointList : UInt32 → Option (UdpSessionInfo Peer)
  countIndex : UInt32
  sessionRecvBuffer : SessionBuffer
  receives : Nat
  handling : Option (UdpHandling Peer)
  closing : List (UInt32 × UdpClosing)
  calls : List WorkAction

inductive UdpAction (Peer : Type) where
  | receive (recvEndpoint : Peer) (data : List UInt8)
  | findEndpoint
  | dispose (verdict : ReceiveVerdict)
  | setIoBridgeConnectId (fromConnectId toConnectId : UInt32)
  | createCounter
  | closeLook (connectId : UInt32)
  | closeWithdraw (index : Nat)
  | closeErase (index : Nat)
  deriving DecidableEq

def UdpHandling.connectId {Peer : Type} : UdpHandling Peer → UInt32
  | .added connectId _ => connectId
  | .found connectId _ _ => connectId

namespace UdpServer

variable {Peer : Type}

def started (maxRecvSize : UInt32) (fresh : Nat → UInt8) (countIndex : UInt32) :
    UdpServer Peer where
  udpEndpoint2IdList := fun _ => none
  udpId2EndpointList := fun _ => none
  countIndex := countIndex
  sessionRecvBuffer := SessionBuffer.init maxRecvSize.toUInt64 fresh
  receives := 1
  handling := none
  closing := []
  calls := []

variable (server : UdpServer Peer)

def doReceive : UdpServer Peer :=
  { server with receives := server.receives + 1 }

def call (action : WorkAction) : UdpServer Peer :=
  { server with calls := server.calls ++ [action] }

variable (connectId : UInt32)

def setSessionInfo (change : UdpSessionInfo Peer → UdpSessionInfo Peer) : UdpServer Peer :=
  { server with
    udpId2EndpointList := update server.udpId2EndpointList connectId
      ((server.udpId2EndpointList connectId).map change) }

def setIoBridgeConnectId (fromConnectId toConnectId : UInt32) : UdpServer Peer :=
  server.setSessionInfo fromConnectId fun info =>
    if toConnectId > 0 then
      { info with ioState := .sessionIoBridge, ioBridgeConnectId := toConnectId }
    else { info with ioState := .sessionIoLogic, ioBridgeConnectId := 0 }

def parseData (length : Nat) (verdict : ReceiveVerdict) : UdpServer Peer :=
  let consumed := server.sessionRecvBuffer.move verdict.consumed
  match verdict.parsed with
  | none =>
      { server with sessionRecvBuffer := (consumed.move length).move length }.call
        (.closeSessionEvent connectId)
  | some messageList =>
      { server with sessionRecvBuffer := consumed.move length }.call
        (.assignationThreadModuleLogic connectId messageList)

def disposeData (length : Nat) (sessionInfo : Option (UdpSessionInfo Peer))
    (verdict : ReceiveVerdict) : Option (UdpServer Peer) :=
  match sessionInfo with
  | some info =>
      if info.ioState = .sessionIoBridge then
        (doIoBridgeData connectId info.ioBridgeConnectId server.sessionRecvBuffer length
          verdict.bridgeSent).map fun (ret, made, buffer) =>
            let bridged := { server with
              calls := server.calls ++ made
              sessionRecvBuffer := buffer.move length }
            if ret = 1 then bridged.setSessionInfo connectId fun info =>
              { info with ioBridgeConnectId := 0, ioState := .sessionIoLogic }
            else bridged
      else some (server.parseData connectId length verdict)
  | none => some (server.parseData connectId length verdict)

variable (length : Nat)

theorem parseData_calls (verdict : ReceiveVerdict) :
    (server.parseData connectId length verdict).calls =
        server.calls ++ [.closeSessionEvent connectId] ∨
      ∃ messageList, (server.parseData connectId length verdict).calls =
        server.calls ++ [.assignationThreadModuleLogic connectId messageList] := by
  unfold parseData
  cases verdict.parsed with
  | none => exact .inl rfl
  | some messageList => exact .inr ⟨messageList, rfl⟩

theorem parseData_frame (verdict : ReceiveVerdict) :
    (server.parseData connectId length verdict).receives = server.receives ∧
    (server.parseData connectId length verdict).closing = server.closing ∧
    (server.parseData connectId length verdict).udpEndpoint2IdList =
      server.udpEndpoint2IdList ∧
    (server.parseData connectId length verdict).udpId2EndpointList =
      server.udpId2EndpointList := by
  unfold parseData
  cases verdict.parsed <;> exact ⟨rfl, rfl, rfl, rfl⟩

structure Disposed (disposed : UdpServer Peer) (connectId : UInt32) : Prop where
  receives : disposed.receives = server.receives
  closing : disposed.closing = server.closing
  endpoints : disposed.udpEndpoint2IdList = server.udpEndpoint2IdList
  sessions : ∀ other, (disposed.udpId2EndpointList other).map (·.sendEndpoint) =
    (server.udpId2EndpointList other).map (·.sendEndpoint)
  calls : disposed.calls = server.calls ∨
    disposed.calls = server.calls ++ [.closeSessionEvent connectId] ∨
    ∃ messageList,
      disposed.calls = server.calls ++ [.assignationThreadModuleLogic connectId messageList]

theorem setSessionInfo_sendEndpoint (change : UdpSessionInfo Peer → UdpSessionInfo Peer)
    (keeps : ∀ info, (change info).sendEndpoint = info.sendEndpoint) (other : UInt32) :
    ((server.setSessionInfo connectId change).udpId2EndpointList other).map (·.sendEndpoint) =
      (server.udpId2EndpointList other).map (·.sendEndpoint) := by
  by_cases same : other = connectId
  · simp [setSessionInfo, same, comp_def, keeps]
  · simp [setSessionInfo, update_of_ne same]

theorem parseData_disposed (verdict : ReceiveVerdict) :
    Disposed server (server.parseData connectId length verdict) connectId := by
  obtain ⟨receives, closing, endpoints, sessions⟩ :=
    parseData_frame server connectId length verdict
  exact ⟨receives, closing, endpoints, fun other => by rw [sessions],
    .inr (parseData_calls server connectId length verdict)⟩

theorem disposeData_disposed {server disposed : UdpServer Peer} {connectId : UInt32}
    {length : Nat} {sessionInfo : Option (UdpSessionInfo Peer)} {verdict : ReceiveVerdict}
    (disposes : server.disposeData connectId length sessionInfo verdict = some disposed) :
    Disposed server disposed connectId := by
  unfold disposeData at disposes
  cases sessionInfo with
  | none =>
    cases disposes
    exact parseData_disposed server connectId length verdict
  | some info =>
    simp only at disposes
    split at disposes
    · simp only [doIoBridgeData, Option.map_map, Option.map_eq_some_iff] at disposes
      obtain ⟨bytes, -, rfl⟩ := disposes
      simp only [comp_apply]
      by_cases bridged : info.ioBridgeConnectId > 0
      · cases verdict.bridgeSent with
        | true => exact ⟨by simp [bridged], by simp [bridged], by simp [bridged],
            by simp [bridged], .inl (by simp [bridged])⟩
        | false =>
          simp only [bridged, if_true, Bool.false_eq_true, if_false]
          refine ⟨rfl, rfl, rfl, ?_, .inr (.inr ⟨_, rfl⟩)⟩
          exact setSessionInfo_sendEndpoint _ connectId _ fun _ => rfl
      · simp only [bridged, if_false, show ¬(2 : Nat) = 1 by decide]
        exact ⟨rfl, rfl, rfl, fun _ => rfl, .inr (.inr ⟨_, rfl⟩)⟩
    · cases disposes
      exact parseData_disposed server connectId length verdict

variable [DecidableEq Peer]

variable (server : UdpServer Peer)

variable (recvEndpoint : Peer)

def checkUdpEndpointList : UdpServer Peer × UInt32 × Bool :=
  match server.udpEndpoint2IdList recvEndpoint with
  | some connectId => (server, connectId, false)
  | none =>
      let connectId := server.countIndex + 1
      ({ server with
        countIndex := connectId
        udpEndpoint2IdList :=
          update server.udpEndpoint2IdList recvEndpoint (some connectId)
        udpId2EndpointList := update server.udpId2EndpointList connectId
          (some ⟨0, .sessionIoLogic, recvEndpoint⟩) }, connectId, true)

def addUdpEndpoint : UdpServer Peer × UInt32 :=
  match server.checkUdpEndpointList recvEndpoint with
  | (checked, connectId, false) => (checked, connectId)
  | (checked, connectId, true) => (checked.call (.addThreadSession connectId), connectId)

def doReceiveFrom (length : Nat) : UdpServer Peer :=
  let added := (server.addUdpEndpoint recvEndpoint).1
  let connectId := (server.addUdpEndpoint recvEndpoint).2
  -- An empty datagram leaves the handler here, without another receive.
  if length = 0 then added
  else if added.sessionRecvBuffer.getBufferSize = 0 then
    ({ added with sessionRecvBuffer := added.sessionRecvBuffer.move length }.call
      (.closeSessionEvent connectId)).doReceive
  else
    { added with
      sessionRecvBuffer := (added.sessionRecvBuffer.setWriteData length).1
      handling := some (.added connectId length) }

variable (connectId : UInt32)

def eraseEndpoint : UdpServer Peer :=
  match server.udpId2EndpointList connectId with
  | some info =>
      { server with
        udpId2EndpointList := update server.udpId2EndpointList connectId none
        udpEndpoint2IdList := update server.udpEndpoint2IdList info.sendEndpoint none }
  | none => server

def step : UdpAction Peer → Option (UdpServer Peer)
  | .receive recvEndpoint data =>
      if server.handling.isNone ∧ 0 < server.receives then
        (server.sessionRecvBuffer.store data).map fun filled =>
          { server with
            receives := server.receives - 1
            sessionRecvBuffer := filled }.doReceiveFrom recvEndpoint data.length
      else none
  | .findEndpoint =>
      match server.handling with
      | some (.added connectId length) =>
          some { server with
            handling := some (.found connectId length (server.udpId2EndpointList connectId)) }
      | _ => none
  | .dispose verdict =>
      match server.handling with
      | some (.found connectId length sessionInfo) =>
          (server.disposeData connectId length sessionInfo verdict).map fun disposed =>
            { disposed.doReceive with handling := none }
      | _ => none
  | .setIoBridgeConnectId fromConnectId toConnectId =>
      some (server.setIoBridgeConnectId fromConnectId toConnectId)
  | .createCounter => some { server with countIndex := server.countIndex + 1 }
  | .closeLook connectId =>
      some { server with
        closing := server.closing ++
          [(connectId, .looked (server.udpId2EndpointList connectId).isSome)] }
  | .closeWithdraw index =>
      match server.closing[index]? with
      | some (connectId, .looked isFind) =>
          let withdrawn := { server with
            closing := server.closing.set index (connectId, .withdrawn) }
          some (if isFind then withdrawn.call (.deleteThreadSession connectId) else withdrawn)
      | _ => none
  | .closeErase index =>
      match server.closing[index]? with
      | some (connectId, .withdrawn) =>
          some { server.eraseEndpoint connectId with closing := server.closing.eraseIdx index }
      | _ => none

theorem addUdpEndpoint_known {server : UdpServer Peer} {recvEndpoint : Peer}
    {connectId : UInt32} (known : server.udpEndpoint2IdList recvEndpoint = some connectId) :
    server.addUdpEndpoint recvEndpoint = (server, connectId) := by
  simp [addUdpEndpoint, checkUdpEndpointList, known]

theorem addUdpEndpoint_unknown {server : UdpServer Peer} {recvEndpoint : Peer}
    (unknown : server.udpEndpoint2IdList recvEndpoint = none) :
    server.addUdpEndpoint recvEndpoint =
      ({ server with
        countIndex := server.countIndex + 1
        udpEndpoint2IdList := update server.udpEndpoint2IdList recvEndpoint
          (some (server.countIndex + 1))
        udpId2EndpointList := update server.udpId2EndpointList (server.countIndex + 1)
          (some ⟨0, .sessionIoLogic, recvEndpoint⟩) }.call
        (.addThreadSession (server.countIndex + 1)), server.countIndex + 1) := by
  simp [addUdpEndpoint, checkUdpEndpointList, unknown]

theorem addUdpEndpoint_frame :
    (server.addUdpEndpoint recvEndpoint).1.receives = server.receives ∧
    (server.addUdpEndpoint recvEndpoint).1.handling = server.handling ∧
    (server.addUdpEndpoint recvEndpoint).1.closing = server.closing := by
  cases found : server.udpEndpoint2IdList recvEndpoint with
  | some connectId => simp [addUdpEndpoint_known found]
  | none => simp [addUdpEndpoint_unknown found, call]

theorem eraseEndpoint_frame :
    (server.eraseEndpoint connectId).receives = server.receives ∧
    (server.eraseEndpoint connectId).sessionRecvBuffer = server.sessionRecvBuffer ∧
    (server.eraseEndpoint connectId).handling = server.handling := by
  unfold eraseEndpoint
  split <;> exact ⟨rfl, rfl, rfl⟩

inductive Stepped (server : UdpServer Peer) : UdpAction Peer → UdpServer Peer → Prop where
  | receive (recvEndpoint : Peer) (data : List UInt8) (filled : SessionBuffer)
      (idle : server.handling = none) (pending : 0 < server.receives)
      (stored : server.sessionRecvBuffer.store data = some filled) :
      Stepped server (.receive recvEndpoint data)
        ({ server with
          receives := server.receives - 1
          sessionRecvBuffer := filled }.doReceiveFrom recvEndpoint data.length)
  | findEndpoint (connectId : UInt32) (length : Nat)
      (handled : server.handling = some (.added connectId length)) :
      Stepped server .findEndpoint
        { server with
          handling := some (.found connectId length (server.udpId2EndpointList connectId)) }
  | dispose (verdict : ReceiveVerdict) (connectId : UInt32) (length : Nat)
      (sessionInfo : Option (UdpSessionInfo Peer)) (disposed : UdpServer Peer)
      (handled : server.handling = some (.found connectId length sessionInfo))
      (disposes : server.disposeData connectId length sessionInfo verdict = some disposed) :
      Stepped server (.dispose verdict) { disposed.doReceive with handling := none }
  | setIoBridgeConnectId (fromConnectId toConnectId : UInt32) :
      Stepped server (.setIoBridgeConnectId fromConnectId toConnectId)
        (server.setIoBridgeConnectId fromConnectId toConnectId)
  | createCounter :
      Stepped server .createCounter { server with countIndex := server.countIndex + 1 }
  | closeLook (connectId : UInt32) :
      Stepped server (.closeLook connectId)
        { server with
          closing := server.closing ++
            [(connectId, .looked (server.udpId2EndpointList connectId).isSome)] }
  | closeSkip (index : Nat) (connectId : UInt32)
      (looked : server.closing[index]? = some (connectId, .looked false)) :
      Stepped server (.closeWithdraw index)
        { server with closing := server.closing.set index (connectId, .withdrawn) }
  | closeWithdraw (index : Nat) (connectId : UInt32)
      (looked : server.closing[index]? = some (connectId, .looked true)) :
      Stepped server (.closeWithdraw index)
        ({ server with closing := server.closing.set index (connectId, .withdrawn) }.call
          (.deleteThreadSession connectId))
  | closeErase (index : Nat) (connectId : UInt32)
      (withdrawn : server.closing[index]? = some (connectId, .withdrawn)) :
      Stepped server (.closeErase index)
        { server.eraseEndpoint connectId with closing := server.closing.eraseIdx index }

theorem stepped_of_step {server next : UdpServer Peer} {action : UdpAction Peer}
    (stepped : server.step action = some next) : Stepped server action next := by
  cases action with
  | receive recvEndpoint data =>
    simp only [step, Option.ite_none_right_eq_some, Option.map_eq_some_iff,
      Option.isNone_iff_eq_none] at stepped
    obtain ⟨⟨idle, pending⟩, filled, stored, rfl⟩ := stepped
    exact .receive recvEndpoint data filled idle pending stored
  | findEndpoint =>
    simp only [step] at stepped
    split at stepped
    · rename_i connectId length handled
      exact Option.some.inj stepped ▸ .findEndpoint connectId length handled
    · cases stepped
  | dispose verdict =>
    simp only [step] at stepped
    split at stepped
    · rename_i connectId length sessionInfo handled
      obtain ⟨disposed, disposes, rfl⟩ := Option.map_eq_some_iff.mp stepped
      exact .dispose verdict connectId length sessionInfo disposed handled disposes
    · cases stepped
  | setIoBridgeConnectId fromConnectId toConnectId =>
    exact Option.some.inj stepped ▸ .setIoBridgeConnectId fromConnectId toConnectId
  | createCounter => exact Option.some.inj stepped ▸ .createCounter
  | closeLook connectId => exact Option.some.inj stepped ▸ .closeLook connectId
  | closeWithdraw index =>
    simp only [step] at stepped
    split at stepped
    · rename_i connectId isFind looked
      cases stepped
      cases isFind with
      | false => exact .closeSkip index connectId looked
      | true => exact .closeWithdraw index connectId looked
    · cases stepped
  | closeErase index =>
    simp only [step] at stepped
    split at stepped
    · rename_i connectId withdrawn
      exact Option.some.inj stepped ▸ .closeErase index connectId withdrawn
    · cases stepped

end UdpServer

end PssAsio
