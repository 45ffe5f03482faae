import PssAsio.KcpServerCore
import PssAsio.SharedReleases

/-!
`CKcpServer` with the calls that are under way on it, each step by step. Sessions and control blocks
are named by their connect id, which is not used again.
-/

namespace PssAsio

open Function

inductive KcpDatagram where
  | discarded
  | kcpIdCreate
  | data
  deriving DecidableEq, Repr

structure KcpSession (Peer : Type) where
  sendEndpoint : Peer
  udpState : KcpValid
  /-- `kcpcb_` is not null. -/
  kcpcb : Bool

inductive KcpCall where
  | idle
  | closingServer (kcpClientList : List Nat)
  | releasing (connectId : Nat) (outer : Option (List Nat))
  | erasing (connectId : Nat) (outer : Option (List Nat))
  | refreshing (connectId : Nat) (datagram : KcpDatagram)
  | found (connectId : Nat) (datagram : KcpDatagram)
  | updating (connectId : Nat)
  | handled (connectId : Nat)
  | confirming (connectId : Nat)
  | writing (connectId : Nat)
  | sending (connectId : Nat)
  deriving DecidableEq, Repr

namespace KcpCall

def holds : KcpCall → Option Nat
  | .releasing connectId _ | .refreshing connectId _ | .found connectId .data
  | .updating connectId | .handled connectId | .confirming connectId
  | .writing connectId | .sending connectId => some connectId
  | .idle | .closingServer _ | .erasing _ _ | .found _ .discarded | .found _ .kcpIdCreate => none

def erases : KcpCall → Option Nat
  | .erasing connectId _ => some connectId
  | _ => none

def returned : Option (List Nat) → KcpCall
  | none => .idle
  | some kcpClientList => .closingServer kcpClientList

end KcpCall

structure KcpReleaseServer (Caller Peer : Type) where
  countIndex : Nat
  udpId2EndpointList : List Nat
  udpEndpoint2IdList : Peer → Option Nat
  session : Nat → KcpSession Peer
  calls : Caller → KcpCall
  kcpMutex : Option Caller
  socketOpen : Bool
  receiving : Bool
  released : Nat → Nat
  lateUses : Nat
  nullDereferences : Nat

inductive KcpReleaseAction (Caller Peer : Type) where
  | close (caller : Caller) (connectId : Nat)
  | closeServer (caller : Caller)
  | closeNext (caller : Caller)
  | release (caller : Caller)
  | erase (caller : Caller)
  | receiveFrom (caller : Caller) (endpoint : Peer) (drawn : Nat) (created : Bool)
      (datagram : KcpDatagram)
  | refresh (caller : Caller)
  | answer (caller : Caller)
  | lockUpdate (caller : Caller)
  | unlockUpdate (caller : Caller) (hasData : Bool)
  | lockConfirm (caller : Caller)
  | unlockConfirm (caller : Caller)
  | doWrite (caller : Caller) (connectId : Nat)
  | lockWrite (caller : Caller)
  | unlockWrite (caller : Caller)
  deriving DecidableEq, Repr

namespace KcpReleaseServer

variable {Caller Peer : Type}

def init [Inhabited Peer] : KcpReleaseServer Caller Peer where
  countIndex := 0
  udpId2EndpointList := []
  udpEndpoint2IdList := fun _ => none
  session := fun _ => ⟨default, .kcpInvalud, false⟩
  calls := fun _ => .idle
  kcpMutex := none
  socketOpen := true
  receiving := true
  released := fun _ => 0
  lateUses := 0
  nullDereferences := 0

variable (server : KcpReleaseServer Caller Peer)

variable (connectId : Nat)

def findUdpEndpointById : Option (KcpSession Peer) :=
  if connectId ∈ server.udpId2EndpointList then some (server.session connectId) else none

def applyIkcp : KcpReleaseServer Caller Peer :=
  if server.released connectId = 0 then server
  else { server with lateUses := server.lateUses + 1 }

/-- `ikcp_release`, which does nothing for a null pointer. -/
def closeKcp : KcpReleaseServer Caller Peer :=
  if (server.session connectId).kcpcb then
    { server with
      released := update server.released connectId (server.released connectId + 1) }
  else server

variable [DecidableEq Caller] [DecidableEq Peer]

variable (server : KcpReleaseServer Caller Peer)

variable (caller : Caller)

def setCall (call : KcpCall) : KcpReleaseServer Caller Peer :=
  { server with calls := update server.calls caller call }

def doReceive : KcpReleaseServer Caller Peer :=
  { server.setCall caller .idle with receiving := true }

variable (connectId : Nat)

/-- `close` looks its session up and calls a member of it without a test. -/
def close (outer : Option (List Nat)) : KcpReleaseServer Caller Peer :=
  match server.findUdpEndpointById connectId with
  | some _ => server.setCall caller (.releasing connectId outer)
  | none =>
      { server.setCall caller .idle with nullDereferences := server.nullDereferences + 1 }

def closeUdpEndpointById : KcpReleaseServer Caller Peer :=
  match server.findUdpEndpointById connectId with
  | some sessionInfo => { server with
      udpId2EndpointList := server.udpId2EndpointList.filter fun other => other ≠ connectId
      udpEndpoint2IdList := update server.udpEndpoint2IdList sessionInfo.sendEndpoint none }
  | none => server

/-- `drawn` numbers of the counter went to others; `created` says whether `ikcp_create` succeeds. -/
def createSession (endpoint : Peer) (drawn : Nat) (created : Bool) (datagram : KcpDatagram) :
    KcpReleaseServer Caller Peer :=
  let connectId := server.countIndex + drawn + 1
  let inserted := { server with
    countIndex := connectId
    udpId2EndpointList := server.udpId2EndpointList ++ [connectId]
    udpEndpoint2IdList := update server.udpEndpoint2IdList endpoint (some connectId)
    session := update server.session connectId ⟨endpoint, .kcpValud, created⟩ }
  -- Without a control block the handler returns and does not receive again.
  inserted.setCall caller (if created then .refreshing connectId datagram else .idle)

def findReceived (datagram : KcpDatagram) : KcpReleaseServer Caller Peer :=
  match server.findUdpEndpointById connectId with
  | some _ => server.setCall caller (.found connectId datagram)
  | none => server.doReceive caller

def doReceiveFrom (endpoint : Peer) (drawn : Nat) (created : Bool) (datagram : KcpDatagram) :
    KcpReleaseServer Caller Peer :=
  match server.udpEndpoint2IdList endpoint with
  | some connectId => server.findReceived caller connectId datagram
  | none => server.createSession caller endpoint drawn created datagram

/-- `do_write` and `do_write_immediately` up to the test of the state. -/
def doWrite : KcpReleaseServer Caller Peer :=
  match server.findUdpEndpointById connectId with
  | some sessionInfo =>
      if sessionInfo.udpState = .kcpIdValid then server.setCall caller (.writing connectId)
      else server
  | none => server

def step :
    KcpReleaseAction Caller Peer → Option (KcpReleaseServer Caller Peer)
  | .close caller connectId =>
      match server.calls caller with
      | .idle => some (server.close caller connectId none)
      | _ => none
  | .closeServer caller =>
      match server.calls caller with
      | .idle => some (server.setCall caller (.closingServer server.udpId2EndpointList))
      | _ => none
  | .closeNext caller =>
      match server.calls caller with
      | .closingServer (connectId :: rest) => some (server.close caller connectId (some rest))
      | .closingServer [] => some { server.setCall caller .idle with socketOpen := false }
      | _ => none
  | .release caller =>
      match server.calls caller with
      | .releasing connectId outer =>
          some ((server.closeKcp connectId).setCall caller (.erasing connectId outer))
      | _ => none
  | .erase caller =>
      match server.calls caller with
      | .erasing connectId outer =>
          some ((server.closeUdpEndpointById connectId).setCall caller (KcpCall.returned outer))
      | _ => none
  | .receiveFrom caller endpoint drawn created datagram =>
      match server.calls caller with
      | .idle =>
          if server.receiving ∧ server.socketOpen then
            some ({ server with receiving := false }.doReceiveFrom caller endpoint drawn created
              datagram)
          else none
      | _ => none
  | .refresh caller =>
      match server.calls caller with
      | .refreshing connectId datagram =>
          some ((server.applyIkcp connectId).findReceived caller connectId datagram)
      | _ => none
  | .answer caller =>
      match server.calls caller with
      | .found _ .discarded => some (server.doReceive caller)
      | .found connectId .kcpIdCreate =>
          some ({ server with
            session := update server.session connectId
              { server.session connectId with udpState := .kcpIdValid } }.doReceive caller)
      | _ => none
  | .lockUpdate caller =>
      match server.calls caller, server.kcpMutex with
      | .found connectId .data, none =>
          some { (server.applyIkcp connectId).setCall caller (.updating connectId) with
            kcpMutex := some caller }
      | _, _ => none
  | .unlockUpdate caller hasData =>
      match server.calls caller with
      | .updating connectId =>
          let read := { server.applyIkcp connectId with kcpMutex := none }
          some (if hasData then read.setCall caller (.handled connectId) else read.doReceive caller)
      | _ => none
  | .lockConfirm caller =>
      match server.calls caller, server.kcpMutex with
      | .handled connectId, none =>
          some { server.setCall caller (.confirming connectId) with kcpMutex := some caller }
      | _, _ => none
  | .unlockConfirm caller =>
      match server.calls caller with
      | .confirming connectId =>
          some ({ server.applyIkcp connectId with kcpMutex := none }.doReceive caller)
      | _ => none
  | .doWrite caller connectId =>
      match server.calls caller with
      | .idle => some (server.doWrite caller connectId)
      | _ => none
  | .lockWrite caller =>
      match server.calls caller, server.kcpMutex with
      | .writing connectId, none =>
          some { (server.applyIkcp connectId).setCall caller (.sending connectId) with
            kcpMutex := some caller }
      | _, _ => none
  | .unlockWrite caller =>
      match server.calls caller with
      | .sending connectId =>
          some ({ server.applyIkcp connectId with kcpMutex := none }.setCall caller .idle)
      | _ => none

variable {Packet : Type}

/-- Both models of `CKcpServer` list the same sessions. -/
structure SameSessions (server : KcpReleaseServer Caller Peer) (sender : KcpServer Peer Packet) :
    Prop where
  ids : server.udpEndpoint2IdList = sender.udpEndpoint2IdList
  sessions : ∀ connectId, (server.findUdpEndpointById connectId).map (fun session =>
    ⟨session.sendEndpoint, session.udpState⟩) = sender.udpId2EndpointList connectId

theorem doReceiveFrom_sameSessions {server : KcpReleaseServer Caller Peer}
    {sender next : KcpServer Peer Packet} (same : server.SameSessions sender) (caller : Caller)
    {endpoint : Peer} {drawn : Nat} {created : Bool} (datagram : KcpDatagram)
    (received : sender.addUdpEndpoint endpoint (server.countIndex + drawn + 1) created =
      some next) :
    (server.doReceiveFrom caller endpoint drawn created datagram).SameSessions next := by
  have known := congrFun same.ids endpoint
  unfold KcpServer.addUdpEndpoint at received
  unfold doReceiveFrom
  cases found : server.udpEndpoint2IdList endpoint with
  | some connectId =>
    rw [← known, found] at received
    cases received
    simp only [findReceived]
    split <;> exact ⟨same.ids, same.sessions⟩
  | none =>
    rw [← known, found] at received
    simp only [Option.ite_none_left_eq_some] at received
    obtain ⟨-, ⟨⟩⟩ := received
    refine ⟨congrArg (update · endpoint _) same.ids, fun connectId => ?_⟩
    by_cases new : connectId = server.countIndex + drawn + 1
    · simp [createSession, setCall, findUdpEndpointById, KcpServer.createSession, new]
    · simp [createSession, setCall, findUdpEndpointById, KcpServer.createSession, new,
        ← same.sessions]

end KcpReleaseServer

end PssAsio
