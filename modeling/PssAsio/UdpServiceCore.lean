import Mathlib.Data.List.Dedup
import Mathlib.Data.List.Sort
import PssAsio.UdpServerCore

/-!
`CUdpServer` with its socket and the two ways to close it.
-/

namespace PssAsio

structure UdpService (Peer : Type) where
  server : UdpServer Peer
  socketOpen : Bool
  entered : List UInt32
  sessionIpInfoList : List UInt32

inductive UdpServiceAction (Peer : Type) where
  | drive (action : UdpAction Peer)
  | receiveClosed (recvEndpoint : Peer) (data : List UInt8)
  | closeUdpEndpointById (connectId : UInt32)
  | closeLook (index : Nat)
  | closeServer
  | closeServerWithdraw
  deriving DecidableEq

def WorkAction.addedSession : WorkAction → Option UInt32
  | .addThreadSession connectId => some connectId
  | _ => none

namespace UdpServer

variable {Peer : Type}

variable (server : UdpServer Peer)

/-- Every key was announced with `add_thread_session` as long as the socket is open. -/
def sessionIds : List UInt32 :=
  ((server.calls.filterMap WorkAction.addedSession).dedup.filter fun connectId =>
    (server.udpId2EndpointList connectId).isSome).insertionSort (· ≤ ·)

def clearEndpoints : UdpServer Peer :=
  { server with
    udpId2EndpointList := fun _ => none
    udpEndpoint2IdList := fun _ => none }

variable [DecidableEq Peer]

/-- For a new endpoint `local_endpoint` throws, and the handler ends in its `catch`. -/
def receiveFromClosed (server : UdpServer Peer) (recvEndpoint : Peer) (length : Nat) :
    UdpServer Peer :=
  match server.udpEndpoint2IdList recvEndpoint with
  | some _ => server.doReceiveFrom recvEndpoint length
  | none => (server.checkUdpEndpointList recvEndpoint).1

end UdpServer

namespace UdpService

variable {Peer : Type}

def started (maxRecvSize : UInt32) (fresh : Nat → UInt8) (countIndex : UInt32) : UdpService Peer :=
  ⟨UdpServer.started maxRecvSize fresh countIndex, true, [], []⟩

variable (service : UdpService Peer)

def closeUdpEndpointById (connectId : UInt32) : UdpService Peer :=
  if service.socketOpen then { service with entered := service.entered ++ [connectId] }
  else service

def closeServer : UdpService Peer :=
  if service.socketOpen then
    { service with
      server := service.server.clearEndpoints
      socketOpen := false
      sessionIpInfoList := service.server.sessionIds }
  else service

variable [DecidableEq Peer]

def drive (service : UdpService Peer) (action : UdpAction Peer) : Option (UdpService Peer) :=
  match action with
  | .closeLook _ => none
  | .receive recvEndpoint data =>
      if service.socketOpen then
        (service.server.step (.receive recvEndpoint data)).map fun server =>
          { service with server := server }
      else none
  | action => (service.server.step action).map fun server => { service with server := server }

def step (service : UdpService Peer) :
    UdpServiceAction Peer → Option (UdpService Peer)
  | .drive action => service.drive action
  | .receiveClosed recvEndpoint data =>
      if service.socketOpen = false ∧ service.server.handling.isNone ∧
          0 < service.server.receives then
        (service.server.sessionRecvBuffer.store data).map fun filled =>
          { service with
            server := { service.server with
              receives := service.server.receives - 1
              sessionRecvBuffer := filled }.receiveFromClosed recvEndpoint data.length }
      else none
  | .closeUdpEndpointById connectId => some (service.closeUdpEndpointById connectId)
  | .closeLook index =>
      match service.entered[index]? with
      | some connectId =>
          (service.server.step (.closeLook connectId)).map fun server =>
            { service with server := server, entered := service.entered.eraseIdx index }
      | none => none
  | .closeServer => some service.closeServer
  | .closeServerWithdraw =>
      match service.sessionIpInfoList with
      | connectId :: rest =>
          some { service with
            server := service.server.call (.deleteThreadSession connectId)
            sessionIpInfoList := rest }
      | [] => none

inductive Stepped (service : UdpService Peer) : UdpServiceAction Peer → UdpService Peer → Prop where
  | drive (action : UdpAction Peer) (server : UdpServer Peer)
      (moved : service.server.step action = some server) :
      Stepped service (.drive action) { service with server := server }
  | receiveClosed (recvEndpoint : Peer) (data : List UInt8) (filled : SessionBuffer)
      (idle : service.server.handling = none) :
      Stepped service (.receiveClosed recvEndpoint data)
        { service with
          server := { service.server with
            receives := service.server.receives - 1
            sessionRecvBuffer := filled }.receiveFromClosed recvEndpoint data.length }
  | entered (connectId : UInt32) :
      Stepped service (.closeUdpEndpointById connectId) (service.closeUdpEndpointById connectId)
  | closeLook (index : Nat) (connectId : UInt32) (server : UdpServer Peer)
      (moved : service.server.step (.closeLook connectId) = some server) :
      Stepped service (.closeLook index)
        { service with server := server, entered := service.entered.eraseIdx index }
  | closeServer : Stepped service .closeServer service.closeServer
  | closeServerWithdraw (connectId : UInt32) (rest : List UInt32) :
      Stepped service .closeServerWithdraw
        { service with
          server := service.server.call (.deleteThreadSession connectId)
          sessionIpInfoList := rest }

theorem stepped_of_drive {service next : UdpService Peer} {action : UdpAction Peer}
    (driven : service.drive action = some next) : Stepped service (.drive action) next := by
  have moves : (∃ server, service.server.step action = some server ∧
      { service with server := server } = next) := by
    cases action with
    | closeLook connectId => cases driven
    | receive recvEndpoint data =>
      simp only [drive, Option.ite_none_right_eq_some] at driven
      exact Option.map_eq_some_iff.mp driven.2
    | _ => exact Option.map_eq_some_iff.mp driven
  obtain ⟨server, moved, rfl⟩ := moves
  exact .drive action server moved

theorem stepped_of_step {service next : UdpService Peer} {action : UdpServiceAction Peer}
    (stepped : service.step action = some next) : Stepped service action next := by
  cases action with
  | drive action => exact stepped_of_drive stepped
  | receiveClosed recvEndpoint data =>
    simp only [step, Option.ite_none_right_eq_some, Option.map_eq_some_iff,
      Option.isNone_iff_eq_none] at stepped
    obtain ⟨⟨-, idle, -⟩, filled, -, rfl⟩ := stepped
    exact .receiveClosed recvEndpoint data filled idle
  | closeUdpEndpointById connectId => exact Option.some.inj stepped ▸ .entered connectId
  | closeLook index =>
    simp only [step] at stepped
    split at stepped
    · rename_i connectId listed
      obtain ⟨server, moved, rfl⟩ := Option.map_eq_some_iff.mp stepped
      exact .closeLook index connectId server moved
    · cases stepped
  | closeServer => exact Option.some.inj stepped ▸ .closeServer
  | closeServerWithdraw =>
    simp only [step] at stepped
    split at stepped
    · rename_i connectId rest listed
      exact Option.some.inj stepped ▸ .closeServerWithdraw connectId rest
    · cases stepped

end UdpService

end PssAsio
