import PssAsio.PartialInverse
import PssAsio.TransitionRuns
import PssAsio.UdpServiceCore

/-!
The two session tables of `CUdpServer` invert each other.
-/

namespace PssAsio

open TransitionRuns PartialInverse

namespace UdpServer

variable {Peer : Type}

variable (server : UdpServer Peer)

structure Mirrored : Prop where
  inverse : ∀ endpoint connectId, server.udpEndpoint2IdList endpoint = some connectId ↔
    ∃ info, server.udpId2EndpointList connectId = some info ∧ info.sendEndpoint = endpoint
  apart : ∀ connectId other info otherInfo,
    server.udpId2EndpointList connectId = some info →
    server.udpId2EndpointList other = some otherInfo →
    info.sendEndpoint = otherInfo.sendEndpoint → connectId = other
  attended : ∀ endpoint connectId, server.udpEndpoint2IdList endpoint = some connectId →
    (server.udpId2EndpointList connectId).isSome

def sendEndpoints : UInt32 → Option Peer :=
  Option.map UdpSessionInfo.sendEndpoint ∘ server.udpId2EndpointList

def Paired : Prop :=
  Inverse server.sendEndpoints server.udpEndpoint2IdList

variable {server} {recvEndpoint : Peer}

theorem mirrored_of_paired (paired : server.Paired) : server.Mirrored := by
  have inverse : ∀ endpoint connectId, server.udpEndpoint2IdList endpoint = some connectId ↔
      ∃ info, server.udpId2EndpointList connectId = some info ∧ info.sendEndpoint = endpoint := by
    intro endpoint connectId
    rw [paired connectId endpoint]
    exact Option.map_eq_some_iff
  refine ⟨inverse, ?_, ?_⟩
  · intro connectId other info otherInfo found otherFound same
    have first := (inverse info.sendEndpoint connectId).mpr ⟨info, found, rfl⟩
    have second := (inverse info.sendEndpoint other).mpr ⟨otherInfo, otherFound, same.symm⟩
    rw [first] at second
    exact Option.some.inj second
  · intro endpoint connectId known
    obtain ⟨info, found, -⟩ := (inverse endpoint connectId).mp known
    rw [found]
    rfl

theorem Paired.of_tables {next : UdpServer Peer} (paired : server.Paired)
    (endpoints : next.udpEndpoint2IdList = server.udpEndpoint2IdList)
    (sessions : ∀ connectId, (next.udpId2EndpointList connectId).map (·.sendEndpoint) =
      (server.udpId2EndpointList connectId).map (·.sendEndpoint)) : next.Paired := by
  have same : next.sendEndpoints = server.sendEndpoints := funext sessions
  rw [Paired, same, endpoints]
  exact paired

variable [DecidableEq Peer]

def FreshFor (server : UdpServer Peer) (recvEndpoint : Peer) : Prop :=
  server.udpEndpoint2IdList recvEndpoint = none →
    server.udpId2EndpointList (server.countIndex + 1) = none
  deriving Decidable

section Tables

variable (paired : server.Paired)

include paired

theorem checkUdpEndpointList_paired (fresh : server.FreshFor recvEndpoint) :
    (server.checkUdpEndpointList recvEndpoint).1.Paired := by
  unfold checkUdpEndpointList
  cases found : server.udpEndpoint2IdList recvEndpoint with
  | some connectId => exact paired
  | none =>
    have unused : server.sendEndpoints (server.countIndex + 1) = none := by
      simp [sendEndpoints, fresh found]
    have assigned := (inverse_assign_iff paired (server.countIndex + 1) found).mpr unused
    simpa only [Paired, sendEndpoints, Function.comp_update, Option.map_some] using assigned

theorem addUdpEndpoint_paired (fresh : server.FreshFor recvEndpoint) :
    (server.addUdpEndpoint recvEndpoint).1.Paired := by
  have checked := checkUdpEndpointList_paired paired fresh
  unfold addUdpEndpoint
  split <;> rename_i found <;> rw [found] at checked <;> exact checked

theorem doReceiveFrom_paired (fresh : server.FreshFor recvEndpoint)
    (length : Nat) : (server.doReceiveFrom recvEndpoint length).Paired := by
  have added := addUdpEndpoint_paired paired fresh
  simp only [doReceiveFrom]
  split
  · exact added
  · split <;> exact added

theorem receiveFromClosed_paired (fresh : server.FreshFor recvEndpoint)
    (length : Nat) : (server.receiveFromClosed recvEndpoint length).Paired := by
  unfold receiveFromClosed
  split
  · exact doReceiveFrom_paired paired fresh length
  · exact checkUdpEndpointList_paired paired fresh

theorem eraseEndpoint_paired (connectId : UInt32) : (server.eraseEndpoint connectId).Paired := by
  unfold eraseEndpoint
  cases found : server.udpId2EndpointList connectId with
  | none => exact paired
  | some info =>
    have held : server.sendEndpoints connectId = some info.sendEndpoint := by
      simp [sendEndpoints, found]
    have back := (paired connectId info.sendEndpoint).mpr held
    have removed := (inverse_remove_iff paired connectId info.sendEndpoint).mpr
      ⟨.inr held, .inr back⟩
    simpa only [Paired, sendEndpoints, Function.comp_update, Option.map_none] using removed

end Tables

def FreshId (server : UdpServer Peer) : UdpAction Peer → Prop
  | .receive recvEndpoint _ => server.FreshFor recvEndpoint
  | _ => True

instance (server : UdpServer Peer) : ∀ action, Decidable (server.FreshId action)
  | .receive recvEndpoint _ => inferInstanceAs (Decidable (server.FreshFor recvEndpoint))
  | .findEndpoint | .dispose _ | .setIoBridgeConnectId _ _ | .createCounter | .closeLook _
  | .closeWithdraw _ | .closeErase _ => .isTrue trivial

theorem step_paired {next : UdpServer Peer} {action : UdpAction Peer} (paired : server.Paired)
    (fresh : server.FreshId action) (stepped : server.step action = some next) : next.Paired := by
  cases stepped_of_step stepped with
  | receive recvEndpoint data filled =>
    have before : Paired { server with
        receives := server.receives - 1
        sessionRecvBuffer := filled } := paired
    exact doReceiveFrom_paired before fresh data.length
  | dispose verdict connectId length sessionInfo disposed handled disposes =>
    have done := disposeData_disposed disposes
    exact paired.of_tables done.endpoints done.sessions
  | setIoBridgeConnectId fromConnectId toConnectId =>
    refine paired.of_tables rfl ?_
    intro other
    apply setSessionInfo_sendEndpoint
    intro info
    split <;> rfl
  | closeErase index connectId => exact eraseEndpoint_paired paired connectId
  | findEndpoint | createCounter | closeLook | closeSkip | closeWithdraw => exact paired

end UdpServer

namespace UdpService

variable {Peer : Type}

theorem closeServer_paired {service : UdpService Peer} (paired : service.server.Paired) :
    service.closeServer.server.Paired := by
  unfold closeServer
  split
  · intro connectId endpoint
    simp [UdpServer.clearEndpoints, UdpServer.sendEndpoints]
  · exact paired

variable [DecidableEq Peer]

/-- `App_ConnectCounter` does not return the id of a live session. -/
def FreshId (service : UdpService Peer) : UdpServiceAction Peer → Prop
  | .drive action => service.server.FreshId action
  | .receiveClosed recvEndpoint _ => service.server.FreshFor recvEndpoint
  | _ => True

variable (service : UdpService Peer)

instance (action : UdpServiceAction Peer) : Decidable (service.FreshId action) := by
  unfold FreshId
  split <;> infer_instance

theorem step_paired (action : UdpServiceAction Peer) (next : UdpService Peer)
    (paired : service.server.Paired) (fresh : service.FreshId action)
    (stepped : service.step action = some next) : next.server.Paired := by
  cases stepped_of_step stepped with
  | drive action server moved => exact UdpServer.step_paired paired fresh moved
  | receiveClosed recvEndpoint data filled =>
    have before : UdpServer.Paired { service.server with
        receives := service.server.receives - 1
        sessionRecvBuffer := filled } := paired
    exact UdpServer.receiveFromClosed_paired before fresh data.length
  | entered connectId =>
    unfold closeUdpEndpointById
    split <;> exact paired
  | closeLook index connectId server moved =>
    have unlimited : service.server.FreshId (.closeLook connectId) := trivial
    exact UdpServer.step_paired paired unlimited moved
  | closeServer => exact closeServer_paired paired
  | closeServerWithdraw => exact paired

/-- The two tables stay inverse to each other if no id is given out while it is in use. -/
theorem endpoints_mirrored (maxRecvSize : UInt32) (block : Nat → UInt8) (countIndex : UInt32)
    (actions : List (UdpServiceAction Peer))
    (fresh : Throughout step FreshId (started maxRecvSize block countIndex) actions) :
    Always step (fun service => service.server.Mirrored)
      (started maxRecvSize block countIndex) actions := by
  refine always_of_invariant step_paired
    (fun _ paired => UdpServer.mirrored_of_paired paired) ?_ fresh
  intro connectId endpoint
  simp [started, UdpServer.started, UdpServer.sendEndpoints]

def closesCrossing : List (UdpServiceAction Nat) :=
  [.drive (.receive 7 [1]), .drive .findEndpoint, .drive (.dispose ⟨some [], 1, true⟩),
    .closeUdpEndpointById 1, .closeUdpEndpointById 1, .closeLook 0, .closeLook 0,
    .drive (.closeWithdraw 0), .drive (.closeErase 0),
    .drive (.receive 7 [2]), .drive .findEndpoint, .drive (.closeWithdraw 0),
    .drive (.closeErase 0), .drive (.dispose ⟨some [], 1, true⟩),
    .closeServer, .closeServerWithdraw, .receiveClosed 9 [3]]

theorem endpoints_mirrored_closesCrossing :
    (run step (started 16 (fun _ => 0) 0) closesCrossing).isSome = true ∧
      Always step (fun service => service.server.Mirrored) (started 16 (fun _ => 0) 0)
        closesCrossing :=
  ⟨by decide, endpoints_mirrored 16 (fun _ => 0) 0 closesCrossing (by decide)⟩

end UdpService

end PssAsio
