import PssAsio.KcpListenerCore
import PssAsio.TransitionRuns

/-!
A KCP session whose control block cannot be created.
-/

namespace PssAsio

open TransitionRuns Function

namespace KcpListener

variable {Peer : Type}

variable (server : KcpListener Peer)

def AllCreated : Prop :=
  ∀ connectId channel, server.udpId2EndpointList connectId = some channel →
    channel.kcpcb.isSome = true

def Receives (data : List UInt8) : Prop :=
  0 < server.receives ∧ (server.sessionRecvBuffer.store data).isSome = true
  deriving Decidable

def Initialised : KcpListenerAction Peer → Prop
  | .receive recvEndpoint data initKcp _ =>
      server.Receives data → server.udpEndpoint2IdList recvEndpoint = none → initKcp = true
  | _ => True

variable {next server : KcpListener Peer} {recvEndpoint : Peer}

theorem AllCreated.of_same (created : server.AllCreated)
    (channels : next.udpId2EndpointList = server.udpId2EndpointList) : next.AllCreated := by
  intro connectId channel found
  exact created connectId channel (channels ▸ found)

theorem AllCreated.update (created : server.AllCreated) {connectId : UInt32}
    {entry : Option (KcpChannel Peer)}
    (channels : next.udpId2EndpointList = update server.udpId2EndpointList connectId entry)
    (block : ∀ channel, entry = some channel → channel.kcpcb.isSome = true) : next.AllCreated := by
  intro other channel found
  rw [channels] at found
  by_cases same : other = connectId
  · rw [same, update_self] at found
    exact block channel found
  · rw [update_of_ne same] at found
    exact created other channel found

theorem AllCreated.inputTaken (created : server.AllCreated) (connectId : UInt32)
    (channel : KcpChannel Peer) (buffer : SessionBuffer) (taken : KcpReceived) :
    (server.inputTaken connectId channel buffer taken).AllCreated := by
  refine created.update rfl ?_
  intro other same
  cases same
  rfl

theorem Received.allCreated {connectId : UInt32} {channel : KcpChannel Peer} {length : Nat}
    {completed : List (List UInt8)} (created : server.AllCreated)
    (found : server.udpId2EndpointList connectId = some channel)
    (received : Received server connectId channel length completed next) : next.AllCreated := by
  cases received with
  | full buffer => exact created.of_same rfl
  | created buffer =>
    refine created.update rfl ?_
    intro other same
    cases same
    exact created connectId channel found
  | unparsed queue taken buffer block ran =>
    exact (created.inputTaken connectId channel buffer taken).of_same rfl
  | parsed queue taken buffer next block ran bytes unbridged parses =>
    obtain ⟨_, _, -, rfl⟩ := parseData_eq_some parses
    exact (created.inputTaken connectId channel buffer taken).of_same rfl

variable [DecidableEq Peer]

def Traceless (server : KcpListener Peer) : KcpListenerAction Peer → Prop
  | .receive recvEndpoint data initKcp completed =>
      server.udpEndpoint2IdList recvEndpoint = none → initKcp = false →
      ∀ next, server.step (.receive recvEndpoint data initKcp completed) = some next →
        next.udpEndpoint2IdList = server.udpEndpoint2IdList ∧
          next.udpId2EndpointList = server.udpId2EndpointList
  | _ => True

theorem addUdpEndpoint_allCreated {initKcp : Bool} (created : server.AllCreated)
    (initialised : server.udpEndpoint2IdList recvEndpoint = none → initKcp = true) :
    (server.addUdpEndpoint recvEndpoint initKcp).1.AllCreated := by
  unfold addUdpEndpoint
  cases known : server.udpEndpoint2IdList recvEndpoint with
  | some connectId => exact created
  | none =>
    obtain rfl := initialised known
    refine created.update rfl ?_
    intro channel same
    cases same
    rfl

theorem doReceiveFrom_allCreated {length : Nat} {initKcp : Bool} {completed : List (List UInt8)}
    (created : server.AllCreated)
    (initialised : server.udpEndpoint2IdList recvEndpoint = none → initKcp = true)
    (handled : server.doReceiveFrom recvEndpoint length initKcp completed = some next) :
    next.AllCreated := by
  have added := addUdpEndpoint_allCreated created initialised
  obtain ⟨-, rfl⟩ | ⟨-, rfl | ⟨channel, found, received⟩⟩ := doReceiveFrom_cases handled
  · exact added
  · exact added.of_same rfl
  · exact received.allCreated added found

theorem step_allCreated {action : KcpListenerAction Peer} (created : server.AllCreated)
    (initialised : server.Initialised action) (stepped : server.step action = some next) :
    next.AllCreated := by
  cases action with
  | receive recvEndpoint data initKcp completed =>
    simp only [step, Option.ite_none_right_eq_some, Option.bind_eq_some_iff] at stepped
    obtain ⟨pending, filled, stored, handled⟩ := stepped
    have before : AllCreated { server with
        receives := server.receives - 1
        sessionRecvBuffer := filled } := created.of_same rfl
    exact doReceiveFrom_allCreated before (initialised ⟨pending, by rw [stored]; rfl⟩) handled
  | close connectId =>
    obtain ⟨channel, -, rfl⟩ := Option.map_eq_some_iff.mp stepped
    refine created.update rfl ?_
    intro _ absent
    cases absent
  | setIoBridgeConnectId toConnectId =>
    cases stepped
    unfold setIoBridgeConnectId
    split <;> exact created.of_same rfl
  | createCounter => exact Option.some.inj stepped ▸ created.of_same rfl

theorem step_failed {data : List UInt8} (receives : server.Receives data)
    (unknown : server.udpEndpoint2IdList recvEndpoint = none) (completed : List (List UInt8)) :
    ∃ next, server.step (.receive recvEndpoint data false completed) = some next ∧
      next.udpEndpoint2IdList recvEndpoint = some (server.countIndex + 1) := by
  obtain ⟨pending, fits⟩ := receives
  obtain ⟨filled, stored⟩ := Option.isSome_iff_exists.mp fits
  simp only [step, if_pos pending, stored, Option.bind_some, doReceiveFrom, addUdpEndpoint,
    unknown]
  exact ⟨_, rfl, update_self _ _ _⟩

theorem traceless_iff (server : KcpListener Peer) (action : KcpListenerAction Peer) :
    server.Traceless action ↔ server.Initialised action := by
  cases action with
  | receive recvEndpoint data initKcp completed =>
    constructor
    · intro traceless receives unknown
      by_contra failed
      obtain rfl : initKcp = false := by simpa using failed
      obtain ⟨next, stepped, known⟩ := step_failed receives unknown completed
      rw [(traceless unknown rfl next stepped).1, unknown] at known
      cases known
    · rintro initialised unknown rfl next stepped
      simp only [step, Option.ite_none_right_eq_some, Option.bind_eq_some_iff] at stepped
      obtain ⟨pending, filled, stored, -⟩ := stepped
      have succeeded := initialised ⟨pending, by rw [stored]; rfl⟩ unknown
      cases succeeded
  | close connectId | setIoBridgeConnectId toConnectId | createCounter => exact Iff.rfl

/-- Failures leave no trace exactly if `init_kcp` succeeds for the first datagram of every endpoint.
-/
theorem traceless_and_allCreated_iff (maxRecvSize : UInt32) (fresh : Nat → UInt8)
    (countIndex : UInt32) (actions : List (KcpListenerAction Peer)) :
    (∀ (server : KcpListener Peer) (action : KcpListenerAction Peer),
      server.Traceless action ↔ server.Initialised action) ∧
    (Always step AllCreated (started maxRecvSize fresh countIndex) actions ∧
        Throughout step Traceless (started maxRecvSize fresh countIndex) actions ↔
      Throughout step Initialised (started maxRecvSize fresh countIndex) actions) := by
  refine ⟨traceless_iff, ?_⟩
  have decisive : ∀ (server : KcpListener Peer) (action : KcpListenerAction Peer), True →
      server.AllCreated → (server.Initialised action ↔ server.Traceless action ∧
        ∀ next, server.step action = some next → next.AllCreated) := by
    intro server action _ created
    rw [traceless_iff]
    exact ⟨fun initialised => ⟨initialised, fun next => step_allCreated created initialised⟩,
      And.left⟩
  have initial : (started maxRecvSize fresh countIndex : KcpListener Peer).AllCreated := by
    intro connectId channel found
    cases found
  exact always_and_throughout_iff (fun _ _ _ _ _ _ _ => trivial) decisive trivial initial

/-- Endpoint 7 is known as session 1, which has no control block. -/
theorem failed_session_stays :
    let server : KcpListener Nat := started 64 (fun _ => 0) 0
    ((server.step (.receive 7 [1] false [])).map fun next =>
      (next.udpEndpoint2IdList 7, next.udpId2EndpointList 1, next.receives, next.calls)) =
      some (some 1, some ⟨7, .kcpValud, none⟩, 0, []) ∧
    ¬server.Traceless (.receive 7 [1] false []) := by
  refine ⟨by decide, fun traceless => ?_⟩
  have receives : (started 64 (fun _ => 0) 0 : KcpListener Nat).Receives [1] := by decide
  have unknown : (started 64 (fun _ => 0) 0 : KcpListener Nat).udpEndpoint2IdList 7 = none := rfl
  obtain ⟨next, stepped, known⟩ := step_failed receives unknown []
  rw [(traceless rfl rfl next stepped).1] at known
  cases known

end KcpListener

end PssAsio
