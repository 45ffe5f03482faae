import PssAsio.KcpServerCore
import PssAsio.TransitionRuns

/-!
Whether each packet of a KCP control block is sent once, to the endpoint of its own session.
-/

namespace PssAsio

open TransitionRuns Function

def KcpReceivePhase.session : KcpReceivePhase → Option Nat
  | .idle | .stopped => none
  | .creating connectId | .received connectId | .replying connectId | .updating connectId
  | .handled connectId | .confirming connectId => some connectId

namespace KcpServer

variable {Peer Packet : Type}

variable (server : KcpServer Peer Packet)

def endpointOf (connectId : Nat) : Option Peer :=
  (server.udpId2EndpointList connectId).map KcpSessionInfo.sendEndpoint

def sentPacket : Peer × Datagram Packet → Option (Option Peer × Packet)
  | (endpoint, .output packet) => some (some endpoint, packet)
  | (_, .kcpId _) => none

def Delivered : Prop :=
  server.sent.filterMap sentPacket =
    server.outputs.map fun output => (server.endpointOf output.1, output.2)

def ArmedFor (connectId : Nat) : Prop :=
  server.kcpSendInfo.connectId ≠ 0 ∧
    server.endpointOf connectId = some server.kcpSendInfo.sendEndpoint

def OutputFindsOwnEndpoint :
    KcpAction Peer Packet → Prop
  | .receiveOutput _ => ∀ connectId ∈ server.receivePhase.session, server.ArmedFor connectId
  | .writeOutput _ => ∀ connectId ∈ server.writer, server.ArmedFor connectId
  | _ => True

def Disciplined : KcpAction Peer Packet → Prop
  | .receiveOutput _ => server.spent = false ∧
      ∀ connectId ∈ server.receivePhase.session, server.receivePhase = .confirming connectId
  | .writeOutput _ => server.spent = false
  | .kcpIdCreate | .replyKcpId => server.writer = none
  | _ => True

section Decidability

variable [DecidableEq Peer] [DecidableEq Packet]

instance : DecidablePred (Delivered : KcpServer Peer Packet → Prop) := fun _ =>
  inferInstanceAs (Decidable (_ = _))

variable (server : KcpServer Peer Packet)

instance (connectId : Nat) : Decidable (server.ArmedFor connectId) :=
  inferInstanceAs (Decidable (_ ∧ _))

variable (action : KcpAction Peer Packet)

instance : Decidable (server.OutputFindsOwnEndpoint action) := by
  unfold OutputFindsOwnEndpoint
  split <;> infer_instance

instance : Decidable (server.Disciplined action) := by
  unfold Disciplined
  split <;> infer_instance

end Decidability

variable (server : KcpServer Peer Packet)

structure WellFormed : Prop where
  positive : server.endpointOf 0 = none
  outputsKnown : ∀ output ∈ server.outputs, ∃ endpoint, server.endpointOf output.1 = some endpoint
  registered : ∀ endpoint connectId, server.udpEndpoint2IdList endpoint = some connectId →
    server.endpointOf connectId = some endpoint
  receiving : ∀ connectId, server.receivePhase.session = some connectId →
    server.endpointOf connectId = some server.recvEndpoint
  writing : ∀ connectId, server.writer = some connectId →
    ∃ endpoint, server.endpointOf connectId = some endpoint

@[simp] theorem sendIoDataToPoint_frame (server : KcpServer Peer Packet)
    (data : Datagram Packet) (endpoint : Peer) :
    (server.sendIoDataToPoint data endpoint).udpId2EndpointList = server.udpId2EndpointList ∧
    (server.sendIoDataToPoint data endpoint).udpEndpoint2IdList = server.udpEndpoint2IdList ∧
    (server.sendIoDataToPoint data endpoint).kcpSendInfo.sendEndpoint =
      server.kcpSendInfo.sendEndpoint ∧
    (server.sendIoDataToPoint data endpoint).recvEndpoint = server.recvEndpoint ∧
    (server.sendIoDataToPoint data endpoint).receivePhase = server.receivePhase ∧
    (server.sendIoDataToPoint data endpoint).writer = server.writer ∧
    (server.sendIoDataToPoint data endpoint).outputs = server.outputs := by
  simp only [sendIoDataToPoint]
  split <;> simp

theorem sendIoDataToPoint_sent (data : Datagram Packet) (endpoint : Peer) :
    (server.sendIoDataToPoint data endpoint).sent =
      server.sent ++ if server.kcpSendInfo.connectId = 0 then [] else [(endpoint, data)] := by
  simp only [sendIoDataToPoint]
  split <;> simp

theorem replyKcpId_endpointOf (replied connectId : Nat) :
    (server.replyKcpId replied).endpointOf connectId = server.endpointOf connectId := by
  simp only [replyKcpId, endpointOf]
  by_cases same : connectId = replied
  · subst same
    rw [update_self]
    cases server.udpId2EndpointList connectId <;> rfl
  · rw [update_of_ne same]

theorem replyKcpId_delivered (connectId : Nat) :
    (server.replyKcpId connectId).sent.filterMap sentPacket =
      server.sent.filterMap sentPacket := by
  simp only [replyKcpId, sendIoDataToPoint_sent, List.filterMap_append]
  split <;> simp [sentPacket]

variable {endpoint : Peer} {server next : KcpServer Peer Packet}
  {action : KcpAction Peer Packet}

theorem kcpUdpOutPut_wellFormed (holds : server.WellFormed) {connectId : Nat}
    (known : server.endpointOf connectId = some endpoint) (packet : Packet) :
    (server.kcpUdpOutPut connectId packet).WellFormed := by
  have same : (server.kcpUdpOutPut connectId packet).endpointOf = server.endpointOf := by
    funext other
    simp [kcpUdpOutPut, endpointOf]
  constructor
  · rw [same]
    exact holds.positive
  · intro output member
    rw [same]
    simp only [kcpUdpOutPut, List.mem_append, List.mem_singleton] at member
    rcases member with old | rfl
    · exact holds.outputsKnown output old
    · exact ⟨endpoint, known⟩
  · intro other otherId found
    rw [same]
    exact holds.registered other otherId (by simpa [kcpUdpOutPut] using found)
  · intro otherId active
    rw [same]
    simpa [kcpUdpOutPut] using holds.receiving otherId (by simpa [kcpUdpOutPut] using active)
  · intro otherId writes
    rw [same]
    exact holds.writing otherId (by simpa [kcpUdpOutPut] using writes)

theorem replyKcpId_wellFormed (holds : server.WellFormed) (connectId : Nat) :
    (server.replyKcpId connectId).WellFormed := by
  have same := replyKcpId_endpointOf server connectId
  constructor
  · rw [same]
    exact holds.positive
  · intro output member
    rw [same]
    exact holds.outputsKnown output (by simpa [replyKcpId] using member)
  · intro other otherId found
    rw [same]
    exact holds.registered other otherId (by simpa [replyKcpId] using found)
  · intro otherId active
    cases active
  · intro otherId writes
    rw [same]
    exact holds.writing otherId (by simpa [replyKcpId] using writes)

theorem delivered_kcpUdpOutPut (holds : server.Delivered) (connectId : Nat) (packet : Packet)
    (known : server.endpointOf connectId = some endpoint) :
    (server.kcpUdpOutPut connectId packet).Delivered ↔ server.ArmedFor connectId := by
  have same : (server.kcpUdpOutPut connectId packet).endpointOf = server.endpointOf := by
    funext other
    simp [kcpUdpOutPut, endpointOf]
  unfold Delivered at holds ⊢
  rw [same]
  simp only [kcpUdpOutPut, sendIoDataToPoint_sent, List.filterMap_append, List.map_append, holds,
    List.append_cancel_left_eq, ArmedFor, known, List.map_cons, List.map_nil]
  split
  · rename_i disarmed
    simp [disarmed]
  · rename_i armed
    simp [armed, sentPacket, eq_comm]

theorem delivered_of_same
    (stable : ∀ connectId endpoint, server.endpointOf connectId = some endpoint → next.endpointOf
      connectId = some endpoint) (wellFormed : server.WellFormed) (holds : server.Delivered)
    (sent : next.sent.filterMap sentPacket = server.sent.filterMap sentPacket)
    (outputs : next.outputs = server.outputs) : next.Delivered := by
  unfold Delivered at holds ⊢
  rw [sent, outputs, holds]
  apply List.map_congr_left
  intro output member
  obtain ⟨endpoint, known⟩ := wellFormed.outputsKnown output member
  rw [known, stable _ _ known]

/-! The first output of a section finds `kcp_send_info_` armed, unless a reply came between. -/

structure SectionArmed (server : KcpServer Peer Packet) : Prop where
  wellFormed : server.WellFormed
  writing : server.spent = false → ∀ connectId, server.writer = some connectId →
    server.ArmedFor connectId
  confirming : server.spent = false → ∀ connectId,
    server.receivePhase = .confirming connectId → server.ArmedFor connectId

theorem outputFindsOwnEndpoint_of_disciplined (holds : server.SectionArmed)
    (disciplined : server.Disciplined action) : server.OutputFindsOwnEndpoint action := by
  cases action with
  | receiveOutput packet =>
    obtain ⟨unspent, confirms⟩ := disciplined
    intro connectId active
    exact holds.confirming unspent connectId (confirms connectId active)
  | writeOutput packet =>
    intro connectId writes
    exact holds.writing disciplined connectId writes
  | _ => trivial

variable [DecidableEq Peer]

theorem endpointOf_step (stepped : server.step action = some next) {connectId : Nat}
    (known : server.endpointOf connectId = some endpoint) :
    next.endpointOf connectId = some endpoint := by
  cases stepped_of_step stepped with
  | receiveNew arriving counter initKcp phase unknown positive fresh =>
    have other : connectId ≠ counter := by
      rintro rfl
      simp [endpointOf, fresh] at known
    simpa [createSession, endpointOf, update_of_ne other] using known
  | replyKcpId replied => rw [replyKcpId_endpointOf, known]
  | receiveOutput | writeOutput => simpa [kcpUdpOutPut, endpointOf] using known
  | _ => exact known

theorem createSession_wellFormed (holds : server.WellFormed) {counter : Nat} (initKcp : Bool)
    (positive : counter ≠ 0)
    (stable : ∀ connectId known, server.endpointOf connectId = some known → (server.createSession
      server.recvEndpoint counter initKcp).endpointOf connectId = some known) :
    (server.createSession server.recvEndpoint counter initKcp).WellFormed := by
  have created : (server.createSession server.recvEndpoint counter initKcp).endpointOf counter =
      some server.recvEndpoint := by
    simp [createSession, endpointOf]
  constructor
  · have origin := holds.positive
    simpa [createSession, endpointOf, update_of_ne positive.symm] using origin
  · intro output member
    obtain ⟨known, found⟩ := holds.outputsKnown output member
    exact ⟨known, stable _ _ found⟩
  · intro other otherId found
    simp only [createSession] at found
    by_cases same : other = server.recvEndpoint
    · subst same
      simp only [update_self, Option.some.injEq] at found
      exact found ▸ created
    · rw [update_of_ne same] at found
      exact stable _ _ (holds.registered other otherId found)
  · intro otherId active
    cases initKcp with
    | true => cases active; exact created
    | false => cases active
  · intro otherId writes
    obtain ⟨known, found⟩ := holds.writing otherId writes
    exact ⟨known, stable _ _ found⟩

theorem wellFormed_step (holds : server.WellFormed) (stepped : server.step action = some next) :
    next.WellFormed := by
  have stable : ∀ connectId endpoint, server.endpointOf connectId = some endpoint →
      next.endpointOf connectId = some endpoint := fun _ _ known => endpointOf_step stepped known
  have ⟨positive, outputsKnown, registered, receiving, writing⟩ := holds
  have current : ∀ phase, server.receivePhase = phase → ∀ connectId,
      phase.session = some connectId → server.endpointOf connectId = some server.recvEndpoint := by
    rintro phase rfl connectId active
    exact receiving connectId active
  cases stepped_of_step stepped with
  | receiveKnown endpoint counter initKcp connectId phase found =>
    refine ⟨positive, outputsKnown, registered, ?_, writing⟩
    rintro other ⟨⟩
    exact registered endpoint connectId found
  | receiveNew endpoint counter initKcp phase unknown nonzero fresh =>
    have arrived : { server with recvEndpoint := endpoint }.WellFormed := by
      refine ⟨positive, outputsKnown, registered, ?_, writing⟩
      intro other active
      simp [phase, KcpReceivePhase.session] at active
    exact createSession_wellFormed arrived initKcp nonzero stable
  | updated connectId phase | kcpIdCreate connectId phase | lockUpdate connectId phase
  | lockConfirm connectId phase =>
    refine ⟨positive, outputsKnown, registered, ?_, writing⟩
    rintro other ⟨⟩
    exact current _ phase connectId rfl
  | discarded | unlockConfirm =>
    refine ⟨positive, outputsKnown, registered, ?_, writing⟩
    rintro other ⟨⟩
  | replyKcpId connectId => exact replyKcpId_wellFormed holds connectId
  | unlockUpdate hasData connectId phase =>
    refine ⟨positive, outputsKnown, registered, ?_, writing⟩
    cases hasData with
    | true =>
      rintro other ⟨⟩
      exact current _ phase connectId rfl
    | false => rintro other ⟨⟩
  | refuseWrite => exact holds
  | doWrite connectId info found =>
    refine ⟨positive, outputsKnown, registered, receiving, ?_⟩
    rintro other ⟨⟩
    exact ⟨info.sendEndpoint, by simp [setKcpSendInfo, endpointOf, found]⟩
  | unlockWrite =>
    refine ⟨positive, outputsKnown, registered, receiving, ?_⟩
    rintro other ⟨⟩
  | receiveOutput packet connectId phase =>
    have known : server.endpointOf connectId = some server.recvEndpoint := by
      rcases phase with phase | phase | phase <;> exact current _ phase connectId rfl
    exact kcpUdpOutPut_wellFormed holds known packet
  | writeOutput packet connectId writes =>
    obtain ⟨endpoint, known⟩ := writing connectId writes
    exact kcpUdpOutPut_wellFormed holds known packet

theorem delivered_step (wellFormed : server.WellFormed) (holds : server.Delivered)
    (stepped : server.step action = some next) :
    next.Delivered ↔ server.OutputFindsOwnEndpoint action := by
  have stable : ∀ connectId endpoint, server.endpointOf connectId = some endpoint →
      next.endpointOf connectId = some endpoint := fun _ _ known => endpointOf_step stepped known
  cases stepped_of_step stepped with
  | receiveOutput packet connectId phase =>
    have active : server.receivePhase.session = some connectId := by
      rcases phase with phase | phase | phase <;> simp [phase, KcpReceivePhase.session]
    rw [delivered_kcpUdpOutPut holds connectId packet (wellFormed.receiving connectId active)]
    simp [OutputFindsOwnEndpoint, active]
  | writeOutput packet connectId writes =>
    obtain ⟨endpoint, known⟩ := wellFormed.writing connectId writes
    rw [delivered_kcpUdpOutPut holds connectId packet known]
    simp [OutputFindsOwnEndpoint, writes]
  | replyKcpId connectId =>
    refine iff_of_true ?_ trivial
    apply delivered_of_same stable wellFormed holds (replyKcpId_delivered server connectId)
    simp [replyKcpId]
  | _ => exact iff_of_true (delivered_of_same stable wellFormed holds rfl rfl) trivial

theorem sectionArmed_step (holds : server.SectionArmed) (disciplined : server.Disciplined action)
    (stepped : server.step action = some next) : next.SectionArmed := by
  have stable : ∀ connectId endpoint, server.endpointOf connectId = some endpoint →
      next.endpointOf connectId = some endpoint := fun _ _ known => endpointOf_step stepped known
  have formed := wellFormed_step holds.wellFormed stepped
  have ⟨wellFormed, writing, confirming⟩ := holds
  have positive : ∀ connectId endpoint, server.endpointOf connectId = some endpoint →
      connectId ≠ 0 := by
    rintro connectId endpoint known rfl
    rw [wellFormed.positive] at known
    cases known
  cases stepped_of_step stepped with
  | receiveKnown | updated | discarded | unlockConfirm | lockUpdate =>
    refine ⟨formed, writing, ?_⟩
    rintro unspent other ⟨⟩
  | receiveNew endpoint counter initKcp phase =>
    refine ⟨formed, ?_, ?_⟩
    · intro unspent other writes
      exact ⟨(writing unspent other writes).1, stable _ _ (writing unspent other writes).2⟩
    · intro unspent other confirms
      cases initKcp <;> cases confirms
  | kcpIdCreate =>
    refine ⟨formed, ?_, ?_⟩
    · intro unspent other writes
      simp only [Disciplined] at disciplined
      rw [disciplined] at writes
      cases writes
    · rintro unspent other ⟨⟩
  | replyKcpId connectId =>
    refine ⟨formed, ?_, ?_⟩
    · intro unspent other writes
      simp only [Disciplined] at disciplined
      simp [replyKcpId, disciplined] at writes
    · rintro unspent other ⟨⟩
  | unlockUpdate hasData =>
    refine ⟨formed, writing, ?_⟩
    intro unspent other confirms
    cases hasData <;> cases confirms
  | lockConfirm connectId phase free =>
    have known := wellFormed.receiving connectId (by simp [phase, KcpReceivePhase.session])
    refine ⟨formed, ?_, ?_⟩
    · intro unspent other writes
      simp only [mutexFree, Bool.and_eq_true, Option.isNone_iff_eq_none] at free
      simp [setKcpSendInfo, free.1] at writes
    · rintro unspent other ⟨⟩
      exact ⟨positive _ _ known, known⟩
  | refuseWrite => exact holds
  | doWrite connectId info found free =>
    have known : server.endpointOf connectId = some info.sendEndpoint := by
      simp [endpointOf, found]
    refine ⟨formed, ?_, ?_⟩
    · rintro unspent other ⟨⟩
      exact ⟨positive _ _ known, known⟩
    · intro unspent other confirms
      simp only [setKcpSendInfo] at confirms
      simp [mutexFree, confirms] at free
  | unlockWrite =>
    refine ⟨formed, ?_, confirming⟩
    rintro unspent other ⟨⟩
  | receiveOutput | writeOutput => exact ⟨formed, nofun, nofun⟩

/-- Every packet is passed on once and to its own session exactly when each output finds
`kcp_send_info_` armed with the endpoint of its session. -/
theorem delivered_iff_outputs_find_own_endpoint [Inhabited Peer]
    {finish : KcpServer Peer Packet} {actions : List (KcpAction Peer Packet)}
    (ran : run step init actions = some finish) :
    (Always step Delivered init actions ↔ Throughout step OutputFindsOwnEndpoint init actions) ∧
      (Throughout step Disciplined init actions → Always step Delivered init actions) := by
  have grounded : (init : KcpServer Peer Packet).WellFormed := by
    constructor <;> simp [init, endpointOf, KcpReceivePhase.session]
  have empty : (init : KcpServer Peer Packet).Delivered := rfl
  have decided : Always step Delivered init actions ↔
      Throughout step OutputFindsOwnEndpoint init actions := by
    apply always_iff_throughout (fun _ _ _ => wellFormed_step) _ grounded empty ran
    intro server action next wellFormed holds stepped
    exact delivered_step wellFormed holds stepped
  refine ⟨decided, ?_⟩
  intro disciplined
  have armed : (init : KcpServer Peer Packet).SectionArmed := ⟨grounded, nofun, nofun⟩
  apply decided.mpr
  exact throughout_of_invariant (fun _ _ _ => sectionArmed_step)
    (fun _ _ => outputFindsOwnEndpoint_of_disciplined) armed disciplined

def handshake (endpoint counter : Nat) : List (KcpAction Nat Nat) :=
  [.receiveFrom endpoint counter true, .updated, .kcpIdCreate, .replyKcpId]

theorem delivered_single_output :
    Always step Delivered (init : KcpServer Nat Nat)
      (handshake 10 1 ++ [.doWrite 1, .writeOutput 7, .unlockWrite]) :=
  (delivered_iff_outputs_find_own_endpoint (Option.some_get (by decide)).symm).2 (by decide)

theorem packet_dropped_and_packet_crossed :
    (run step (init : KcpServer Nat Nat) (handshake 10 1 ++
      [.doWrite 1, .writeOutput 7, .writeOutput 8, .unlockWrite])).map
        (fun server => (server.outputs, server.sent.filterMap sentPacket)) =
      some ([(1, 7), (1, 8)], [(some 10, 7)]) ∧
    (run step (init : KcpServer Nat Nat) (handshake 10 1 ++ handshake 20 2 ++
      [.doWrite 1, .unlockWrite, .receiveFrom 20 3 true, .lockUpdate, .receiveOutput 9])).map
        (fun server => (server.outputs, server.sent.filterMap sentPacket)) =
      some ([(2, 9)], [(some 10, 9)]) := by
  decide

end KcpServer

end PssAsio
