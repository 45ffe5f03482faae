import PssAsio.BridgeSessions

/-!
What a session does after its bridge peer has gone.
-/

namespace PssAsio

open TransitionRuns Function

structure BridgeLoss where
  session : BridgeSession
  lost : Bool

inductive BridgeLossAction where
  | setIoBridgeConnectId (toConnectId : UInt32)
  | receive (data : List UInt8) (verdict : ReceiveVerdict)
  deriving DecidableEq

namespace BridgeLoss

def opened (connectId recvSize sendSize : UInt32) (fresh : Nat → UInt8) : BridgeLoss :=
  ⟨BridgeSession.opened connectId recvSize sendSize fresh, false⟩

def step (kind : BridgeClass) (loss : BridgeLoss) : BridgeLossAction → Option BridgeLoss
  | .setIoBridgeConnectId toConnectId =>
      some ⟨kind.setIoBridgeConnectId loss.session toConnectId, false⟩
  | .receive data verdict =>
      (kind.receive loss.session data verdict).map fun (session, delivery) =>
        ⟨session, loss.lost || delivery.refused⟩

variable (loss : BridgeLoss)

def Consistent : Prop :=
  loss.session.ioState = .sessionIoBridge ↔ loss.session.ioBridgeConnectId ≠ 0
  deriving Decidable

def ParsesAfterLoss (kind : BridgeClass) (loss : BridgeLoss) : BridgeLossAction → Prop
  | .receive data verdict => loss.lost = true →
      ∀ outcome ∈ kind.receive loss.session data verdict,
        outcome.2.routing.IsParser
  | .setIoBridgeConnectId _ => True

def FindsPeer : BridgeLossAction → Prop
  | .receive data verdict => loss.session.ioState = .sessionIoBridge →
      data.length ≤ loss.session.sessionRecvBuffer.getBufferSize → verdict.bridgeSent = true
  | .setIoBridgeConnectId _ => True

instance (action : BridgeLossAction) : Decidable (loss.FindsPeer action) := by
  unfold FindsPeer
  split <;> infer_instance

def Stuck : Prop :=
  loss.lost = true → loss.session.ioState = .sessionIoBridge ∧ loss.session.ioBridgeConnectId = 0

theorem Stuck.not_lost {loss : BridgeLoss} (stuck : loss.Stuck) (consistent : loss.Consistent) :
    loss.lost = false := by
  cases lost : loss.lost with
  | false => rfl
  | true =>
    obtain ⟨bridged, nobody⟩ := stuck lost
    exact absurd nobody (consistent.mp bridged)

end BridgeLoss

def BridgeClass.IsTcp (kind : BridgeClass) : Prop := kind = .tcpSession ∨ kind = .tcpClientSession

namespace BridgeClass

variable {kind : BridgeClass}

theorem IsTcp.receive_eq (tcp : kind.IsTcp) (session : BridgeSession) (data : List UInt8)
    (verdict : ReceiveVerdict) :
    kind.receive session data verdict = session.doReadSome data verdict id := by
  obtain rfl | rfl := tcp <;> rfl

theorem IsTcp.setIoBridgeConnectId_eq (tcp : kind.IsTcp) (session : BridgeSession)
    (toConnectId : UInt32) :
    kind.setIoBridgeConnectId session toConnectId =
      session.setIoBridge toConnectId toConnectId := by
  obtain rfl | rfl := tcp <;> rfl

end BridgeClass

theorem BridgeSession.doReadSome_refused {session next : BridgeSession} {data : List UInt8}
    {verdict : ReceiveVerdict} {after : SessionBuffer → SessionBuffer} {delivery : BridgeDelivery}
    (reads : session.doReadSome data verdict after = some (next, delivery)) :
    delivery.refused = true ↔ session.ioState = .sessionIoBridge ∧
      session.ioBridgeConnectId > 0 ∧ verdict.bridgeSent = false := by
  obtain ⟨written, received, routes⟩ := Option.bind_eq_some_iff.mp reads
  unfold routeData at routes
  split at routes
  · rename_i bridged
    simp only [bridgeData, doIoBridgeData,
      SessionBuffer.readBytes_front (SessionBuffer.receive_content received),
      Option.bind_some, Option.map_some, Option.some.injEq, Prod.mk.injEq] at routes
    obtain ⟨-, rfl⟩ := routes
    by_cases target : session.ioBridgeConnectId > 0
    · cases sent : verdict.bridgeSent <;> simp [target, bridged]
    · simp [target]
  · rename_i unbridged
    simp only [parseData, Option.some.injEq, Prod.mk.injEq] at routes
    obtain ⟨-, rfl⟩ := routes
    simp [unbridged]

namespace BridgeLoss

variable {kind : BridgeClass} {loss next : BridgeLoss}

theorem stuck_step (tcp : kind.IsTcp) (stuck : loss.Stuck) {action : BridgeLossAction}
    (stepped : loss.step kind action = some next) : next.Stuck := by
  cases action with
  | setIoBridgeConnectId toConnectId =>
    cases stepped
    intro lost
    cases lost
  | receive data verdict =>
    obtain ⟨⟨session, delivery⟩, receives, rfl⟩ := Option.map_eq_some_iff.mp stepped
    have received := SessionBridge.receive_received receives
    rw [tcp.receive_eq] at receives
    have refused := BridgeSession.doReadSome_refused receives
    intro lost
    simp only [Bool.or_eq_true] at lost
    obtain before | now := lost
    · obtain ⟨bridged, nobody⟩ := stuck before
      refine ⟨received.ioState.trans bridged, ?_⟩
      rw [received.ioBridgeConnectId, nobody, ite_self]
    · exact ⟨received.ioState.trans (refused.mp now).1,
        received.ioBridgeConnectId.trans (if_pos now)⟩

theorem setIoBridge_consistent (session : BridgeSession) (toConnectId : UInt32) (lost : Bool) :
    Consistent ⟨session.setIoBridge toConnectId toConnectId, lost⟩ := by
  unfold Consistent BridgeSession.setIoBridge
  by_cases positive : toConnectId > 0
  · have target : toConnectId ≠ 0 := UInt32.pos_iff_ne_zero.mp positive
    simp [positive, target]
  · simp [positive]

theorem receive_consistent_iff (consistent : loss.Consistent) {data : List UInt8}
    {verdict : ReceiveVerdict} {session : BridgeSession} {delivery : BridgeDelivery} (lost : Bool)
    (reads : loss.session.doReadSome data verdict id = some (session, delivery)) :
    Consistent ⟨session, lost⟩ ↔
      (loss.session.ioState = .sessionIoBridge → verdict.bridgeSent = true) := by
  have refused := BridgeSession.doReadSome_refused reads
  have received : SessionBridge.Received .tcpSession loss.session session delivery :=
    SessionBridge.receive_received reads
  simp only [Consistent, received.ioState, received.ioBridgeConnectId]
  by_cases bridged : loss.session.ioState = .sessionIoBridge
  · have target : loss.session.ioBridgeConnectId > 0 :=
      UInt32.pos_iff_ne_zero.mpr (consistent.mp bridged)
    cases sent : verdict.bridgeSent with
    | true =>
      have kept : delivery.refused = false := by simp [refused, sent, ← Bool.not_eq_true]
      simpa [kept, Consistent] using consistent
    | false => simp [refused.mpr ⟨bridged, target, sent⟩, bridged]
  · have kept : delivery.refused = false := by simp [refused, bridged, ← Bool.not_eq_true]
    simpa [kept, bridged, Consistent] using consistent

theorem findsPeer_iff (tcp : kind.IsTcp) (stuck : loss.Stuck) (consistent : loss.Consistent)
    (action : BridgeLossAction) :
    loss.FindsPeer action ↔ loss.ParsesAfterLoss kind action ∧
      ∀ next, loss.step kind action = some next → next.Consistent := by
  cases action with
  | setIoBridgeConnectId toConnectId =>
    simp only [FindsPeer, ParsesAfterLoss, step, true_and, Option.some.injEq, forall_eq',
      tcp.setIoBridgeConnectId_eq, setIoBridge_consistent]
  | receive data verdict =>
    have fine := stuck.not_lost consistent
    simp only [FindsPeer, ParsesAfterLoss, step, tcp.receive_eq, fine, Bool.false_eq_true,
      false_implies, true_and, Bool.false_or]
    by_cases room : data.length ≤ loss.session.sessionRecvBuffer.getBufferSize
    · obtain ⟨written, received⟩ := SessionBuffer.receive_of_room room
      obtain ⟨session, delivery, routes, -⟩ :=
        loss.session.routeData_routed verdict id (SessionBuffer.receive_content received)
      have reads : loss.session.doReadSome data verdict id = some (session, delivery) := by
        rw [BridgeSession.doReadSome, received, Option.bind_some, routes]
      simp only [reads, Option.map_some, Option.some.injEq, forall_eq',
        receive_consistent_iff consistent delivery.refused reads, room, true_implies]
    · have refused : loss.session.doReadSome data verdict id = none := by
        rw [BridgeSession.doReadSome, SessionBuffer.receive_no_room room, Option.bind_none]
      simp [room, refused]

theorem handled_iff_findsPeer (tcp : kind.IsTcp) (connectId recvSize sendSize : UInt32)
    (fresh : Nat → UInt8) (actions : List BridgeLossAction) :
    Always (step kind) Consistent (opened connectId recvSize sendSize fresh) actions ∧
        Throughout (step kind) (ParsesAfterLoss kind) (opened connectId recvSize sendSize fresh)
          actions ↔
      Throughout (step kind) FindsPeer (opened connectId recvSize sendSize fresh) actions := by
  have supported : ∀ (loss : BridgeLoss) (action : BridgeLossAction) (next : BridgeLoss),
      loss.Stuck → loss.Consistent → next.Consistent → loss.step kind action = some next →
        next.Stuck :=
    fun _ _ _ stuck _ _ stepped => stuck_step tcp stuck stepped
  refine always_and_throughout_iff supported
    (fun _ action stuck consistent => findsPeer_iff tcp stuck consistent action) ?_ ?_
  · intro lost
    cases lost
  · simp [Consistent, opened, BridgeSession.opened]

end BridgeLoss

/-! `CUdpServer`, with the loss remembered for each connection. -/

structure UdpLoss (Peer : Type) where
  server : UdpServer Peer
  lost : UInt32 → Bool

def UdpSessionInfo.Consistent {Peer : Type} (info : UdpSessionInfo Peer) : Prop :=
  info.ioState = .sessionIoBridge ↔ info.ioBridgeConnectId ≠ 0

variable {Peer : Type}

namespace UdpLoss

variable (loss : UdpLoss Peer)

def lostAfter : UdpAction Peer → UInt32 → Bool
  | .dispose verdict =>
      match loss.server.handling with
      | some (.found connectId _ sessionInfo) =>
          if UdpServer.refuses sessionInfo verdict then update loss.lost connectId true
          else loss.lost
      | _ => loss.lost
  | .setIoBridgeConnectId fromConnectId _ => update loss.lost fromConnectId false
  | _ => loss.lost

def Consistent (loss : UdpLoss Peer) : Prop :=
  ∀ connectId, ∀ info ∈ loss.server.udpId2EndpointList connectId, info.Consistent

def ParsesAfterLoss : UdpAction Peer → Prop
  | .dispose _ =>
      match loss.server.handling with
      | some (.found connectId length sessionInfo) => loss.lost connectId = true →
          ∃ seen, loss.server.routing length sessionInfo = some (.packetFromRecvBuffer seen)
      | _ => True
  | _ => True

def started (maxRecvSize : UInt32) (fresh : Nat → UInt8) (countIndex : UInt32) : UdpLoss Peer :=
  ⟨UdpServer.started maxRecvSize fresh countIndex, fun _ => false⟩

def step [DecidableEq Peer] (loss : UdpLoss Peer) (action : UdpAction Peer) :
    Option (UdpLoss Peer) :=
  (loss.server.step action).map fun server => ⟨server, loss.lostAfter action⟩

def Settled (lost : Bool) (info : UdpSessionInfo Peer) : Prop :=
  info.Consistent ∧ (lost = true → info.ioState = .sessionIoLogic)

structure Recovers : Prop where
  table : ∀ connectId, ∀ info ∈ loss.server.udpId2EndpointList connectId,
    Settled (loss.lost connectId) info
  handled : ∀ connectId length info,
    loss.server.handling = some (.found connectId length (some info)) →
      loss.lost connectId = true → info.ioState = .sessionIoLogic

end UdpLoss

theorem UdpServer.disposeData_sessions {Peer : Type} {server disposed : UdpServer Peer}
    {connectId : UInt32} {length : Nat} {sessionInfo : Option (UdpSessionInfo Peer)}
    {verdict : ReceiveVerdict}
    (disposes : server.disposeData connectId length sessionInfo verdict = some disposed) :
    disposed.udpId2EndpointList =
      if refuses sessionInfo verdict then
        update server.udpId2EndpointList connectId
          ((server.udpId2EndpointList connectId).map fun info =>
            { info with ioBridgeConnectId := 0, ioState := .sessionIoLogic })
      else server.udpId2EndpointList := by
  have parsed := (parseData_frame server connectId length verdict).2.2.2
  unfold disposeData at disposes
  cases sessionInfo with
  | none => rw [← Option.some.inj disposes, parsed, refuses, if_neg Bool.false_ne_true]
  | some info =>
    by_cases bridged : info.ioState = .sessionIoBridge
    · simp only [bridged, if_true, doIoBridgeData, Option.map_map, Option.map_eq_some_iff]
        at disposes
      obtain ⟨bytes, -, rfl⟩ := disposes
      by_cases target : info.ioBridgeConnectId > 0
      · cases sent : verdict.bridgeSent <;>
          simp [refuses, bridged, target, setSessionInfo, sent]
      · simp [refuses, target]
    · simp only [bridged, if_false, Option.some.injEq] at disposes
      simp [← disposes, parsed, refuses, bridged]

namespace UdpLoss

variable {lost : UInt32 → Bool} {loss : UdpLoss Peer}

theorem settled_update {table : UInt32 → Option (UdpSessionInfo Peer)}
    (settled : ∀ connectId, ∀ info ∈ table connectId, Settled (lost connectId) info)
    (changed : UInt32) {entry : Option (UdpSessionInfo Peer)} {loses : Bool}
    (fits : ∀ info ∈ entry, Settled loses info) (connectId : UInt32) :
    ∀ info ∈ update table changed entry connectId,
      Settled (update lost changed loses connectId) info := by
  by_cases same : connectId = changed
  · subst same
    simpa using fits
  · simpa [update_of_ne same] using settled connectId

theorem dispose_recovers (recovers : loss.Recovers) {verdict : ReceiveVerdict} {connectId : UInt32}
    {length : Nat} {sessionInfo : Option (UdpSessionInfo Peer)} {disposed : UdpServer Peer}
    (handled : loss.server.handling = some (.found connectId length sessionInfo))
    (disposes : loss.server.disposeData connectId length sessionInfo verdict = some disposed) :
    Recovers ⟨{ disposed.doReceive with handling := none }, loss.lostAfter (.dispose verdict)⟩ := by
  have sessions := UdpServer.disposeData_sessions disposes
  refine ⟨fun other => ?_, by simp⟩
  simp only [lostAfter, handled, UdpServer.doReceive, sessions]
  split
  · refine settled_update recovers.table connectId (fun info member => ?_) other
    obtain ⟨held, -, rfl⟩ := Option.map_eq_some_iff.mp member
    exact ⟨by simp [UdpSessionInfo.Consistent], fun _ => rfl⟩
  · exact recovers.table other

theorem setIoBridgeConnectId_recovers (recovers : loss.Recovers)
    (fromConnectId toConnectId : UInt32) :
    Recovers ⟨loss.server.setIoBridgeConnectId fromConnectId toConnectId,
      update loss.lost fromConnectId false⟩ := by
  refine ⟨settled_update recovers.table fromConnectId (fun info member => ?_), ?_⟩
  · obtain ⟨held, -, rfl⟩ := Option.map_eq_some_iff.mp member
    refine ⟨?_, by simp⟩
    by_cases positive : toConnectId > 0
    · have target : toConnectId ≠ 0 := UInt32.pos_iff_ne_zero.mp positive
      simp [UdpSessionInfo.Consistent, positive, target]
    · simp [UdpSessionInfo.Consistent, positive]
  · intro connectId length info handled lost
    by_cases same : connectId = fromConnectId
    · simp [same] at lost
    · exact recovers.handled connectId length info handled
        (by simpa [update_of_ne same] using lost)

theorem started_recovers (maxRecvSize : UInt32) (fresh : Nat → UInt8) (countIndex : UInt32) :
    (started maxRecvSize fresh countIndex : UdpLoss Peer).Recovers :=
  ⟨by simp [started, UdpServer.started], by simp [started, UdpServer.started]⟩

theorem Recovers.parsesAfterLoss (recovers : loss.Recovers) (action : UdpAction Peer) :
    loss.ParsesAfterLoss action := by
  cases action with
  | dispose verdict =>
    simp only [ParsesAfterLoss]
    split
    · rename_i connectId length sessionInfo handled
      intro lost
      cases sessionInfo with
      | none => exact ⟨_, rfl⟩
      | some info =>
        have logic := recovers.handled connectId length info handled lost
        simp [UdpServer.routing, logic]
    · trivial
  | _ => trivial

theorem Recovers.consistent (recovers : loss.Recovers) : loss.Consistent :=
  fun connectId info listed => (recovers.table connectId info listed).1

variable [DecidableEq Peer]

theorem addUdpEndpoint_settled {server : UdpServer Peer}
    (settled : ∀ connectId, ∀ info ∈ server.udpId2EndpointList connectId, Settled (lost connectId)
      info) (recvEndpoint : Peer) :
    ∀ connectId, ∀ info ∈ (server.addUdpEndpoint recvEndpoint).1.udpId2EndpointList connectId,
      Settled (lost connectId) info := by
  cases known : server.udpEndpoint2IdList recvEndpoint with
  | some connectId =>
    rw [UdpServer.addUdpEndpoint_known known]
    exact settled
  | none =>
    rw [UdpServer.addUdpEndpoint_unknown known]
    have fits : ∀ info ∈ some (⟨0, .sessionIoLogic, recvEndpoint⟩ : UdpSessionInfo Peer),
        Settled (lost (server.countIndex + 1)) info := by
      simp [Settled, UdpSessionInfo.Consistent]
    simpa only [update_eq_self, UdpServer.call] using
      settled_update settled (server.countIndex + 1) fits

theorem doReceiveFrom_recovers {server : UdpServer Peer}
    (settled : ∀ connectId, ∀ info ∈ server.udpId2EndpointList connectId, Settled (lost connectId)
      info) (idle : server.handling = none) (recvEndpoint : Peer) (length : Nat) :
    Recovers ⟨server.doReceiveFrom recvEndpoint length, lost⟩ := by
  have added := addUdpEndpoint_settled settled recvEndpoint
  have waiting := (server.addUdpEndpoint_frame recvEndpoint).2.1.trans idle
  simp only [UdpServer.doReceiveFrom]
  split
  · exact ⟨added, by simp [waiting]⟩
  · split
    · exact ⟨added, by simp [UdpServer.doReceive, UdpServer.call, waiting]⟩
    · exact ⟨added, by simp⟩

theorem closeErase_recovers (recovers : loss.Recovers) (connectId : UInt32) (index : Nat) :
    Recovers ⟨{ loss.server.eraseEndpoint connectId with
      closing := loss.server.closing.eraseIdx index }, loss.lost⟩ := by
  have handling := (loss.server.eraseEndpoint_frame connectId).2.2
  refine ⟨?_, by simpa only [handling] using recovers.handled⟩
  unfold UdpServer.eraseEndpoint
  cases found : loss.server.udpId2EndpointList connectId with
  | none => exact recovers.table
  | some info =>
    have fits : ∀ info ∈ (none : Option (UdpSessionInfo Peer)),
        Settled (loss.lost connectId) info := by simp
    simpa only [update_eq_self] using settled_update recovers.table connectId fits

theorem recovers_step {next : UdpLoss Peer} {action : UdpAction Peer}
    (recovers : loss.Recovers) (stepped : loss.step action = some next) : next.Recovers := by
  obtain ⟨server, moved, rfl⟩ := Option.map_eq_some_iff.mp stepped
  cases UdpServer.stepped_of_step moved with
  | receive recvEndpoint data filled idle pending stored =>
    refine doReceiveFrom_recovers ?_ ?_ recvEndpoint data.length
    · exact recovers.table
    · exact idle
  | findEndpoint connectId length handled =>
    refine ⟨recovers.table, ?_⟩
    intro other size info found lost
    simp only [Option.some.injEq, UdpHandling.found.injEq] at found
    obtain ⟨rfl, -, listed⟩ := found
    exact (recovers.table connectId info listed).2 lost
  | dispose verdict connectId length sessionInfo disposed handled disposes =>
    exact dispose_recovers recovers handled disposes
  | setIoBridgeConnectId fromConnectId toConnectId =>
    exact setIoBridgeConnectId_recovers recovers fromConnectId toConnectId
  | createCounter | closeLook connectId | closeSkip index connectId looked
  | closeWithdraw index connectId looked => exact ⟨recovers.table, recovers.handled⟩
  | closeErase index connectId withdrawn => exact closeErase_recovers recovers connectId index

theorem loss_handled (maxRecvSize : UInt32) (fresh : Nat → UInt8) (countIndex : UInt32)
    (actions : List (UdpAction Peer)) :
    Always step Consistent (started maxRecvSize fresh countIndex) actions ∧
      Throughout step ParsesAfterLoss (started maxRecvSize fresh countIndex) actions := by
  have supported : ∀ (loss : UdpLoss Peer) (action : UdpAction Peer)
      (next : UdpLoss Peer), loss.Recovers → loss.Consistent → next.Consistent →
        loss.step action = some next → next.Recovers :=
    fun _ _ _ recovers _ _ stepped => recovers_step recovers stepped
  have decisive : ∀ (loss : UdpLoss Peer) (action : UdpAction Peer),
      loss.Recovers → loss.Consistent → (True ↔ loss.ParsesAfterLoss action ∧
        ∀ next, loss.step action = some next → next.Consistent) :=
    fun _ action recovers _ => iff_of_true trivial ⟨recovers.parsesAfterLoss action,
      fun _ stepped => (recovers_step recovers stepped).consistent⟩
  have initial : (started maxRecvSize fresh countIndex : UdpLoss Peer).Recovers :=
    started_recovers maxRecvSize fresh countIndex
  exact (always_and_throughout_iff supported decisive initial initial.consistent).mpr
    (throughout_of_forall _ (fun _ _ => trivial) _ actions)

end UdpLoss

/-- Losing the peer leaves a TCP session marked as bridged. `CUdpServer` stays consistent in every
run. -/
theorem bridge_loss_handled_iff {kind : BridgeClass} (tcp : kind.IsTcp)
    (connectId recvSize sendSize : UInt32) (fresh : Nat → UInt8)
    (actions : List BridgeLossAction) {Peer : Type} [DecidableEq Peer]
    (maxRecvSize countIndex : UInt32) (datagrams : List (UdpAction Peer)) :
    (Always (BridgeLoss.step kind) BridgeLoss.Consistent
          (.opened connectId recvSize sendSize fresh) actions ∧
        Throughout (BridgeLoss.step kind) (BridgeLoss.ParsesAfterLoss kind)
          (.opened connectId recvSize sendSize fresh) actions ↔
      Throughout (BridgeLoss.step kind) BridgeLoss.FindsPeer
        (.opened connectId recvSize sendSize fresh) actions) ∧
    Always UdpLoss.step UdpLoss.Consistent (.started maxRecvSize fresh countIndex) datagrams ∧
    Throughout UdpLoss.step UdpLoss.ParsesAfterLoss (.started maxRecvSize fresh countIndex)
      datagrams := by
  exact ⟨BridgeLoss.handled_iff_findsPeer tcp connectId recvSize sendSize fresh actions,
    UdpLoss.loss_handled maxRecvSize fresh countIndex datagrams⟩

theorem bridge_loss_handled_after_release :
    Always (BridgeLoss.step .tcpSession) BridgeLoss.Consistent (.opened 1 8 8 fun _ => 0)
      [.setIoBridgeConnectId 7, .receive [1] ⟨none, 0, true⟩, .setIoBridgeConnectId 0,
        .receive [2] ⟨some [], 1, false⟩] := by
  have handled := (bridge_loss_handled_iff (.inl rfl) 1 8 8 (fun _ => 0)
    [.setIoBridgeConnectId 7, .receive [1] ⟨none, 0, true⟩, .setIoBridgeConnectId 0,
      .receive [2] ⟨some [], 1, false⟩] 8 0 ([] : List (UdpAction Nat))).1
  exact (handled.mpr (by decide)).1

/-- The peer is gone at the first read; the second one is an error of the bridge again. -/
theorem lost_peer_keeps_bridge :
    ∃ loss, run (BridgeLoss.step .tcpSession) (.opened 1 8 8 fun _ => 0)
        [.setIoBridgeConnectId 7, .receive [1] ⟨none, 0, false⟩] = some loss ∧
      loss.lost = true ∧ ¬loss.Consistent ∧
      (BridgeClass.tcpSession.receive loss.session [2] ⟨some [], 1, true⟩).map (·.2.routing) =
        some (.dataError [2]) :=
  ⟨_, (Option.some_get (by decide)).symm, by decide, by decide, by decide⟩

end PssAsio
