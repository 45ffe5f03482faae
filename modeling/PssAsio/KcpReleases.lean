import Mathlib.Data.Fintype.Basic
import PssAsio.KcpReleaseCore

/-!
When closing a KCP session is safe.
-/

namespace PssAsio

open TransitionRuns SharedReleases Function

namespace KcpCall

def closesNext : KcpCall → Option Nat
  | .closingServer (connectId :: _) => some connectId
  | _ => none

def releases : KcpCall → Option Nat
  | .releasing connectId _ => some connectId
  | _ => none

end KcpCall

namespace KcpReleaseServer

variable {Caller Peer : Type}

variable (server : KcpReleaseServer Caller Peer)

def ledger : Ledger Caller Nat where
  listed := fun connectId => connectId ∈ server.udpId2EndpointList
  made := fun connectId => (server.session connectId).kcpcb = true
  released := server.released
  holds := fun caller => (server.calls caller).holds
  erases := fun caller => (server.calls caller).erases
  missed := server.nullDereferences
  late := server.lateUses

variable (connectId : Nat)

def NoneErasing : Prop :=
  (server.session connectId).kcpcb = true →
    ∀ caller, (server.calls caller).erases ≠ some connectId

def NoneBeside (caller : Caller) (connectId : Nat) : Prop :=
  (server.session connectId).kcpcb = true → ∀ other, (server.calls other).holds = some connectId ∨
    (server.calls other).erases = some connectId → other = caller

def Orderly :
    KcpReleaseAction Caller Peer → Prop
  | .close _ connectId =>
      connectId ∈ server.udpId2EndpointList ∧ server.NoneErasing connectId
  | .closeNext caller =>
      ∀ connectId ∈ (server.calls caller).closesNext,
        connectId ∈ server.udpId2EndpointList ∧ server.NoneErasing connectId
  | .release caller =>
      ∀ connectId ∈ (server.calls caller).releases, server.NoneBeside caller connectId
  | .receiveFrom _ endpoint _ _ datagram =>
      ∀ connectId ∈ server.udpEndpoint2IdList endpoint,
        connectId ∈ server.udpId2EndpointList → datagram = .data → server.NoneErasing connectId
  | .doWrite _ connectId =>
      connectId ∈ server.udpId2EndpointList → (server.session connectId).udpState = .kcpIdValid →
        server.NoneErasing connectId
  | _ => True

def AtRest : Prop :=
  ∀ caller, server.calls caller = .idle

/-- No null session, no late use, and every control block released once or still held. -/
structure Safe : Prop where
  notNull : server.nullDereferences = 0
  notLate : server.lateUses = 0
  once : ∀ connectId, (server.session connectId).kcpcb = true →
    server.released connectId = if connectId ∈ server.udpId2EndpointList then 0 else 1

theorem safe_iff_settled : server.Safe ↔ server.ledger.Settled := by
  constructor
  · intro safe
    refine ⟨safe.notNull, safe.notLate, fun connectId made listed => ?_,
      fun connectId made unlisted => ?_⟩
    · exact (safe.once connectId made).trans (if_pos listed)
    · exact (safe.once connectId made).trans (if_neg unlisted)
  · intro settled
    refine ⟨settled.found, settled.timely, fun connectId made => ?_⟩
    split
    · rename_i listed
      exact settled.kept connectId made listed
    · rename_i unlisted
      exact settled.once connectId made unlisted

theorem init_blank [Inhabited Peer] : (init : KcpReleaseServer Caller Peer).ledger.Blank where
  unlisted := fun _ => List.not_mem_nil
  unmade := fun _ => Bool.false_ne_true
  unreleased := fun _ => rfl
  resting := fun _ => ⟨rfl, rfl⟩
  found := rfl
  timely := rfl

/-! What a step does to the ledger. -/

theorem applyIkcp_eq :
    server.applyIkcp connectId = { server with
      lateUses := if server.released connectId = 0 then server.lateUses
        else server.lateUses + 1 } := by
  unfold applyIkcp
  split
  · rfl
  · rfl

theorem ledger_answered :
    ledger { server with
      session := update server.session connectId
        { server.session connectId with udpState := .kcpIdValid } } = server.ledger := by
  have made : (fun other => (update server.session connectId
      { server.session connectId with udpState := .kcpIdValid } other).kcpcb = true) =
      server.ledger.made := by
    funext other
    by_cases same : other = connectId
    · subst same
      simp [ledger]
    · simp [same, ledger]
  simp only [ledger, made]

variable {connectId : Nat} {server next : KcpReleaseServer Caller Peer} {call : KcpCall}
  {caller : Caller} {condition : Prop}

theorem made_created (unmade : ¬server.ledger.made connectId) (endpoint : Peer)
    (created : Bool) :
    (fun other =>
      (update server.session connectId ⟨endpoint, .kcpValud, created⟩ other).kcpcb =
        true) =
      fun other => server.ledger.made other ∨ other = connectId ∧ created = true := by
  funext other
  by_cases new : other = connectId
  · subst new
    simp [unmade]
  · simp [new, ledger]

variable [DecidableEq Caller]

theorem ledger_setCall (server : KcpReleaseServer Caller Peer) (caller : Caller)
    (call : KcpCall) : (server.setCall caller call).ledger = { server.ledger with
      holds := update server.ledger.holds caller call.holds
      erases := update server.ledger.erases caller call.erases } := by
  have holds : (fun other => (update server.calls caller call other).holds) =
      update server.ledger.holds caller call.holds :=
    comp_update KcpCall.holds server.calls caller call
  have erases : (fun other => (update server.calls caller call other).erases) =
      update server.ledger.erases caller call.erases :=
    comp_update KcpCall.erases server.calls caller call
  simp only [ledger, setCall, holds, erases]

theorem ledger_move (free : (server.calls caller).erases = none) (stays : call.erases = none) :
    (server.setCall caller call).ledger = { server.ledger with
      holds := update server.ledger.holds caller call.holds } := by
  have unchanged : update server.ledger.erases caller call.erases =
      server.ledger.erases := by
    rw [stays, ← free]
    exact update_eq_self caller server.ledger.erases
  rw [ledger_setCall, unchanged]

theorem ledger_pass (free : (server.calls caller).erases = none) (stays : call.erases = none)
    (same : call.holds = (server.calls caller).holds) :
    (server.setCall caller call).ledger = server.ledger := by
  have unchanged : update server.ledger.holds caller call.holds =
      server.ledger.holds := by
    rw [same]
    exact update_eq_self caller server.ledger.holds
  rw [ledger_move free stays, unchanged]

section Events

variable {before : KcpCall} (now : server.calls caller = before)

include now

theorem use_event (held : before.holds = some connectId) (free : before.erases = none)
    (stays : call.erases = none) (last : call.holds = none ∨ call.holds = some connectId) :
    Ledger.Event server.ledger ((server.applyIkcp connectId).setCall caller call).ledger True := by
  subst now
  have freeStill : ((server.applyIkcp connectId).calls caller).erases = none := by
    rwa [applyIkcp_eq]
  rw [ledger_move freeStill stays, applyIkcp_eq]
  exact Ledger.Event.use caller connectId call.holds held last

theorem take_event (idle : before.holds = none) (free : before.erases = none)
    (stays : call.erases = none) (takes : call.holds = some connectId)
    (present : connectId ∈ server.udpId2EndpointList) :
    Ledger.Event server.ledger (server.setCall caller call).ledger
      (server.NoneErasing connectId) := by
  subst now
  rw [ledger_move free stays, takes]
  exact Ledger.Event.take caller connectId idle present

theorem pass_event (call : KcpCall) (free : before.erases = none) (stays : call.erases = none)
    (same : call.holds = before.holds) :
    Ledger.Event server.ledger (server.setCall caller call).ledger True := by
  subst now
  rw [ledger_pass free stays same]
  exact Ledger.Event.pass

end Events

def Fresh (server : KcpReleaseServer Caller Peer) : Prop :=
  ∀ connectId, server.countIndex < connectId → server.ledger.Untouched connectId

structure Booked (server next : KcpReleaseServer Caller Peer) (condition : Prop) : Prop where
  event : Ledger.Event server.ledger next.ledger condition
  counted : server.countIndex ≤ next.countIndex
  numbered : ∀ connectId ∈ next.udpId2EndpointList,
    connectId ∈ server.udpId2EndpointList ∨ connectId ≤ next.countIndex

theorem Booked.of_same (event : Ledger.Event server.ledger next.ledger condition)
    (index : next.countIndex = server.countIndex)
    (list : next.udpId2EndpointList = server.udpId2EndpointList) : server.Booked next condition :=
  ⟨event, Nat.le_of_eq index.symm, fun _ listed => .inl (list ▸ listed)⟩

theorem Booked.of_applied (event : Ledger.Event server.ledger next.ledger condition)
    (index : next.countIndex = (server.applyIkcp connectId).countIndex)
    (list : next.udpId2EndpointList = (server.applyIkcp connectId).udpId2EndpointList) :
    server.Booked next condition :=
  .of_same event (index.trans (by rw [applyIkcp_eq])) (list.trans (by rw [applyIkcp_eq]))

theorem Booked.fresh (booked : server.Booked next condition) (fresh : server.Fresh) :
    next.Fresh := by
  intro connectId above
  have counted := booked.counted
  have untouched := fresh connectId (by omega)
  refine untouched.event booked.event fun listed => ?_
  rcases booked.numbered connectId listed with before | below
  · exact untouched.unlisted before
  · omega

theorem close_booked {before : KcpCall} (now : server.calls caller = before)
    (idle : before.holds = none) (free : before.erases = none) (connectId : Nat)
    (outer : Option (List Nat)) : server.Booked (server.close caller connectId outer)
      (connectId ∈ server.udpId2EndpointList ∧ server.NoneErasing connectId) := by
  by_cases present : connectId ∈ server.udpId2EndpointList
  · simp only [close, findUdpEndpointById, present, if_true]
    exact .of_same ((take_event now idle free rfl rfl present).of_iff (and_iff_right trivial))
      rfl rfl
  · simp only [close, findUdpEndpointById, present, if_false]
    subst now
    have unchanged : (server.setCall caller .idle).ledger = server.ledger :=
      ledger_pass free rfl idle.symm
    refine .of_same ?_ rfl rfl
    change Ledger.Event server.ledger { (server.setCall caller .idle).ledger with
      missed := server.ledger.missed + 1 } _
    rw [unchanged]
    exact Ledger.Event.miss.of_iff (iff_of_false (fun both => both.1) id)

theorem release_booked {outer : Option (List Nat)}
    (releasing : server.calls caller = .releasing connectId outer) :
    server.Booked ((server.closeKcp connectId).setCall caller (.erasing connectId outer))
      (server.NoneBeside caller connectId) := by
  have held : server.ledger.holds caller = some connectId := congrArg KcpCall.holds releasing
  have free : server.ledger.erases caller = none := congrArg KcpCall.erases releasing
  by_cases made : (server.session connectId).kcpcb = true
  · simp only [closeKcp, made, if_true]
    refine .of_same ?_ rfl rfl
    rw [ledger_setCall]
    exact (Ledger.Event.release caller connectId held free made).of_iff (forall_prop_of_true made)
  · simp only [closeKcp, made]
    refine .of_same ?_ rfl rfl
    rw [ledger_setCall]
    exact (Ledger.Event.releaseNothing caller connectId held free made).of_iff
      (iff_true_intro fun real => absurd real made)

theorem findReceived_cases (server : KcpReleaseServer Caller Peer) (caller : Caller)
    (connectId : Nat) (datagram : KcpDatagram) :
    connectId ∈ server.udpId2EndpointList ∧ server.findReceived caller connectId datagram =
        server.setCall caller (.found connectId datagram) ∨
      connectId ∉ server.udpId2EndpointList ∧
        server.findReceived caller connectId datagram = server.doReceive caller := by
  by_cases present : connectId ∈ server.udpId2EndpointList
  · exact .inl ⟨present, by simp [findReceived, findUdpEndpointById, present]⟩
  · exact .inr ⟨present, by simp [findReceived, findUdpEndpointById, present]⟩

theorem findReceived_booked (idle : server.calls caller = .idle) (connectId : Nat)
    (datagram : KcpDatagram) :
    server.Booked (server.findReceived caller connectId datagram)
      (connectId ∈ server.udpId2EndpointList → datagram = .data →
        server.NoneErasing connectId) := by
  rcases server.findReceived_cases caller connectId datagram with ⟨present, found⟩ | ⟨absent, ended⟩
  · rw [found]
    refine .of_same ?_ rfl rfl
    cases datagram with
    | data =>
      refine (take_event idle rfl rfl rfl rfl present).of_iff ?_
      exact ⟨fun ordered => ordered present rfl, fun quiet _ _ => quiet⟩
    | discarded =>
      have other : KcpDatagram.discarded ≠ .data := by decide
      exact (pass_event idle (.found connectId .discarded) rfl rfl rfl).of_iff
        (iff_true_intro fun _ same => absurd same other)
    | kcpIdCreate =>
      have other : KcpDatagram.kcpIdCreate ≠ .data := by decide
      exact (pass_event idle (.found connectId .kcpIdCreate) rfl rfl rfl).of_iff
        (iff_true_intro fun _ same => absurd same other)
  · rw [ended]
    refine .of_same ((pass_event idle .idle rfl rfl rfl).of_iff ?_) rfl rfl
    exact iff_true_intro fun present => absurd present absent

theorem refresh_booked {datagram : KcpDatagram}
    (refreshing : server.calls caller = .refreshing connectId datagram) :
    server.Booked ((server.applyIkcp connectId).findReceived caller connectId datagram) True := by
  rcases (server.applyIkcp connectId).findReceived_cases caller connectId datagram with
    ⟨-, found⟩ | ⟨-, ended⟩
  · rw [found]
    refine .of_applied ?_ rfl rfl
    cases datagram with
    | data => exact use_event refreshing rfl rfl rfl (.inr rfl)
    | discarded | kcpIdCreate => exact use_event refreshing rfl rfl rfl (.inl rfl)
  · rw [ended]
    have idle : KcpCall.idle.holds = none ∨ KcpCall.idle.holds = some connectId := .inl rfl
    exact .of_applied (use_event refreshing rfl rfl rfl idle) rfl rfl

theorem doWrite_booked (idle : server.calls caller = .idle) (connectId : Nat) :
    server.Booked (server.doWrite caller connectId)
      (connectId ∈ server.udpId2EndpointList → (server.session connectId).udpState = .kcpIdValid →
        server.NoneErasing connectId) := by
  by_cases present : connectId ∈ server.udpId2EndpointList
  · by_cases valid : (server.session connectId).udpState = .kcpIdValid
    · simp only [doWrite, findUdpEndpointById, present, valid, if_true]
      refine .of_same ((take_event idle rfl rfl rfl rfl present).of_iff ?_) rfl rfl
      exact ⟨fun ordered => ordered trivial trivial, fun quiet _ _ => quiet⟩
    · simp only [doWrite, findUdpEndpointById, present, valid, if_true, if_false]
      exact .of_same (Ledger.Event.pass.of_iff (iff_true_intro fun _ refused => refused.elim))
        rfl rfl
  · simp only [doWrite, findUdpEndpointById, present, if_false]
    exact .of_same (Ledger.Event.pass.of_iff (iff_true_intro fun missing => missing.elim)) rfl rfl

variable [DecidableEq Peer]

omit [DecidableEq Caller] in
theorem mem_closeUdpEndpointById {other : Nat} :
    other ∈ (server.closeUdpEndpointById connectId).udpId2EndpointList ↔
      other ∈ server.udpId2EndpointList ∧ other ≠ connectId := by
  by_cases present : connectId ∈ server.udpId2EndpointList
  · simp [closeUdpEndpointById, findUdpEndpointById, present]
  · simp only [closeUdpEndpointById, findUdpEndpointById, present, if_false]
    exact (and_iff_left_of_imp fun listed (same : other = connectId) =>
      present (same ▸ listed)).symm

omit [DecidableEq Caller] in
theorem ledger_closeUdpEndpointById (server : KcpReleaseServer Caller Peer)
    (connectId : Nat) : (server.closeUdpEndpointById connectId).ledger = { server.ledger with
      listed := fun other => other ∈ server.udpId2EndpointList ∧ other ≠ connectId } := by
  have listed : (fun other => other ∈ (server.closeUdpEndpointById connectId).udpId2EndpointList) =
      fun other => other ∈ server.udpId2EndpointList ∧ other ≠ connectId :=
    funext fun other => propext mem_closeUdpEndpointById
  rw [← listed]
  simp only [closeUdpEndpointById]
  split
  · rfl
  · rfl

theorem erase_booked {outer : Option (List Nat)}
    (erasing : server.calls caller = .erasing connectId outer) :
    server.Booked
      ((server.closeUdpEndpointById connectId).setCall caller (KcpCall.returned outer)) True := by
  have back : (KcpCall.returned outer).holds = server.ledger.holds caller ∧
      (KcpCall.returned outer).erases = none := by
    have nothing : server.ledger.holds caller = none := congrArg KcpCall.holds erasing
    rw [nothing]
    cases outer with
    | none => exact ⟨rfl, rfl⟩
    | some kcpClientList => exact ⟨rfl, rfl⟩
  have unchanged : update server.ledger.holds caller (KcpCall.returned outer).holds =
      server.ledger.holds := by
    rw [back.1]
    exact update_eq_self caller server.ledger.holds
  have index : (server.closeUdpEndpointById connectId).countIndex = server.countIndex := by
    simp only [closeUdpEndpointById]
    split
    · rfl
    · rfl
  refine ⟨?_, Nat.le_of_eq index.symm,
    fun other listed => .inl (mem_closeUdpEndpointById.mp listed).1⟩
  rw [ledger_setCall, ledger_closeUdpEndpointById, unchanged, back.2]
  exact Ledger.Event.erase caller connectId (congrArg KcpCall.erases erasing)

theorem create_event (fresh : server.Fresh) (idle : server.calls caller = .idle)
    (endpoint : Peer) (drawn : Nat) (created : Bool) (datagram : KcpDatagram) :
    Ledger.Event server.ledger
      (server.createSession caller endpoint drawn created datagram).ledger True := by
  have untouched := fresh (server.countIndex + drawn + 1) (by omega)
  generalize number : server.countIndex + drawn + 1 = connectId at untouched
  have holding : server.ledger.holds caller = none := congrArg KcpCall.holds idle
  have listed : (fun other => other ∈ server.udpId2EndpointList ++ [connectId]) =
      fun other => server.ledger.listed other ∨ other = connectId := by
    funext other
    simp [ledger]
  have made := made_created untouched.unmade endpoint created
  have next : ∀ call : KcpCall, call.erases = none →
      ({ server with
        countIndex := connectId
        udpId2EndpointList := server.udpId2EndpointList ++ [connectId]
        udpEndpoint2IdList := update server.udpEndpoint2IdList endpoint (some connectId)
        session := update server.session connectId ⟨endpoint, .kcpValud, created⟩ }.setCall
          caller call).ledger = { server.ledger with
        listed := fun other => server.ledger.listed other ∨ other = connectId
        made := fun other => server.ledger.made other ∨ other = connectId ∧ created = true
        holds := update server.ledger.holds caller call.holds } := by
    intro call stays
    rw [← listed, ← made]
    refine Eq.trans (ledger_move ?_ stays) rfl
    exact congrArg KcpCall.erases idle
  simp only [createSession, number]
  -- Only a session with a control block is refreshed before the handler goes on.
  cases created with
  | false =>
    rw [next _ rfl]
    exact Ledger.Event.create caller connectId _ none holding untouched (.inl rfl)
  | true =>
    rw [next _ rfl]
    exact Ledger.Event.create caller connectId _ (some connectId) holding untouched (.inr rfl)

theorem doReceiveFrom_booked (fresh : server.Fresh) (idle : server.calls caller = .idle)
    (endpoint : Peer) (drawn : Nat) (created : Bool) (datagram : KcpDatagram) :
    server.Booked (server.doReceiveFrom caller endpoint drawn created datagram)
      (server.Orderly (.receiveFrom caller endpoint drawn created datagram)) := by
  simp only [doReceiveFrom, Orderly]
  split
  · rename_i connectId known
    have found := findReceived_booked idle connectId datagram
    refine ⟨found.event.of_iff ?_, found.counted, found.numbered⟩
    simp [known]
  · rename_i unknown
    refine ⟨(create_event fresh idle endpoint drawn created datagram).of_iff ?_, ?_, ?_⟩
    · simp [unknown]
    · simp only [createSession, setCall]
      omega
    · intro connectId listed
      simp only [createSession, setCall, List.mem_append, List.mem_singleton] at listed
      exact listed.imp_right Nat.le_of_eq

theorem step_booked {action : KcpReleaseAction Caller Peer} (fresh : server.Fresh)
    (stepped : server.step action = some next) : server.Booked next (server.Orderly action) := by
  cases action with
  | close caller connectId =>
    simp only [step] at stepped
    split at stepped
    · rename_i idle
      cases stepped
      exact close_booked idle rfl rfl connectId none
    · cases stepped
  | closeServer caller =>
    simp only [step] at stepped
    split at stepped
    · rename_i idle
      cases stepped
      exact .of_same (pass_event idle _ rfl rfl rfl) rfl rfl
    · cases stepped
  | closeNext caller =>
    simp only [step] at stepped
    split at stepped
    · rename_i connectId rest closing
      cases stepped
      have booked := close_booked closing rfl rfl connectId (some rest)
      refine ⟨booked.event.of_iff ?_, booked.counted, booked.numbered⟩
      simp [Orderly, closing, KcpCall.closesNext]
    · rename_i closing
      cases stepped
      refine .of_same ((pass_event closing .idle rfl rfl rfl).of_iff ?_) rfl rfl
      simp [Orderly, closing, KcpCall.closesNext]
    · cases stepped
  | release caller =>
    simp only [step] at stepped
    split at stepped
    · rename_i connectId outer releasing
      cases stepped
      have booked := release_booked releasing
      refine ⟨booked.event.of_iff ?_, booked.counted, booked.numbered⟩
      simp [Orderly, releasing, KcpCall.releases]
    · cases stepped
  | erase caller =>
    simp only [step] at stepped
    split at stepped
    · rename_i connectId outer erasing
      cases stepped
      exact erase_booked erasing
    · cases stepped
  | receiveFrom caller endpoint drawn created datagram =>
    simp only [step] at stepped
    split at stepped
    · rename_i idle
      split at stepped
      · cases stepped
        have freshStill : Fresh { server with receiving := false } := fresh
        have handled := doReceiveFrom_booked freshStill idle endpoint drawn created datagram
        exact ⟨handled.event, handled.counted, handled.numbered⟩
      · cases stepped
    · cases stepped
  | refresh caller =>
    simp only [step] at stepped
    split at stepped
    · rename_i connectId datagram refreshing
      cases stepped
      exact refresh_booked refreshing
    · cases stepped
  | answer caller =>
    simp only [step] at stepped
    split at stepped
    · rename_i connectId found
      cases stepped
      exact .of_same (pass_event found .idle rfl rfl rfl) rfl rfl
    · rename_i connectId found
      cases stepped
      have passed := pass_event found .idle rfl rfl rfl
      rw [← (server.setCall caller .idle).ledger_answered connectId] at passed
      exact .of_same passed rfl rfl
    · cases stepped
  | lockUpdate caller =>
    simp only [step] at stepped
    split at stepped
    · rename_i connectId found unlocked
      cases stepped
      exact .of_applied (use_event found rfl rfl rfl (.inr rfl)) rfl rfl
    · cases stepped
  | unlockUpdate caller hasData =>
    simp only [step] at stepped
    split at stepped
    · rename_i connectId updating
      cases hasData with
      | false =>
        cases stepped
        exact .of_applied (use_event updating rfl rfl rfl (.inl rfl)) rfl rfl
      | true =>
        cases stepped
        exact .of_applied (use_event updating rfl rfl rfl (.inr rfl)) rfl rfl
    · cases stepped
  | lockConfirm caller =>
    simp only [step] at stepped
    split at stepped
    · rename_i connectId handled unlocked
      cases stepped
      exact .of_same (pass_event handled (.confirming connectId) rfl rfl rfl) rfl rfl
    · cases stepped
  | unlockConfirm caller =>
    simp only [step] at stepped
    split at stepped
    · rename_i connectId confirming
      cases stepped
      exact .of_applied (use_event confirming rfl rfl rfl (.inl rfl)) rfl rfl
    · cases stepped
  | doWrite caller connectId =>
    simp only [step] at stepped
    split at stepped
    · rename_i idle
      cases stepped
      exact doWrite_booked idle connectId
    · cases stepped
  | lockWrite caller =>
    simp only [step] at stepped
    split at stepped
    · rename_i connectId writing unlocked
      cases stepped
      exact .of_applied (use_event writing rfl rfl rfl (.inr rfl)) rfl rfl
    · cases stepped
  | unlockWrite caller =>
    simp only [step] at stepped
    split at stepped
    · rename_i connectId sending
      cases stepped
      exact .of_applied (use_event sending rfl rfl rfl (.inl rfl)) rfl rfl
    · cases stepped

/-- Orderly runs are safe, and at rest the safe runs are exactly the orderly ones. -/
theorem close_safe_iff_orderly [Inhabited Peer]
    {actions : List (KcpReleaseAction Caller Peer)} {last : KcpReleaseServer Caller Peer}
    (ran : run step init actions = some last) :
    (Throughout step Orderly init actions → last.nullDereferences = 0 ∧ last.lateUses = 0 ∧
      ∀ connectId, last.released connectId ≤ 1) ∧
    (last.AtRest → (last.Safe ↔ Throughout step Orderly init actions)) := by
  have fresh : (init : KcpReleaseServer Caller Peer).Fresh :=
    fun connectId _ => init_blank.untouched connectId
  have supported : ∀ (server : KcpReleaseServer Caller Peer) action next, server.Fresh →
      server.step action = some next → next.Fresh :=
    fun server action next fresh stepped => (step_booked fresh stepped).fresh fresh
  have events : ∀ (server : KcpReleaseServer Caller Peer) action next, server.Fresh →
      server.step action = some next →
      Ledger.Event server.ledger next.ledger (server.Orderly action) :=
    fun server action next fresh stepped => (step_booked fresh stepped).event
  constructor
  · intro orderly
    have good := Ledger.good_of_throughout supported events fresh init_blank ran orderly
    exact ⟨good.found, good.timely, good.released_le_one⟩
  · intro rest
    have resting : last.ledger.AtRest := fun caller =>
      ⟨congrArg KcpCall.holds (rest caller), congrArg KcpCall.erases (rest caller)⟩
    rw [safe_iff_settled]
    exact Ledger.settled_iff_throughout supported events fresh init_blank ran resting

section Evaluation

variable [Fintype Caller] (server : KcpReleaseServer Caller Peer)

instance (connectId : Nat) : Decidable (server.NoneErasing connectId) := by
  unfold NoneErasing
  infer_instance

instance (caller : Caller) (connectId : Nat) : Decidable (server.NoneBeside caller connectId) := by
  unfold NoneBeside
  infer_instance

instance (action : KcpReleaseAction Caller Peer) : Decidable (server.Orderly action) := by
  unfold Orderly
  split <;> infer_instance

instance : Decidable server.AtRest := by
  unfold AtRest
  infer_instance

end Evaluation

def firstSession : List (KcpReleaseAction Bool Bool) :=
  [.receiveFrom false true 0 true .kcpIdCreate, .refresh false, .answer false]

def closed (caller : Bool) : List (KcpReleaseAction Bool Bool) :=
  [.close caller 1, .release caller, .erase caller]

theorem closed_after_use_safe : ∃ last,
    run step init (firstSession ++ [.doWrite true 1, .lockWrite true, .unlockWrite true] ++
      closed true) = some last ∧ last.AtRest ∧ last.Safe :=
  ⟨_, (Option.some_get (by decide)).symm, by decide,
    ((close_safe_iff_orderly (Option.some_get (by decide)).symm).2 (by decide)).mpr (by decide)⟩

theorem closed_twice_late_and_beside :
    (run step init (firstSession ++ closed true ++ [.close true 1])).map
      (fun server => server.nullDereferences) = some 1 ∧
    (run step init (firstSession ++ [.receiveFrom false true 0 true .data, .lockUpdate false,
        .unlockUpdate false true] ++ closed true ++ [.lockConfirm false, .unlockConfirm false])).map
      (fun server => server.lateUses) = some 1 ∧
    (run step init (firstSession ++ [.closeServer false, .closeNext false, .close true 1,
        .release false, .release true])).map
      (fun server => server.released 1) = some 2 := by
  decide

end KcpReleaseServer

end PssAsio
