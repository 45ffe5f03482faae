import PssAsio.ServerLinksCore

/-!
How the records of `CCommunicationService` hold on to the live sessions.
-/

namespace PssAsio

open Function

def LinkPhase.isLive : LinkPhase → Bool
  | .connecting | .connected _ => true
  | .lost _ | .closed _ | .failed => false

namespace CommunicationService

variable (service : CommunicationService)

def entrySession (serverId : Nat) : Option Nat :=
  (service.communicationList.lookup serverId).bind CommunicationIoInfo.session

def Keyed : Prop :=
  ∀ serverId info, service.communicationList.lookup serverId = some info →
    info.ioInfo.serverId = serverId

variable {serverId : Nat} {service : CommunicationService}

theorem entrySession_insert {next : CommunicationService} (info : CommunicationIoInfo)
    (inserted : next.communicationList = service.communicationList.insert serverId info) :
    next.entrySession = update service.entrySession serverId info.session := by
  funext other
  by_cases same : other = serverId
  · subst same
    simp [entrySession, inserted]
  · simp [entrySession, inserted, update_of_ne same, AList.lookup_insert_ne same]

theorem keyed_insert {next : CommunicationService} (keyed : service.Keyed)
    (info : CommunicationIoInfo)
    (inserted : next.communicationList = service.communicationList.insert serverId info)
    (own : info.ioInfo.serverId = serverId) : next.Keyed := by
  intro other found listed
  rw [inserted] at listed
  by_cases same : other = serverId
  · subst same
    rw [AList.lookup_insert, Option.some.injEq] at listed
    exact listed ▸ own
  · rw [AList.lookup_insert_ne same] at listed
    exact keyed other found listed

theorem setSession_entries (keyed : service.Keyed)
    (listed : (service.communicationList.lookup serverId).isSome) (session : Nat) :
    (service.setSession serverId session).Keyed ∧
      (service.setSession serverId session).entrySession =
        update service.entrySession serverId (some session) := by
  obtain ⟨info, found⟩ := Option.isSome_iff_exists.mp listed
  have stored : service.setSession serverId session = { service with
      communicationList := service.communicationList.insert serverId
        { info with session := some session } } := by
    simp only [setSession, found]
  rw [stored]
  refine ⟨?_, entrySession_insert { info with session := some session } rfl⟩
  exact keyed_insert keyed { info with session := some session } rfl (keyed serverId info found)

theorem setConnectId_entries (keyed : service.Keyed) (serverId connectId : Nat) :
    (service.setConnectId serverId connectId).Keyed ∧
      (service.setConnectId serverId connectId).entrySession =
        update service.entrySession serverId
          (if connectId = 0 then none else service.entrySession serverId) ∧
      ((service.communicationList.lookup serverId).isSome →
        ((service.setConnectId serverId connectId).communicationList.lookup serverId).isSome) := by
  cases found : service.communicationList.lookup serverId with
  | none =>
    have absent : service.entrySession serverId = none := by simp [entrySession, found]
    simp only [setConnectId, found]
    refine ⟨keyed, ?_, nofun⟩
    rw [absent, ite_self, ← absent, update_eq_self]
    rfl
  | some info =>
    have present : service.entrySession serverId = info.session := by simp [entrySession, found]
    have own := keyed serverId info found
    by_cases zero : connectId = 0
    · simp only [setConnectId, found, zero, if_true]
      refine ⟨keyed_insert keyed _ rfl own, ?_, by simp⟩
      exact entrySession_insert { info with connectId := 0, session := none } rfl
    · simp only [setConnectId, found, zero, if_false, present]
      refine ⟨keyed_insert keyed _ rfl own, ?_, by simp⟩
      exact entrySession_insert { info with connectId := connectId } rfl

theorem linkSession_entries (keyed : service.Keyed) (serverId connectId : Nat) :
    (service.linkSession serverId connectId).Keyed ∧
      (service.linkSession serverId connectId).entrySession =
        update service.entrySession serverId
          (if 0 < serverId ∧ connectId = 0 then none else service.entrySession serverId) ∧
      ((service.communicationList.lookup serverId).isSome →
        ((service.linkSession serverId connectId).communicationList.lookup serverId).isSome) := by
  simp only [linkSession]
  split
  · rename_i positive
    simp only [positive, true_and]
    exact setConnectId_entries keyed serverId connectId
  · rename_i zero
    simp only [zero, false_and, if_false, update_eq_self]
    exact ⟨keyed, trivial, fun listed => listed⟩

theorem marked_linkSession {other : Nat} (apart : other ≠ serverId) (connectId : Nat)
    (marked : other ∈ service.serverIsConnectList) :
    other ∈ (service.linkSession serverId connectId).serverIsConnectList := by
  rw [(ServerLinks.linkSession_marker service serverId connectId).1]
  split
  · exact Finset.mem_erase.mpr ⟨apart, marked⟩
  · exact marked

theorem closeConnect_entries (keyed : service.Keyed) (serverId : Nat) :
    (service.closeConnect serverId).Keyed ∧
      (service.closeConnect serverId).entrySession =
        update service.entrySession serverId none := by
  have erased : (service.closeConnect serverId).communicationList =
      service.communicationList.erase serverId := by
    simp only [closeConnect]
    split <;> rfl
  constructor
  · intro other info listed
    rw [erased] at listed
    by_cases same : other = serverId
    · subst same
      rw [AList.lookup_erase] at listed
      cases listed
    · rw [AList.lookup_erase_ne same] at listed
      exact keyed other info listed
  · funext other
    by_cases same : other = serverId
    · subst same
      simp [entrySession, erased]
    · simp [entrySession, erased, update_of_ne same, AList.lookup_erase_ne same]

end CommunicationService

namespace ServerLinks

open CommunicationService

def liveCount (links : ServerLinks) (serverId : Nat) : Nat :=
  links.sessions.countP fun session => session.serverId == serverId && session.phase.isLive

def NoOtherLive (links : ServerLinks) (session : Nat) (record : LinkSession) : Prop :=
  { links with sessions := links.sessions.eraseIdx session }.liveCount record.serverId = 0

variable {links : ServerLinks} {serverId session : Nat} {sslSupport : Bool} {record : LinkSession}

theorem liveCount_eq_zero : links.liveCount serverId = 0 ↔ ∀ (session : Nat) (record : LinkSession),
      links.sessions[session]? = some record → record.serverId = serverId →
        ¬record.phase.isLive := by
  simp only [liveCount, List.countP_eq_zero, Bool.and_eq_true, beq_iff_eq, not_and,
    List.mem_iff_getElem?]
  constructor
  · intro absent session record found
    exact absent record ⟨session, found⟩
  · rintro absent record ⟨session, found⟩
    exact absent session record found

structure Held (links : ServerLinks) : Prop where
  keyed : links.service.Keyed
  held : ∀ session record, links.sessions[session]? = some record → record.phase.isLive →
    links.service.entrySession record.serverId = some session
  marked : ∀ (session : Nat) record, links.sessions[session]? = some record →
    record.phase = .connecting → record.serverId ∈ links.service.serverIsConnectList
  flagged : ∀ (session : Nat) record connectId, links.sessions[session]? = some record →
    record.phase = .connected connectId → record.isConnect
  asleep : links.service.communicationIsRun = false → links.sessions = []

theorem held_append {next : ServerLinks} (holds : links.Held) (record : LinkSession)
    (appended : next.sessions = links.sessions ++ [record])
    (alone : links.liveCount record.serverId = 0) (keyed : next.service.Keyed) (entries :
      next.service.entrySession = update links.service.entrySession record.serverId (some
      links.sessions.length)) (markers : ∀ other ≠ record.serverId, other ∈
      links.service.serverIsConnectList → other ∈ next.service.serverIsConnectList)
    (ownMarker : record.phase = .connecting → record.serverId ∈ next.service.serverIsConnectList)
    (ownFlag : ∀ connectId, record.phase = .connected connectId → record.isConnect)
    (running : next.service.communicationIsRun = true) : next.Held := by
  have located : ∀ {session : Nat} {found}, next.sessions[session]? = some found →
      links.sessions[session]? = some found ∨
        session = links.sessions.length ∧ found = record := by
    intro session found member
    rw [appended, List.getElem?_append] at member
    split at member
    · exact .inl member
    · rename_i beyond
      right
      obtain ⟨zero, rfl⟩ := List.getElem?_eq_some_iff.mp member
      simp only [List.length_singleton] at zero
      exact ⟨by omega, by simp⟩
  have apart := liveCount_eq_zero.mp alone
  refine ⟨keyed, ?_, ?_, ?_, ?_⟩
  · intro session found member live
    rw [entries]
    rcases located member with old | ⟨rfl, rfl⟩
    · have other : found.serverId ≠ record.serverId := fun same =>
        apart session found old same live
      rw [update_of_ne other]
      exact holds.held session found old live
    · exact update_self ..
  · intro session found member phase
    rcases located member with old | ⟨rfl, rfl⟩
    · have other : found.serverId ≠ record.serverId := fun same =>
        apart session found old same (by simp [phase, LinkPhase.isLive])
      exact markers _ other (holds.marked session found old phase)
    · exact ownMarker phase
  · intro session found connectId member phase
    rcases located member with old | ⟨rfl, rfl⟩
    · exact holds.flagged session found connectId old phase
    · exact ownFlag connectId phase
  · intro sleeping
    rw [running] at sleeping
    cases sleeping

theorem held_set {next : ServerLinks} (holds : links.Held) {before : LinkSession}
    (found : links.sessions[session]? = some before) (after : LinkSession)
    (replaced : next.sessions = links.sessions.set session after) (keyed : next.service.Keyed)
    (others : ∀ other record, other ≠ session → links.sessions[other]? = some record →
      record.phase.isLive → next.service.entrySession record.serverId = links.service.entrySession
      record.serverId ∧ (record.serverId ∈ links.service.serverIsConnectList → record.serverId ∈
      next.service.serverIsConnectList))
    (own : after.phase.isLive → next.service.entrySession after.serverId = some session)
    (ended : after.phase ≠ .connecting)
    (flag : ∀ connectId, after.phase = .connected connectId → after.isConnect)
    (running : next.service.communicationIsRun = links.service.communicationIsRun) : next.Held := by
  have located : ∀ {other : Nat} {record}, next.sessions[other]? = some record →
      other ≠ session ∧ links.sessions[other]? = some record ∨
        other = session ∧ record = after := by
    intro other record member
    rw [replaced, List.getElem?_set] at member
    split at member
    · rename_i same
      split at member
      · cases member
        exact .inr ⟨same.symm, rfl⟩
      · cases member
    · rename_i different
      exact .inl ⟨Ne.symm different, member⟩
  refine ⟨keyed, ?_, ?_, ?_, ?_⟩
  · intro other record member live
    rcases located member with ⟨different, old⟩ | ⟨rfl, rfl⟩
    · rw [(others other record different old live).1]
      exact holds.held other record old live
    · exact own live
  · intro other record member phase
    rcases located member with ⟨different, old⟩ | ⟨rfl, rfl⟩
    · have live : record.phase.isLive := by simp [phase, LinkPhase.isLive]
      exact (others other record different old live).2 (holds.marked other record old phase)
    · exact absurd phase ended
  · intro other record connectId member phase
    rcases located member with ⟨different, old⟩ | ⟨rfl, rfl⟩
    · exact holds.flagged other record connectId old phase
    · exact flag connectId phase
  · intro sleeping
    rw [running] at sleeping
    have none := holds.asleep sleeping
    rw [none] at found
    cases found

theorem startResult_connected {outcome : Bool} {ioType : ConnectIoType}
    (connected : startResult sslSupport ioType outcome = .connected) {phase : LinkPhase}
    {flag : Bool} : (⟨serverId, ioType, phase, flag⟩ : LinkSession).isConnect := by
  cases ioType with
  | connectIoTcp => cases connected
  | _ => rfl

variable (holds : links.Held)

include holds

theorem held_stored (connectInfo : CommunicationIoInfo)
    (consistent : connectInfo.session = links.service.entrySession connectInfo.ioInfo.serverId) :
    ({ links with service := (links.service.ioConnect connectInfo).1 } : ServerLinks).Held := by
  have stored := (ioConnect_lists links.service connectInfo).1
  obtain ⟨marker, running⟩ := ioConnect_marker links.service connectInfo
  have entries := entrySession_insert connectInfo stored
  rw [consistent, update_eq_self] at entries
  refine ⟨keyed_insert holds.keyed connectInfo stored rfl, ?_, ?_, holds.flagged, ?_⟩
  · intro session record found live
    simp only [entries]
    exact holds.held session record found live
  · intro session record found phase
    have before := holds.marked session record found phase
    simp only [marker]
    split
    · exact Finset.mem_insert_of_mem before
    · exact before
  · intro sleeping
    exact holds.asleep (running ▸ sleeping)

theorem held_start (connectInfo : CommunicationIoInfo) (outcome : Bool)
    (running : links.service.communicationIsRun = true)
    (listed : (links.service.communicationList.lookup connectInfo.ioInfo.serverId).isSome)
    (marked : connectInfo.ioInfo.serverId ∈ links.service.serverIsConnectList)
    (alone : links.liveCount connectInfo.ioInfo.serverId = 0) :
    (links.start sslSupport connectInfo outcome).Held := by
  have entered := setSession_entries holds.keyed listed links.sessions.length
  obtain ⟨marker, kept⟩ :=
    setSession_marker links.service connectInfo.ioInfo.serverId links.sessions.length
  simp only [start]
  cases result : startResult sslSupport connectInfo.ioType outcome with
  | unsupported => exact holds
  | connecting =>
    apply held_append holds ⟨connectInfo.ioInfo.serverId, connectInfo.ioType, .connecting, false⟩
      rfl alone entered.1 entered.2
    · intro other _ member
      exact marker ▸ member
    · intro _
      exact marker ▸ marked
    · exact nofun
    · exact kept.trans running
  | failed =>
    apply held_append holds ⟨connectInfo.ioInfo.serverId, connectInfo.ioType, .failed, false⟩
      rfl alone entered.1 entered.2
    · intro other _ member
      exact marker ▸ member
    · exact nofun
    · exact nofun
    · exact kept.trans running
  | connected =>
    obtain ⟨keyed, entries, present⟩ := linkSession_entries holds.keyed
      connectInfo.ioInfo.serverId (links.connectCounter + 1)
    have awake := (linkSession_marker links.service connectInfo.ioInfo.serverId
      (links.connectCounter + 1)).2
    simp only [Nat.succ_ne_zero, and_false, if_false, update_eq_self] at entries
    have connected := setSession_entries keyed (present listed) links.sessions.length
    rw [entries] at connected
    apply held_append holds ⟨connectInfo.ioInfo.serverId, connectInfo.ioType,
      .connected (links.connectCounter + 1), false⟩ rfl alone connected.1 connected.2
    · intro other different member
      simp only [setSession_marker]
      exact marked_linkSession different _ member
    · exact nofun
    · intro connectId _
      exact startResult_connected result
    · simp only [setSession_marker]
      exact awake.trans running

theorem held_ioConnect (connectInfo : CommunicationIoInfo) (outcome : Bool)
    (consistent : connectInfo.session = links.service.entrySession connectInfo.ioInfo.serverId)
    (alone : links.service.MayStart connectInfo → links.liveCount connectInfo.ioInfo.serverId = 0) :
    (links.ioConnect sslSupport connectInfo outcome).Held := by
  have stored := held_stored holds connectInfo consistent
  simp only [ioConnect]
  split
  · rename_i started
    apply held_start stored connectInfo outcome
    · rw [(ioConnect_marker ..).2]
      exact (ioConnect_started.mp started).1
    · simp [(ioConnect_lists ..).1]
    · simp [ioConnect_marker, started]
    · exact alone (ioConnect_started.mp started)
  · exact stored

theorem liveCount_of_no_entry
    (absent : links.service.entrySession serverId = none) : links.liveCount serverId = 0 := by
  apply liveCount_eq_zero.mpr
  rintro session record found rfl live
  rw [holds.held session record found live] at absent
  cases absent

theorem check_alone {info : CommunicationIoInfo}
    (listed : links.service.communicationList.lookup serverId = some info)
    (needed : links.needsReconnect info) (unmarked : serverId ∉ links.service.serverIsConnectList) :
    links.liveCount serverId = 0 := by
  apply liveCount_eq_zero.mpr
  rintro session record found rfl live
  have entry := holds.held session record found live
  simp only [entrySession, listed, Option.bind_some] at entry
  simp only [needsReconnect, entry, sessionIsConnect, found, Bool.and_eq_true,
    Bool.not_eq_true'] at needed
  cases phase : record.phase with
  | connecting => exact unmarked (holds.marked session record found phase)
  | connected connectId =>
    have flagged := holds.flagged session record connectId found phase
    rw [needed.1] at flagged
    cases flagged
  | lost | closed | failed => simp [phase, LinkPhase.isLive] at live

theorem held_handleConnect (found : links.sessions[session]? = some record)
    (waiting : record.phase = .connecting) (failed : Bool) :
    (links.handleConnect session record failed).Held := by
  have live : record.phase.isLive := by simp [waiting, LinkPhase.isLive]
  have entry := holds.held session record found live
  cases failed with
  | true =>
    exact held_set holds found { record with phase := .failed, connectFlag := false } rfl
      holds.keyed (fun _ _ _ _ _ => ⟨rfl, id⟩) nofun nofun nofun rfl
  | false =>
    obtain ⟨keyed, entries, -⟩ :=
      linkSession_entries holds.keyed record.serverId (links.connectCounter + 1)
    have awake := (linkSession_marker links.service record.serverId (links.connectCounter + 1)).2
    simp only [Nat.succ_ne_zero, and_false, if_false, update_eq_self] at entries
    apply held_set holds found
      { record with phase := .connected (links.connectCounter + 1), connectFlag := true } rfl
      keyed
    · intro other held different member living
      refine ⟨congrFun entries _, ?_⟩
      have apart : held.serverId ≠ record.serverId := by
        intro same
        have twice := holds.held other held member living
        rw [same, entry, Option.some.injEq] at twice
        exact different twice.symm
      exact marked_linkSession apart _
    · intro _
      exact (congrFun entries _).trans entry
    · exact nofun
    · intro connectId _
      simp only [LinkSession.isConnect]
      split <;> rfl
    · exact awake

theorem held_disconnected {after : LinkSession} (found : links.sessions[session]? = some record)
    (quiet : after.phase.isLive = false) : (links.updateSession session after).Held := by
  refine held_set holds found after ?_ holds.keyed (fun _ _ _ _ _ => ⟨rfl, id⟩) ?_ ?_ ?_ ?_
  · rfl
  · simp [quiet]
  · intro phase
    simp [phase, LinkPhase.isLive] at quiet
  · intro connectId phase
    simp [phase, LinkPhase.isLive] at quiet
  · rfl

theorem held_deleteThreadSession (found : links.sessions[session]? = some record) (connectId : Nat)
    (last : record.serverId = 0 ∨ links.NoOtherLive session record) :
    (links.deleteThreadSession session record connectId).Held := by
  obtain ⟨keyed, entries, -⟩ := linkSession_entries holds.keyed record.serverId 0
  have awake := (linkSession_marker links.service record.serverId 0).2
  apply held_set holds found { record with phase := .closed connectId } rfl keyed
  · intro other held different member living
    rcases last with zero | alone
    · simp [deleteThreadSession, linkSession, zero]
    · have apart : held.serverId ≠ record.serverId := by
        intro same
        have remains : held ∈ links.sessions.eraseIdx session :=
          List.mem_eraseIdx_iff_getElem?.mpr ⟨other, different, member⟩
        obtain ⟨place, located⟩ := List.mem_iff_getElem?.mp remains
        exact liveCount_eq_zero.mp alone place held located same living
      constructor
      · simp [deleteThreadSession, entries, update_of_ne apart]
      · exact marked_linkSession apart 0
  · exact nofun
  · exact nofun
  · exact nofun
  · exact awake

theorem held_closeConnect (unused : links.liveCount serverId = 0) :
    ({ links with service := links.service.closeConnect serverId } : ServerLinks).Held := by
  obtain ⟨keyed, entries⟩ := closeConnect_entries holds.keyed serverId
  obtain ⟨marker, awake⟩ := closeConnect_marker links.service serverId
  refine ⟨keyed, ?_, ?_, holds.flagged, ?_⟩
  · intro session record found live
    have apart : record.serverId ≠ serverId := fun same =>
      liveCount_eq_zero.mp unused session record found same live
    simp only [entries, update_of_ne apart]
    exact holds.held session record found live
  · intro session record found phase
    simp only [marker]
    exact holds.marked session record found phase
  · intro sleeping
    exact holds.asleep (awake ▸ sleeping)

end ServerLinks

end PssAsio
