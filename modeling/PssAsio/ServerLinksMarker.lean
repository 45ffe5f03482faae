import Mathlib.Data.List.Perm.Basic
import PssAsio.ServerLinksCore
import PssAsio.TransitionRuns

/-!
Markers of connecting servers that are left behind.
-/

namespace PssAsio

open TransitionRuns

namespace ServerLinks

open CommunicationService

variable (links : ServerLinks)

def Attempting (serverId : Nat) : Prop :=
  ∃ session ∈ links.sessions, session.serverId = serverId ∧ session.phase = .connecting
  deriving Decidable

def MarkersAttempted : Prop :=
  ∀ serverId ∈ links.service.serverIsConnectList, links.Attempting serverId
  deriving Decidable

variable (sslSupport : Bool)

def StartClearsMarker (links : ServerLinks) (connectInfo : CommunicationIoInfo) (outcome : Bool) :
    Prop :=
  let serverId := connectInfo.ioInfo.serverId
  match startResult sslSupport connectInfo.ioType outcome with
  | .connecting => True
  | .connected => 0 < serverId ∨ links.Attempting serverId
  | .unsupported | .failed => links.Attempting serverId

def EndClearsMarker (session : Nat) (failed : Bool) : Prop :=
  match links.sessions[session]? with
  | none => True
  | some record => failed ∨ record.serverId = 0 →
      record.serverId ∈ links.service.serverIsConnectList →
        { links with sessions := links.sessions.eraseIdx session }.Attempting record.serverId

def RequestClearsMarker (links : ServerLinks) :
    Option (CommunicationIoInfo × Bool) → Prop
  | none => True
  | some (connectInfo, outcome) => links.service.MayStart connectInfo →
      links.StartClearsMarker sslSupport connectInfo outcome

def AttemptClearsMarker (links : ServerLinks) : LinkAction → Prop
  | .handleConnect session failed => links.EndClearsMarker session failed
  | action => links.RequestClearsMarker sslSupport (links.request action)

instance (links : ServerLinks) (connectInfo : CommunicationIoInfo) (outcome : Bool) :
    Decidable (links.StartClearsMarker sslSupport connectInfo outcome) := by
  unfold StartClearsMarker
  split <;> infer_instance

instance (session : Nat) (failed : Bool) : Decidable (links.EndClearsMarker session failed) := by
  unfold EndClearsMarker
  exact match links.sessions[session]? with
    | none => inferInstanceAs (Decidable True)
    | some _ => inferInstanceAs (Decidable (_ → _ → Attempting _ _))

instance (links : ServerLinks) (asked : Option (CommunicationIoInfo × Bool)) :
    Decidable (links.RequestClearsMarker sslSupport asked) := by
  unfold RequestClearsMarker
  split <;> infer_instance

instance (links : ServerLinks) (action : LinkAction) :
    Decidable (links.AttemptClearsMarker sslSupport action) := by
  unfold AttemptClearsMarker
  split <;> infer_instance

variable {links next : ServerLinks} {before : LinkSession} {session serverId : Nat}
  {sslSupport}

theorem attempting_append {record : LinkSession}
    (appended : next.sessions = links.sessions ++ [record]) (serverId : Nat) :
    next.Attempting serverId ↔ links.Attempting serverId ∨
      record.serverId = serverId ∧ record.phase = .connecting := by
  simp [Attempting, appended, or_and_right, exists_or]

theorem attempting_set {after : LinkSession} (found : links.sessions[session]? = some before)
    (replaced : next.sessions = links.sessions.set session after)
    (ended : after.phase ≠ .connecting) (serverId : Nat) :
    next.Attempting serverId ↔
      { links with sessions := links.sessions.eraseIdx session }.Attempting serverId := by
  obtain ⟨bound, -⟩ := List.getElem?_eq_some_iff.mp found
  have same := List.set_perm_cons_eraseIdx bound after
  simp only [Attempting, replaced, same.mem_iff, List.mem_cons, or_and_right, exists_or,
    exists_eq_left, ended, and_false, false_or]

theorem attempting_eraseIdx (found : links.sessions[session]? = some before)
    (apart : before.serverId ≠ serverId ∨ before.phase ≠ .connecting)
    (attempted : links.Attempting serverId) :
    { links with sessions := links.sessions.eraseIdx session }.Attempting serverId := by
  obtain ⟨attempt, member, server, phase⟩ := attempted
  obtain ⟨bound, rfl⟩ := List.getElem?_eq_some_iff.mp found
  have order := (List.getElem_cons_eraseIdx_perm bound).mem_iff.mpr member
  rcases List.mem_cons.mp order with rfl | left
  · exact absurd apart (by simp [server, phase])
  · exact ⟨attempt, left, server, phase⟩

theorem attempting_of_ended {after : LinkSession} (found : links.sessions[session]? = some before)
    (past : before.phase ≠ .connecting) (ended : after.phase ≠ .connecting)
    (replaced : next.sessions = links.sessions.set session after)
    (attempted : links.Attempting serverId) : next.Attempting serverId := by
  rw [attempting_set found replaced ended]
  exact attempting_eraseIdx found (.inr past) attempted

theorem markersAttempted_insert (holds : links.MarkersAttempted)
    (marked : next.service.serverIsConnectList = insert serverId links.service.serverIsConnectList)
    (attempts : ∀ other, next.Attempting other ↔ links.Attempting other) :
    next.MarkersAttempted ↔ links.Attempting serverId := by
  simp only [MarkersAttempted, marked, Finset.mem_insert, attempts]
  constructor
  · intro always
    exact always serverId (.inl rfl)
  · rintro attempted other (rfl | member)
    · exact attempted
    · exact holds other member

theorem markersAttempted_start (holds : links.MarkersAttempted) (connectInfo : CommunicationIoInfo)
    (outcome : Bool) (started : (links.service.ioConnect connectInfo).2 = true) :
    ({ links with service := (links.service.ioConnect connectInfo).1 }.start sslSupport connectInfo
      outcome).MarkersAttempted ↔ links.StartClearsMarker sslSupport connectInfo outcome := by
  have marked := (ioConnect_marker links.service connectInfo).1
  have unmarked := (ioConnect_started.mp started).2
  simp only [started, if_true] at marked
  simp only [start, StartClearsMarker]
  cases startResult sslSupport connectInfo.ioType outcome with
  | unsupported => exact markersAttempted_insert holds marked fun _ => Iff.rfl
  | failed =>
    apply markersAttempted_insert holds
    · rw [(setSession_marker ..).1, marked]
    · intro other
      rw [attempting_append rfl]
      simp [Attempting]
  | connecting =>
    refine iff_of_true ?_ trivial
    intro other member
    rw [attempting_append rfl]
    simp only [setSession_marker, marked, Finset.mem_insert] at member
    rcases member with rfl | member
    · exact .inr ⟨rfl, rfl⟩
    · exact .inl (holds other member)
  | connected =>
    have attempts : ∀ (after : ServerLinks) other, after.sessions = links.sessions ++
        [⟨connectInfo.ioInfo.serverId, connectInfo.ioType,
          .connected (links.connectCounter + 1), false⟩] →
        (after.Attempting other ↔ links.Attempting other) := by
      intro after other appended
      rw [attempting_append appended]
      simp
    by_cases positive : 0 < connectInfo.ioInfo.serverId
    · refine iff_of_true ?_ (.inl positive)
      intro other member
      rw [attempts _ other rfl]
      simp only [setSession_marker, linkSession_marker, positive, if_true, marked,
        Finset.erase_insert unmarked] at member
      exact holds other member
    · simp only [positive, false_or]
      apply markersAttempted_insert holds
      · simp only [setSession_marker, linkSession_marker, positive, if_false, marked]
      · intro other
        exact attempts _ other rfl

theorem markersAttempted_ioConnect (holds : links.MarkersAttempted)
    (connectInfo : CommunicationIoInfo) (outcome : Bool) :
    (links.ioConnect sslSupport connectInfo outcome).MarkersAttempted ↔
      (links.service.MayStart connectInfo →
        links.StartClearsMarker sslSupport connectInfo outcome) := by
  rw [← ioConnect_started]
  simp only [ioConnect]
  split
  · rename_i started
    rw [markersAttempted_start holds connectInfo outcome started]
    simp [started]
  · rename_i refused
    refine iff_of_true ?_ (fun started => absurd started refused)
    have marked := (ioConnect_marker links.service connectInfo).1
    simp only [refused, Bool.false_eq_true, if_false] at marked
    intro other member
    rw [marked] at member
    exact holds other member

theorem markersAttempted_answer (holds : links.MarkersAttempted)
    (asked : Option (CommunicationIoInfo × Bool)) :
    (links.answer sslSupport asked).MarkersAttempted ↔
      links.RequestClearsMarker sslSupport asked := by
  cases asked with
  | none => exact iff_of_true holds trivial
  | some call => exact markersAttempted_ioConnect holds call.1 call.2

theorem markersAttempted_handleConnect {record : LinkSession} (holds : links.MarkersAttempted)
    (found : links.sessions[session]? = some record) (failed : Bool) :
    (links.handleConnect session record failed).MarkersAttempted ↔
      links.EndClearsMarker session failed := by
  have kept : ∀ after : ServerLinks,
      (∀ other, after.Attempting other ↔
        { links with sessions := links.sessions.eraseIdx session }.Attempting other) →
      after.service.serverIsConnectList = links.service.serverIsConnectList →
      (after.MarkersAttempted ↔ (record.serverId ∈ links.service.serverIsConnectList →
        { links with sessions := links.sessions.eraseIdx session }.Attempting
          record.serverId)) := by
    intro after attempts marked
    simp only [MarkersAttempted, marked, attempts]
    constructor
    · intro always member
      exact always record.serverId member
    · intro own other member
      by_cases same : other = record.serverId
      · exact same ▸ own (same ▸ member)
      · exact attempting_eraseIdx found (.inl (Ne.symm same)) (holds other member)
  simp only [EndClearsMarker, found, handleConnect]
  cases failed with
  | true =>
    simp only [if_true, true_or, true_implies]
    exact kept _ (attempting_set found rfl (by simp)) rfl
  | false =>
    simp only [Bool.false_eq_true, if_false, false_or]
    by_cases zero : record.serverId = 0
    · rw [forall_prop_of_true zero]
      apply kept _ (attempting_set found rfl (by simp))
      simp [linkSession_marker, zero]
    · refine iff_of_true ?_ (fun none => absurd none zero)
      intro other member
      rw [attempting_set found rfl (by simp)]
      simp only [linkSession_marker, Nat.pos_of_ne_zero zero, if_true, Finset.mem_erase] at member
      exact attempting_eraseIdx found (.inl (Ne.symm member.1)) (holds other member.2)

theorem markersAttempted_step {action : LinkAction} (holds : links.MarkersAttempted)
    (stepped : links.step sslSupport action = some next) :
    next.MarkersAttempted ↔ links.AttemptClearsMarker sslSupport action := by
  cases stepped_of_step stepped with
  | answered _ call =>
    cases action <;> first
      | exact markersAttempted_answer holds _
      | cases call
  | visited outcome kind serverId rest => exact markersAttempted_answer holds _
  | runServerToServer order | runCheckTask order => exact iff_of_true holds trivial
  | closeConnect serverId =>
    refine iff_of_true ?_ trivial
    intro other member
    rw [(closeConnect_marker links.service serverId).1] at member
    exact holds other member
  | handleConnect session failed record found =>
    exact markersAttempted_handleConnect holds found failed
  | disconnected session record after found ended =>
    refine iff_of_true ?_ trivial
    intro other member
    obtain ⟨connectId, ⟨was, now⟩ | ⟨was, now⟩⟩ := ended <;>
      exact attempting_of_ended found (by simp [was]) (by simp [now]) rfl (holds other member)
  | deleteThreadSession session record connectId found free registered =>
    refine iff_of_true ?_ trivial
    intro other member
    have marked : other ∈ links.service.serverIsConnectList := by
      simp only [deleteThreadSession, linkSession_marker] at member
      split at member
      · exact Finset.mem_of_mem_erase member
      · exact member
    have past : record.phase ≠ .connecting := by
      rcases registered with phase | phase | phase <;> simp [phase]
    exact attempting_of_ended found past (by simp) rfl (holds other marked)

/-- Markers are left behind exactly by attempts that fail, or succeed at once without a positive id.
-/
theorem markersAttempted_iff_attempts_clear_marker {sslSupport : Bool} {finish : ServerLinks}
    {actions : List LinkAction} (ran : run (step sslSupport) init actions = some finish) :
    Always (step sslSupport) MarkersAttempted init actions ↔
      Throughout (step sslSupport) (AttemptClearsMarker sslSupport) init actions := by
  have empty : init.MarkersAttempted := by
    intro serverId member
    cases member
  apply always_iff_throughout (fun _ _ _ _ _ => trivial) _ trivial empty ran
  intro links action next _ holds stepped
  exact markersAttempted_step holds stepped

theorem markersAttempted_tcp_connect :
    Always (step false) MarkersAttempted init
      [.connectIoServer ⟨1, true⟩ .connectIoTcp true, .runServerToServer [1], .visit true,
        .handleConnect 0 false] :=
  (markersAttempted_iff_attempts_clear_marker (Option.some_get (by decide)).symm).mpr (by decide)

theorem marker_outlives_failed_attempt :
    (run (step false) init [.connectIoServer ⟨1, true⟩ .connectIoTcp true, .runServerToServer [1],
      .visit true, .handleConnect 0 true]).map (fun links =>
        (links.service.serverIsConnectList, links.sessions.map LinkSession.phase)) =
      some ({1}, [.failed]) := by
  decide

end ServerLinks

end PssAsio
