import Mathlib.Data.List.Perm.Basic
import PssAsio.ServerLinksHeld
import PssAsio.TransitionRuns

/-!
How many sessions of one server id are connecting or connected at a time.
-/

namespace PssAsio

open TransitionRuns

namespace ServerLinks

open CommunicationService

variable (links : ServerLinks)

def LinkedOnce : Prop := ∀ serverId, links.liveCount serverId ≤ 1

def StartResult.isLive : StartResult → Bool
  | .connecting | .connected => true
  | .unsupported | .failed => false

def StartsAlone (sslSupport : Bool) (links : ServerLinks) (action : LinkAction) : Prop :=
  match links.request action with
  | none => True
  | some (connectInfo, outcome) => links.service.MayStart connectInfo →
      StartResult.isLive (startResult sslSupport connectInfo.ioType outcome) →
        links.liveCount connectInfo.ioInfo.serverId = 0

def Disciplined : LinkAction → Prop
  | .addConnect ioInfo _ _ => links.service.isExist ioInfo.serverId = false
  | .runServerToServer _ => links.service.communicationIsRun = false
  | .closeConnect serverId => links.liveCount serverId = 0
  | .resetConnect serverId _ =>
      serverId ∈ links.service.serverIsConnectList ∨ links.liveCount serverId = 0
  | .sendIoMessage connectId _ =>
      let serverId := links.service.getServerId connectId
      links.isRegistered connectId ∨ serverId ∈ links.service.serverIsConnectList ∨
        links.liveCount serverId = 0
  | .deleteThreadSession session =>
      match links.sessions[session]? with
      | none => True
      | some record => record.serverId = 0 ∨ links.NoOtherLive session record
  | _ => True

instance (session : Nat) (record : LinkSession) : Decidable (links.NoOtherLive session record) :=
  inferInstanceAs (Decidable (_ = 0))

instance (action : LinkAction) : Decidable (links.Disciplined action) := by
  unfold Disciplined
  (repeat' split) <;> infer_instance

instance (sslSupport : Bool) (links : ServerLinks) (action : LinkAction) :
    Decidable (links.StartsAlone sslSupport action) := by
  unfold StartsAlone
  split <;> infer_instance

variable {links next : ServerLinks} {sslSupport : Bool} {action : LinkAction} {serverId : Nat}

theorem liveCount_append {record : LinkSession}
    (appended : next.sessions = links.sessions ++ [record]) (serverId : Nat) :
    next.liveCount serverId = links.liveCount serverId +
      if record.serverId = serverId ∧ record.phase.isLive then 1 else 0 := by
  simp [liveCount, appended, List.countP_append, List.countP_singleton]

theorem liveCount_set_le {session : Nat} {before : LinkSession}
    (found : links.sessions[session]? = some before) (after : LinkSession)
    (replaced : next.sessions = links.sessions.set session after)
    (server : after.serverId = before.serverId) (live : after.phase.isLive → before.phase.isLive)
    (serverId : Nat) : next.liveCount serverId ≤ links.liveCount serverId := by
  obtain ⟨bound, rfl⟩ := List.getElem?_eq_some_iff.mp found
  have counted : ∀ relevant : LinkSession → Bool, relevant links.sessions[session] →
      0 < links.sessions.countP relevant := by
    intro relevant member
    exact List.countP_pos_iff.mpr ⟨_, List.getElem_mem bound, member⟩
  simp only [liveCount, replaced, List.countP_set bound, server]
  grind

theorem linkedOnce_append (holds : links.LinkedOnce) (record : LinkSession)
    (appended : next.sessions = links.sessions ++ [record]) :
    next.LinkedOnce ↔ (record.phase.isLive → links.liveCount record.serverId = 0) := by
  simp only [LinkedOnce, liveCount_append appended]
  constructor
  · intro once live
    have counted := once record.serverId
    simp only [live, and_self, if_true] at counted
    omega
  · intro alone serverId
    have before := holds serverId
    split
    · rename_i own
      have none := alone own.2
      rw [own.1] at none
      omega
    · omega

theorem linkedOnce_ioConnect (holds : links.LinkedOnce) (connectInfo : CommunicationIoInfo)
    (outcome : Bool) :
    (links.ioConnect sslSupport connectInfo outcome).LinkedOnce ↔
      (links.service.MayStart connectInfo →
        StartResult.isLive (startResult sslSupport connectInfo.ioType outcome) →
          links.liveCount connectInfo.ioInfo.serverId = 0) := by
  rw [← ioConnect_started]
  simp only [ioConnect]
  split
  · rename_i started
    simp only [started, forall_const, start]
    cases startResult sslSupport connectInfo.ioType outcome with
    | unsupported => exact iff_of_true holds (by simp [StartResult.isLive])
    | connecting =>
      exact linkedOnce_append holds ⟨_, connectInfo.ioType, .connecting, false⟩ rfl
    | connected =>
      exact linkedOnce_append holds
        ⟨_, connectInfo.ioType, .connected (links.connectCounter + 1), false⟩ rfl
    | failed => exact linkedOnce_append holds ⟨_, connectInfo.ioType, .failed, false⟩ rfl
  · rename_i refused
    exact iff_of_true holds (fun started => absurd started refused)

theorem linkedOnce_answer (holds : links.LinkedOnce) (action : LinkAction) :
    (links.answer sslSupport (links.request action)).LinkedOnce ↔
      links.StartsAlone sslSupport action := by
  unfold StartsAlone
  cases links.request action with
  | none => exact iff_of_true holds trivial
  | some asked => exact linkedOnce_ioConnect holds asked.1 asked.2

theorem linkedOnce_step (holds : links.LinkedOnce)
    (stepped : links.step sslSupport action = some next) :
    next.LinkedOnce ↔ links.StartsAlone sslSupport action := by
  cases stepped_of_step stepped with
  | answered _ call => exact linkedOnce_answer holds action
  | visited outcome => exact linkedOnce_answer holds (.visit outcome)
  | runServerToServer | runCheckTask | closeConnect => exact iff_of_true holds trivial
  | handleConnect session failed record found waiting =>
    refine iff_of_true ?_ trivial
    intro serverId
    refine Nat.le_trans ?_ (holds serverId)
    cases failed with
    | true =>
      exact liveCount_set_le found { record with phase := .failed, connectFlag := false }
        rfl rfl (by simp [LinkPhase.isLive]) serverId
    | false =>
      exact liveCount_set_le found { record with
        phase := .connected (links.connectCounter + 1)
        connectFlag := true } rfl rfl (by simp [waiting, LinkPhase.isLive]) serverId
  | disconnected session record after found ended same =>
    refine iff_of_true ?_ trivial
    intro serverId
    refine Nat.le_trans ?_ (holds serverId)
    apply liveCount_set_le found after rfl same
    obtain ⟨connectId, ⟨-, now⟩ | ⟨-, now⟩⟩ := ended <;> simp [now, LinkPhase.isLive]
  | deleteThreadSession session record connectId found =>
    refine iff_of_true ?_ trivial
    intro serverId
    refine Nat.le_trans ?_ (holds serverId)
    exact liveCount_set_le found { record with phase := .closed connectId } rfl rfl
      (by simp [LinkPhase.isLive]) serverId

structure Linked (links : ServerLinks) : Prop where
  held : links.Held
  first : ∀ serverId, (.firstConnect, serverId) ∈ links.visits → links.liveCount serverId = 0
  distinct : (links.visits.map Prod.snd).Nodup

theorem liveCount_ioConnect (links : ServerLinks) (connectInfo : CommunicationIoInfo)
    (outcome : Bool) (other : serverId ≠ connectInfo.ioInfo.serverId) :
    (links.ioConnect sslSupport connectInfo outcome).liveCount serverId =
      links.liveCount serverId := by
  simp only [ioConnect]
  split
  · simp only [start]
    cases startResult sslSupport connectInfo.ioType outcome with
    | unsupported => rfl
    | connecting | connected | failed =>
      simp [liveCount, List.countP_append, other.symm]
  · rfl

theorem answer_visits (links : ServerLinks) (asked : Option (CommunicationIoInfo × Bool)) :
    (links.answer sslSupport asked).visits = links.visits := by
  cases asked with
  | none => rfl
  | some call =>
    simp only [answer, ioConnect, start]
    split
    · cases startResult sslSupport call.1.ioType call.2 <;> rfl
    · rfl

theorem visit_request {kind : VisitKind} {rest : List (VisitKind × Nat)}
    (visits : links.visits = (kind, serverId) :: rest) {outcome : Bool}
    {call : CommunicationIoInfo × Bool} (asked : links.request (.visit outcome) = some call) :
    links.service.communicationList.lookup serverId = some call.1 ∧
      (kind = .check → links.needsReconnect call.1) := by
  simp only [request, visits, visitEntry, Option.map_eq_some_iff] at asked
  obtain ⟨info, entry, rfl⟩ := asked
  split at entry
  · cases entry
  · rename_i found listed
    cases kind with
    | firstConnect =>
      cases entry
      exact ⟨listed, nofun⟩
    | check =>
      simp only [Option.ite_none_right_eq_some, Option.some.injEq] at entry
      obtain ⟨needed, rfl⟩ := entry
      exact ⟨listed, fun _ => needed⟩

theorem request_alone (linked : links.Linked) (disciplined : links.Disciplined action)
    {connectInfo : CommunicationIoInfo} {outcome : Bool}
    (asked : links.request action = some (connectInfo, outcome)) :
    connectInfo.session = links.service.entrySession connectInfo.ioInfo.serverId ∧
      (links.service.MayStart connectInfo →
        links.liveCount connectInfo.ioInfo.serverId = 0) := by
  have fresh : ∀ ioInfo ioType, links.service.isExist ioInfo.serverId = false →
      (newConnect ioInfo ioType).session = links.service.entrySession ioInfo.serverId ∧
        links.liveCount ioInfo.serverId = 0 := by
    intro ioInfo ioType missing
    simp only [isExist, Option.isSome_eq_false_iff, Option.isNone_iff_eq_none] at missing
    have absent : links.service.entrySession ioInfo.serverId = none := by
      simp [entrySession, missing]
    exact ⟨absent.symm, liveCount_of_no_entry linked.held absent⟩
  have stored : ∀ serverId, links.service.communicationList.lookup serverId = some connectInfo →
      connectInfo.ioInfo.serverId = serverId ∧
        connectInfo.session = links.service.entrySession serverId := by
    intro serverId listed
    exact ⟨linked.held.keyed serverId connectInfo listed, by simp [entrySession, listed]⟩
  cases action with
  | addConnect ioInfo ioType _ =>
    simp only [request, Option.some.injEq, Prod.mk.injEq] at asked
    obtain ⟨rfl, -⟩ := asked
    obtain ⟨absent, alone⟩ := fresh ioInfo ioType disciplined
    exact ⟨absent, fun _ => alone⟩
  | connectIoServer ioInfo ioType _ =>
    simp only [request, Option.ite_none_left_eq_some, Option.some.injEq, Prod.mk.injEq,
      Bool.not_eq_true] at asked
    obtain ⟨missing, rfl, -⟩ := asked
    obtain ⟨absent, alone⟩ := fresh ioInfo ioType missing
    exact ⟨absent, fun _ => alone⟩
  | visit _ =>
    cases visits : links.visits with
    | nil => simp [request, visits] at asked
    | cons head rest =>
      obtain ⟨kind, serverId⟩ := head
      obtain ⟨listed, needed⟩ := visit_request visits asked
      obtain ⟨rfl, entry⟩ := stored serverId listed
      refine ⟨entry, fun started => ?_⟩
      cases kind with
      | firstConnect => exact linked.first _ (by simp [visits])
      | check =>
        exact check_alone linked.held listed (needed rfl) started.2
  | resetConnect serverId _ =>
    simp only [request, Option.map_eq_some_iff, Prod.mk.injEq] at asked
    obtain ⟨info, listed, rfl, -⟩ := asked
    obtain ⟨rfl, entry⟩ := stored serverId listed
    refine ⟨entry, fun started => ?_⟩
    exact disciplined.resolve_left started.2
  | sendIoMessage connectId _ =>
    simp only [request, deliverIoMessage, Option.map_eq_some_iff, Prod.mk.injEq,
      Option.ite_none_left_eq_some, Option.ite_none_right_eq_some] at asked
    obtain ⟨info, ⟨unregistered, -, listed⟩, rfl, -⟩ := asked
    obtain ⟨server, entry⟩ := stored _ listed
    rw [← server] at entry
    refine ⟨entry, fun started => ?_⟩
    have unmarked := started.2
    simp only [Disciplined, ← server] at disciplined
    exact (disciplined.resolve_left unregistered).resolve_left unmarked
  | _ => cases asked

theorem held_answer (linked : links.Linked) (disciplined : links.Disciplined action) :
    (links.answer sslSupport (links.request action)).Held := by
  cases asked : links.request action with
  | none => exact linked.held
  | some call =>
    obtain ⟨consistent, alone⟩ := request_alone linked disciplined asked
    exact held_ioConnect linked.held call.1 call.2 consistent alone

theorem linked_visit (linked : links.Linked) (outcome : Bool) {kind : VisitKind}
    {rest : List (VisitKind × Nat)} (visits : links.visits = (kind, serverId) :: rest) :
    ({ links.answer sslSupport (links.request (.visit outcome)) with visits := rest } :
      ServerLinks).Linked := by
  have distinct := linked.distinct
  simp only [visits, List.map_cons, List.nodup_cons] at distinct
  have disciplined : links.Disciplined (.visit outcome) := trivial
  have held : (links.answer sslSupport (links.request (.visit outcome))).Held :=
    held_answer linked disciplined
  refine ⟨⟨held.keyed, held.held, held.marked, held.flagged, held.asleep⟩, ?_, distinct.2⟩
  intro other member
  have before := linked.first other (by simp [visits, member])
  cases asked : links.request (.visit outcome) with
  | none => exact before
  | some call =>
    have server := linked.held.keyed serverId call.1 (visit_request visits asked).1
    have apart : other ≠ call.1.ioInfo.serverId := by
      rw [server]
      rintro rfl
      exact distinct.1 (List.mem_map.mpr ⟨_, member, rfl⟩)
    have same : (links.ioConnect sslSupport call.1 call.2).liveCount other =
        links.liveCount other := liveCount_ioConnect links call.1 call.2 apart
    rw [before] at same
    exact same

theorem linked_of_set (linked : links.Linked) (held : next.Held) {session : Nat}
    {before : LinkSession} (found : links.sessions[session]? = some before) (after : LinkSession)
    (replaced : next.sessions = links.sessions.set session after)
    (server : after.serverId = before.serverId) (live : after.phase.isLive → before.phase.isLive)
    (visits : next.visits = links.visits) : next.Linked := by
  refine ⟨held, ?_, by rw [visits]; exact linked.distinct⟩
  intro serverId member
  rw [visits] at member
  have fewer := liveCount_set_le found after replaced server live serverId
  rw [linked.first serverId member] at fewer
  exact Nat.le_zero.mp fewer

theorem linked_step (linked : links.Linked) (disciplined : links.Disciplined action)
    (stepped : links.step sslSupport action = some next) : next.Linked := by
  have holds := linked.held
  cases stepped_of_step stepped with
  | answered _ call free =>
    refine ⟨held_answer linked disciplined, ?_, ?_⟩
    · intro serverId member
      rw [answer_visits, free] at member
      cases member
    · rw [answer_visits, free]
      exact List.nodup_nil
  | visited outcome kind serverId rest visits => exact linked_visit linked outcome visits
  | runServerToServer order free complete =>
    have none := holds.asleep disciplined
    refine ⟨⟨holds.keyed, holds.held, holds.marked, holds.flagged, by simp⟩, ?_, ?_⟩
    · intro serverId _
      simp [liveCount, none]
    · simpa [Function.comp_def] using complete.nodup_iff.mpr (AList.keys_nodup _)
  | runCheckTask order free complete =>
    refine ⟨⟨holds.keyed, holds.held, holds.marked, holds.flagged, holds.asleep⟩, ?_, ?_⟩
    · intro serverId member
      simp at member
    · simpa [Function.comp_def] using complete.nodup_iff.mpr (AList.keys_nodup _)
  | closeConnect serverId free =>
    refine ⟨held_closeConnect holds disciplined, ?_, ?_⟩
    · exact linked.first
    · exact linked.distinct
  | handleConnect session failed record found waiting =>
    have held := held_handleConnect holds found waiting failed
    cases failed with
    | true =>
      exact linked_of_set linked held found
        { record with phase := .failed, connectFlag := false } rfl rfl
        (by simp [LinkPhase.isLive]) rfl
    | false =>
      exact linked_of_set linked held found
        { record with phase := .connected (links.connectCounter + 1), connectFlag := true } rfl
        rfl (by simp [waiting, LinkPhase.isLive]) rfl
  | disconnected session record after found ended same =>
    have quiet : after.phase.isLive = false := by
      obtain ⟨connectId, ⟨-, now⟩ | ⟨-, now⟩⟩ := ended <;> simp [now, LinkPhase.isLive]
    have held := held_disconnected holds found quiet
    exact linked_of_set linked held found after rfl same (by simp [quiet]) rfl
  | deleteThreadSession session record connectId found free =>
    simp only [Disciplined, found] at disciplined
    have held := held_deleteThreadSession holds found connectId disciplined
    exact linked_of_set linked held found { record with phase := .closed connectId } rfl rfl
      (by simp [LinkPhase.isLive]) rfl

theorem startsAlone_of_disciplined (linked : links.Linked)
    (disciplined : links.Disciplined action) : links.StartsAlone sslSupport action := by
  unfold StartsAlone
  cases asked : links.request action with
  | none => trivial
  | some call =>
    intro started _
    exact (request_alone linked disciplined asked).2 started

/-- No server id has two live sessions exactly when every session that is started finds none beside
it. -/
theorem linkedOnce_iff_starts_alone {sslSupport : Bool} {finish : ServerLinks}
    {actions : List LinkAction} (ran : run (step sslSupport) init actions = some finish) :
    (Always (step sslSupport) LinkedOnce init actions ↔
        Throughout (step sslSupport) (StartsAlone sslSupport) init actions) ∧
      (Throughout (step sslSupport) Disciplined init actions →
        Always (step sslSupport) LinkedOnce init actions) := by
  have empty : init.LinkedOnce := fun _ => Nat.zero_le 1
  have decided : Always (step sslSupport) LinkedOnce init actions ↔
      Throughout (step sslSupport) (StartsAlone sslSupport) init actions := by
    apply always_iff_throughout (fun _ _ _ _ _ => trivial) _ trivial empty ran
    intro links action next _ holds stepped
    exact linkedOnce_step holds stepped
  refine ⟨decided, ?_⟩
  intro disciplined
  have unlisted : ∀ serverId info,
      init.service.communicationList.lookup serverId = some info → False := by
    intro serverId info listed
    simp [init, CommunicationService.init] at listed
  have linked : init.Linked := by
    refine ⟨⟨fun serverId info listed => (unlisted serverId info listed).elim, ?_, ?_, ?_, ?_⟩,
      nofun, List.nodup_nil⟩
    all_goals simp [init]
  apply decided.mpr
  exact throughout_of_invariant (fun _ _ _ => linked_step)
    (fun _ _ => startsAlone_of_disciplined) linked disciplined

def reconnected : List LinkAction :=
  [.connectIoServer ⟨1, true⟩ .connectIoTcp true, .runServerToServer [1], .visit true,
    .handleConnect 0 false, .disconnected 0, .deleteThreadSession 0, .runCheckTask [1],
    .visit true, .handleConnect 1 false]

theorem linkedOnce_reconnected : Always (step false) LinkedOnce init reconnected :=
  (linkedOnce_iff_starts_alone (Option.some_get (by decide)).symm).2 (by decide)

theorem second_link_after_message_to_old_connectId :
    (run (step false) init (reconnected ++ [.sendIoMessage 1 true])).map
      (fun links => (links.liveCount 1, links.sessions.map LinkSession.phase)) =
      some (2, [.closed 1, .connected 2, .connecting]) := by
  decide

end ServerLinks

end PssAsio
