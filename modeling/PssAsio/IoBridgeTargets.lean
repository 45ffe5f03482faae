import PssAsio.IoBridgeCore
import PssAsio.PortWiring
import PssAsio.TransitionRuns

/-!
Where the bridge sends the data of each session.
-/

namespace PssAsio

open PortWiring TransitionRuns Function

namespace IoBridgeType

def forwards : IoBridgeType → Bool
  | .ioBridgeBath | .ioBridgeFrom => true
  | .ioBridgeTo | .ioBridgeNone => false

def backwards : IoBridgeType → Bool
  | .ioBridgeBath | .ioBridgeTo => true
  | .ioBridgeFrom | .ioBridgeNone => false

end IoBridgeType

def SessionAddrInfo.ofLive : Option LiveSession → SessionAddrInfo
  | none => .unset
  | some live => .ofSession live

def IoEndpoint.isTcpOrUdp (endpoint : IoEndpoint) : Bool :=
  endpoint.ioType = .connectIoTcp || endpoint.ioType = .connectIoUdp

def Directs (list : List IoConnectInfo) (endpoint opposite : IoEndpoint) : Prop :=
  ∃ info ∈ list, Joins info.bridgeType.forwards info.bridgeType.backwards info.fromIo info.toIo
    endpoint opposite

def Separate (list : List IoConnectInfo) : Prop :=
  (∀ info ∈ list, info.fromIo ≠ info.toIo) ∧
    list.Pairwise fun first second => ∀ endpoint ∈ first.endpoints, endpoint ∉ second.endpoints

structure ProperIds (live : IoEndpoint → Option LiveSession) : Prop where
  positive : ∀ {endpoint session}, live endpoint = some session → 0 < session.sessionId
  distinct : ∀ {endpoint other session second}, live endpoint = some session →
    live other = some second → session.sessionId = second.sessionId → endpoint = other

namespace ProperIds

variable {live : IoEndpoint → Option LiveSession} (proper : ProperIds live)

include proper

theorem seatedOnce : SeatedOnce live := fun _ _ _ sits meets => proper.distinct sits meets rfl

theorem erase (endpoint : IoEndpoint) : ProperIds (update live endpoint none) := by
  have kept : ∀ {other session}, update live endpoint none other = some session →
      live other = some session := by
    intro other session found
    by_cases same : other = endpoint
    · simp [same] at found
    · rwa [update_of_ne same] at found
  exact ⟨fun found => proper.positive (kept found), fun found meets =>
    proper.distinct (kept found) (kept meets)⟩

theorem insert {session : LiveSession} (positive : 0 < session.sessionId)
    (unused : ∀ endpoint other, live endpoint = some other →
      other.sessionId ≠ session.sessionId) (endpoint : IoEndpoint) :
    ProperIds (update live endpoint (some session)) := by
  have kept : ∀ {other second}, update live endpoint (some session) other = some second →
      other = endpoint ∧ second = session ∨ live other = some second := by
    intro other second found
    by_cases same : other = endpoint
    · subst same
      rw [update_self, Option.some.injEq] at found
      exact .inl ⟨rfl, found.symm⟩
    · rw [update_of_ne same] at found
      exact .inr found
  constructor
  · intro other second found
    rcases kept found with ⟨-, rfl⟩ | before
    · exact positive
    · exact proper.positive before
  · intro other third second fourth found meets same
    rcases kept found with ⟨here, rfl⟩ | first <;> rcases kept meets with ⟨there, rfl⟩ | last
    · exact here.trans there.symm
    · exact absurd same.symm (unused _ _ last)
    · exact absurd same (unused _ _ first)
    · exact proper.distinct first last same

end ProperIds

namespace IoConnectInfo

def place (info : IoConnectInfo) (endpoint : IoEndpoint) (session : SessionAddrInfo) :
    IoConnectInfo :=
  { info with
    fromSession := if info.fromIo = endpoint then session else info.fromSession
    toSession := if info.toIo = endpoint then session else info.toSession }

def Attached (info : IoConnectInfo) (live : IoEndpoint → Option LiveSession) : Prop :=
  info.fromSession = .ofLive (live info.fromIo) ∧ info.toSession = .ofLive (live info.toIo)

variable {endpoint : IoEndpoint} {info : IoConnectInfo}

theorem mem_endpoints :
    endpoint ∈ info.endpoints ↔ endpoint = info.fromIo ∨ endpoint = info.toIo := by
  simp [endpoints]

theorem place_eq_self {session : SessionAddrInfo}
    (begins : info.fromIo = endpoint → info.fromSession = session)
    (ends : info.toIo = endpoint → info.toSession = session) :
    info.place endpoint session = info := by
  have source : (if info.fromIo = endpoint then session else info.fromSession) =
      info.fromSession := ite_eq_right_iff.mpr fun same => (begins same).symm
  have sink : (if info.toIo = endpoint then session else info.toSession) = info.toSession :=
    ite_eq_right_iff.mpr fun same => (ends same).symm
  simp only [place, source, sink]

theorem place_attached {live : IoEndpoint → Option LiveSession} (attached : info.Attached live)
    (endpoint : IoEndpoint) (session : Option LiveSession) :
    (info.place endpoint (.ofLive session)).Attached (update live endpoint session) := by
  constructor
  · by_cases same : info.fromIo = endpoint
    · simp [place, same]
    · simp [place, same, attached.1]
  · by_cases same : info.toIo = endpoint
    · simp [place, same]
    · simp [place, same, attached.2]

theorem attached_update {live : IoEndpoint → Option LiveSession} (attached : info.Attached live)
    (away : endpoint ∉ info.endpoints) (session : Option LiveSession) :
    info.Attached (update live endpoint session) := by
  simp only [mem_endpoints, not_or] at away
  constructor
  · rw [update_of_ne (Ne.symm away.1)]
    exact attached.1
  · rw [update_of_ne (Ne.symm away.2)]
    exact attached.2

end IoConnectInfo

theorem directs_middle (before after : List IoConnectInfo) (info : IoConnectInfo) :
    Directs (before ++ info :: after) = fun endpoint opposite =>
      Directs (before ++ after) endpoint opposite ∨
        Joins info.bridgeType.forwards info.bridgeType.backwards info.fromIo info.toIo
          endpoint opposite := by
  funext endpoint opposite
  simp only [Directs, List.mem_append, List.mem_cons, eq_iff_iff]
  constructor
  · rintro ⟨other, inside | rfl | inside, joined⟩
    · exact .inl ⟨other, .inl inside, joined⟩
    · exact .inr joined
    · exact .inl ⟨other, .inr inside, joined⟩
  · rintro (⟨other, inside, joined⟩ | joined)
    · exact ⟨other, by tauto, joined⟩
    · exact ⟨info, .inr (.inl rfl), joined⟩

theorem directs_avoids {list : List IoConnectInfo} {endpoint : IoEndpoint}
    (away : ∀ info ∈ list, endpoint ∉ info.endpoints) : Avoids (Directs list) endpoint := by
  simp only [IoConnectInfo.mem_endpoints, not_or] at away
  intro opposite
  constructor
  · rintro ⟨info, member, joined⟩
    cases joined with
    | forth => exact (away info member).1 rfl
    | back => exact (away info member).2 rfl
  · rintro ⟨info, member, joined⟩
    cases joined with
    | forth => exact (away info member).2 rfl
    | back => exact (away info member).1 rfl

theorem separate_middle {before after : List IoConnectInfo} {info : IoConnectInfo}
    (separate : Separate (before ++ info :: after)) :
    Separate (before ++ after) ∧ info.fromIo ≠ info.toIo ∧
      ∀ endpoint ∈ info.endpoints, ∀ other ∈ before ++ after, endpoint ∉ other.endpoints := by
  obtain ⟨sided, apart⟩ := separate
  have rest : (before ++ after).Sublist (before ++ info :: after) :=
    List.Sublist.append (List.Sublist.refl before) (List.sublist_cons_self info after)
  refine ⟨⟨fun other member => sided other (rest.subset member), apart.sublist rest⟩,
    sided info (by simp), ?_⟩
  intro endpoint inside other member shared
  simp only [List.pairwise_append, List.pairwise_cons, List.mem_cons] at apart
  rcases List.mem_append.mp member with earlier | later
  · exact apart.2.2 other earlier info (.inl rfl) endpoint shared inside
  · exact apart.2.1.1 other later endpoint inside shared

theorem separate_place {before after : List IoConnectInfo} {info : IoConnectInfo}
    (separate : Separate (before ++ info :: after)) (endpoint : IoEndpoint)
    (session : SessionAddrInfo) : Separate (before ++ info.place endpoint session :: after) := by
  simp only [Separate, List.pairwise_append, List.pairwise_cons, List.forall_mem_append,
    List.forall_mem_cons] at separate ⊢
  exact separate

theorem split_at_endpoint (list : List IoConnectInfo) (endpoint : IoEndpoint) :
    (∀ info ∈ list, endpoint ∉ info.endpoints) ∨ ∃ before info after,
      list = before ++ info :: after ∧ endpoint ∈ info.endpoints := by
  by_cases touched : ∃ info ∈ list, endpoint ∈ info.endpoints
  · obtain ⟨info, member, inside⟩ := touched
    obtain ⟨before, after, split⟩ := List.append_of_mem member
    exact .inr ⟨before, info, after, split, inside⟩
  · exact .inl fun info member inside => touched ⟨info, member, inside⟩

namespace IotoIo

/-! The loops over `io_2_io_list_` when at most one entry has the endpoint. -/

variable {endpoint : IoEndpoint} {info : IoConnectInfo}

theorem regeditEntry_away (away : endpoint ∉ info.endpoints) (session : SessionAddrInfo) :
    regeditEntry endpoint session info = (info, []) := by
  simp only [IoConnectInfo.mem_endpoints, not_or] at away
  simp [regeditEntry, Ne.symm away.1, Ne.symm away.2]

theorem unregeditEntry_away (away : endpoint ∉ info.endpoints) :
    unregeditEntry endpoint info = (info, []) := by
  simp only [IoConnectInfo.mem_endpoints, not_or] at away
  simp [unregeditEntry, Ne.symm away.1, Ne.symm away.2]

theorem regeditEntry_at (inside : endpoint ∈ info.endpoints) (sided : info.fromIo ≠ info.toIo)
    (session : SessionAddrInfo) :
    regeditEntry endpoint session info =
      (info.place endpoint session, [info.place endpoint session]) := by
  rcases IoConnectInfo.mem_endpoints.mp inside with rfl | rfl
  · simp [regeditEntry, IoConnectInfo.place, sided.symm]
  · simp [regeditEntry, IoConnectInfo.place, sided]

theorem unregeditEntry_at (inside : endpoint ∈ info.endpoints) (sided : info.fromIo ≠ info.toIo) :
    unregeditEntry endpoint info = (info.place endpoint .unset, [info]) := by
  rcases IoConnectInfo.mem_endpoints.mp inside with rfl | rfl
  · simp [unregeditEntry, IoConnectInfo.place, sided.symm]
  · simp [unregeditEntry, IoConnectInfo.place, sided]

theorem visited_away {visit : IoConnectInfo → IoConnectInfo × List IoConnectInfo}
    {list : List IoConnectInfo} (away : ∀ info ∈ list, visit info = (info, [])) :
    (list.map visit).map Prod.fst = list ∧ (list.map visit).flatMap Prod.snd = [] := by
  induction list with
  | nil => exact ⟨rfl, rfl⟩
  | cons info rest ih =>
    obtain ⟨kept, silent⟩ := ih fun other member => away other (List.mem_cons_of_mem info member)
    have still := away info List.mem_cons_self
    exact ⟨by simp [still, kept], by simp [still, silent]⟩

theorem visited_middle {visit : IoConnectInfo → IoConnectInfo × List IoConnectInfo}
    {before after : List IoConnectInfo} (info : IoConnectInfo)
    (away : ∀ other ∈ before ++ after, visit other = (other, [])) :
    ((before ++ info :: after).map visit).map Prod.fst = before ++ (visit info).1 :: after ∧
      ((before ++ info :: after).map visit).flatMap Prod.snd = (visit info).2 := by
  obtain ⟨keptBefore, silentBefore⟩ := visited_away fun other member =>
    away other (List.mem_append_left after member)
  obtain ⟨keptAfter, silentAfter⟩ := visited_away fun other member =>
    away other (List.mem_append_right before member)
  constructor
  · rw [List.map_append, List.map_cons, List.map_append, List.map_cons, keptBefore, keptAfter]
  · rw [List.map_append, List.map_cons, List.flatMap_append, List.flatMap_cons, silentBefore,
      silentAfter, List.nil_append, List.append_nil]

theorem compare_away (away : endpoint ∉ info.endpoints) :
    ¬compareConnectIo endpoint info.fromIo ∧ ¬compareConnectIo endpoint info.toIo := by
  simp only [compareConnectIo_iff]
  exact not_or.mp (mt IoConnectInfo.mem_endpoints.mpr away)

theorem no_match {test : IoConnectInfo → Bool} {list : List IoConnectInfo}
    (misses : ∀ info ∈ list, ¬test info) : list.find? test = none ∧ list.eraseP test = list :=
  ⟨List.find?_eq_none.mpr misses, List.eraseP_of_forall_not misses⟩

theorem match_middle {test : IoConnectInfo → Bool} {before after : List IoConnectInfo}
    (misses : ∀ other ∈ before ++ after, ¬test other) (hit : test info) :
    (before ++ info :: after).find? test = some info ∧
      (before ++ info :: after).eraseP test = before ++ after := by
  have earlier : ∀ other ∈ before, ¬test other := fun other member =>
    misses other (List.mem_append_left after member)
  constructor
  · rw [List.find?_append, (no_match earlier).1, List.find?_cons_of_pos hit]
    rfl
  · rw [List.eraseP_append_right _ earlier, List.eraseP_cons_of_pos hit]

section Effects

variable {iotoio : IotoIo}

theorem regedit_away (away : ∀ info ∈ iotoio.io2IoList, endpoint ∉ info.endpoints)
    (session : SessionAddrInfo) : iotoio.regeditBridgeSessionInfo endpoint session = iotoio := by
  obtain ⟨kept, silent⟩ := visited_away fun info member =>
    regeditEntry_away (away info member) session
  simp only [regeditBridgeSessionInfo, kept, silent, List.foldl_nil]

theorem unregedit_away (away : ∀ info ∈ iotoio.io2IoList, endpoint ∉ info.endpoints)
    (sessionId : Nat) : iotoio.unregeditBridgeSessionInfo endpoint sessionId = iotoio := by
  obtain ⟨kept, silent⟩ := visited_away fun info member => unregeditEntry_away (away info member)
  simp only [unregeditBridgeSessionInfo, kept, silent, List.foldl_nil]

theorem delete_away (away : ∀ info ∈ iotoio.io2IoList, endpoint ∉ info.endpoints) :
    (iotoio.deleteSessionIoMapping endpoint).2 = iotoio := by
  obtain ⟨lostFrom, keptFrom⟩ := no_match fun info member => (compare_away (away info member)).1
  obtain ⟨lostTo, keptTo⟩ := no_match fun info member => (compare_away (away info member)).2
  simp only [deleteSessionIoMapping, lostFrom, keptFrom, lostTo, keptTo, Option.toList_none,
    List.nil_append, List.foldl_nil]

variable {before after : List IoConnectInfo}
  (split : iotoio.io2IoList = before ++ info :: after) (separate : Separate iotoio.io2IoList)
  (inside : endpoint ∈ info.endpoints)

include split separate inside

theorem regedit_at (session : SessionAddrInfo) :
    iotoio.regeditBridgeSessionInfo endpoint session =
      ⟨before ++ info.place endpoint session :: after,
        linkIoBridge iotoio.targets (info.place endpoint session)⟩ := by
  rw [split] at separate
  obtain ⟨-, sided, away⟩ := separate_middle separate
  obtain ⟨kept, linked⟩ := visited_middle info fun other member =>
    regeditEntry_away (away endpoint inside other member) session
  simp only [regeditBridgeSessionInfo, split, kept, linked, regeditEntry_at inside sided,
    List.foldl_cons, List.foldl_nil]

theorem unregedit_at (sessionId : Nat) :
    iotoio.unregeditBridgeSessionInfo endpoint sessionId =
      ⟨before ++ info.place endpoint .unset :: after, unlinkIoBridge iotoio.targets info⟩ := by
  rw [split] at separate
  obtain ⟨-, sided, away⟩ := separate_middle separate
  obtain ⟨kept, unlinked⟩ := visited_middle info fun other member =>
    unregeditEntry_away (away endpoint inside other member)
  simp only [unregeditBridgeSessionInfo, split, kept, unlinked, unregeditEntry_at inside sided,
    List.foldl_cons, List.foldl_nil]

theorem delete_at : (iotoio.deleteSessionIoMapping endpoint).2 =
    ⟨before ++ after, unlinkIoBridge iotoio.targets info⟩ := by
  rw [split] at separate
  obtain ⟨-, sided, away⟩ := separate_middle separate
  have missFrom : ∀ other ∈ before ++ after, ¬compareConnectIo endpoint other.fromIo :=
    fun other member => (compare_away (away endpoint inside other member)).1
  have missTo : ∀ other ∈ before ++ after, ¬compareConnectIo endpoint other.toIo :=
    fun other member => (compare_away (away endpoint inside other member)).2
  rcases IoConnectInfo.mem_endpoints.mp inside with same | same
  · obtain ⟨found, erased⟩ := match_middle missFrom
      ((compareConnectIo_iff endpoint info.fromIo).mpr same)
    obtain ⟨lost, kept⟩ := no_match missTo
    simp only [deleteSessionIoMapping, split, found, erased, lost, kept, Option.toList_some,
      Option.toList_none, List.append_nil, List.foldl_cons, List.foldl_nil]
  · obtain ⟨found, erased⟩ := match_middle missTo
      ((compareConnectIo_iff endpoint info.toIo).mpr same)
    have missAll : ∀ other ∈ before ++ info :: after, ¬compareConnectIo endpoint other.fromIo := by
      intro other member
      rcases List.mem_append.mp member with earlier | later
      · exact missFrom other (List.mem_append_left after earlier)
      rcases List.mem_cons.mp later with rfl | later
      · rw [compareConnectIo_iff, same]
        exact sided.symm
      · exact missFrom other (List.mem_append_right before later)
    obtain ⟨lost, kept⟩ := no_match missAll
    simp only [deleteSessionIoMapping, split, found, erased, lost, kept, Option.toList_some,
      Option.toList_none, List.nil_append, List.foldl_cons, List.foldl_nil]

end Effects

structure Tracks (iotoio : IotoIo) (live : IoEndpoint → Option LiveSession) : Prop where
  separate : Separate iotoio.io2IoList
  attached : ∀ info ∈ iotoio.io2IoList, info.Attached live
  settled : Settled LiveSession.sessionId 0 (Directs iotoio.io2IoList) live iotoio.targets

theorem setBridgeTargets_alone {targets : LiveSession → Nat}
    (alone : info.fromSession.sessionId = 0 ∨ info.toSession.sessionId = 0)
    (fromTarget toTarget : Nat) : setBridgeTargets targets info fromTarget toTarget = targets := by
  rcases alone with zero | zero <;> simp [setBridgeTargets, zero]

section Tracks

variable {before after : List IoConnectInfo} {targets : LiveSession → Nat}
  {live : IoEndpoint → Option LiveSession}

theorem setBridgeTargets_eq_redirect (proper : ProperIds live) (attached : info.Attached live)
    (fromTarget toTarget : Nat) :
    setBridgeTargets targets info fromTarget toTarget =
      redirect info.bridgeType.forwards info.bridgeType.backwards (live info.fromIo)
        (live info.toIo) fromTarget toTarget targets := by
  obtain ⟨known, reached⟩ := attached
  cases here : live info.fromIo with
  | none =>
    rw [here] at known
    exact setBridgeTargets_alone (.inl (by rw [known]; rfl)) fromTarget toTarget
  | some first =>
    cases there : live info.toIo with
    | none =>
      rw [there] at reached
      exact setBridgeTargets_alone (.inr (by rw [reached]; rfl)) fromTarget toTarget
    | some second =>
      rw [here] at known
      rw [there] at reached
      have both : 0 < first.sessionId ∧ 0 < second.sessionId :=
        ⟨proper.positive here, proper.positive there⟩
      simp only [setBridgeTargets, known, reached, SessionAddrInfo.ofLive,
        SessionAddrInfo.ofSession, both, and_self, dif_pos, Option.get_some]
      cases info.bridgeType <;> rfl

theorem tracks_join (proper : ProperIds live) (separate : Separate (before ++ info :: after))
    (attached : info.Attached live) (tracks : Tracks ⟨before ++ after, targets⟩ live) :
    Tracks ⟨before ++ info :: after, linkIoBridge targets info⟩ live := by
  obtain ⟨-, sided, away⟩ := separate_middle separate
  refine ⟨separate, ?_, ?_⟩
  · intro other member
    rcases List.mem_append.mp member with earlier | later
    · exact tracks.attached other (List.mem_append_left after earlier)
    rcases List.mem_cons.mp later with rfl | later
    · exact attached
    · exact tracks.attached other (List.mem_append_right before later)
  · simp only [linkIoBridge, directs_middle, setBridgeTargets_eq_redirect proper attached]
    apply settled_join sided proper.seatedOnce
    · exact directs_avoids (away info.fromIo (by simp [IoConnectInfo.mem_endpoints]))
    · exact directs_avoids (away info.toIo (by simp [IoConnectInfo.mem_endpoints]))
    · intro first second sits meets
      rw [attached.1, attached.2, sits, meets]
      exact ⟨rfl, rfl⟩
    · exact tracks.settled

theorem tracks_cut (proper : ProperIds live)
    (tracks : Tracks ⟨before ++ info :: after, targets⟩ live) :
    Tracks ⟨before ++ after, unlinkIoBridge targets info⟩ live := by
  obtain ⟨separate, sided, away⟩ := separate_middle tracks.separate
  have settled := tracks.settled
  simp only [directs_middle] at settled
  refine ⟨separate, ?_, ?_⟩
  · intro other member
    apply tracks.attached other
    rcases List.mem_append.mp member with earlier | later
    · exact List.mem_append_left _ earlier
    · exact List.mem_append_right before (List.mem_cons_of_mem info later)
  · have attached := tracks.attached info (by simp)
    simp only [unlinkIoBridge, setBridgeTargets_eq_redirect proper attached]
    apply settled_cut sided proper.seatedOnce _ _ settled
    · exact directs_avoids (away info.fromIo (by simp [IoConnectInfo.mem_endpoints]))
    · exact directs_avoids (away info.toIo (by simp [IoConnectInfo.mem_endpoints]))

variable {iotoio : IotoIo}

theorem tracks_update (away : ∀ info ∈ iotoio.io2IoList, endpoint ∉ info.endpoints)
    (session : Option LiveSession) (tracks : iotoio.Tracks live) :
    iotoio.Tracks (update live endpoint session) := by
  refine ⟨tracks.separate, ?_, settled_update (directs_avoids away) session tracks.settled⟩
  intro info member
  exact IoConnectInfo.attached_update (tracks.attached info member) (away info member) session

theorem alone_of_vacant (attached : info.Attached live) (inside : endpoint ∈ info.endpoints)
    (vacant : live endpoint = none) :
    info.fromSession.sessionId = 0 ∨ info.toSession.sessionId = 0 := by
  rcases IoConnectInfo.mem_endpoints.mp inside with rfl | rfl
  · exact .inl (by rw [attached.1, vacant]; rfl)
  · exact .inr (by rw [attached.2, vacant]; rfl)

/-- Between cutting a mapping and joining it again the endpoint has no wires. -/
theorem tracks_replace (proper : ProperIds live) (session : Option LiveSession)
    (improved : ProperIds (update live endpoint session))
    (inside : endpoint ∈ info.endpoints)
    (tracks : Tracks ⟨before ++ info :: after, targets⟩ live) :
    Tracks ⟨before ++ info.place endpoint (.ofLive session) :: after,
        linkIoBridge (unlinkIoBridge targets info) (info.place endpoint (.ofLive session))⟩
      (update live endpoint session) := by
  obtain ⟨-, -, away⟩ := separate_middle tracks.separate
  have attached := tracks.attached info (by simp)
  apply tracks_join improved (separate_place tracks.separate endpoint _)
  · exact IoConnectInfo.place_attached attached endpoint session
  · exact tracks_update (away endpoint inside) session (tracks_cut proper tracks)

theorem tracks_regedit {session : LiveSession} (proper : ProperIds live)
    (improved : ProperIds (update live endpoint (some session)))
    (vacant : live endpoint = none) (tracks : iotoio.Tracks live) :
    (iotoio.regeditBridgeSessionInfo endpoint (.ofSession session)).Tracks
      (update live endpoint (some session)) := by
  rcases split_at_endpoint iotoio.io2IoList endpoint with
    away | ⟨before, info, after, split, inside⟩
  · rw [regedit_away away]
    exact tracks_update away (some session) tracks
  · rw [regedit_at split tracks.separate inside]
    obtain ⟨list, targets⟩ := iotoio
    subst split
    have alone := alone_of_vacant (tracks.attached info (by simp)) inside vacant
    have kept : unlinkIoBridge targets info = targets := setBridgeTargets_alone alone 0 0
    have replaced := tracks_replace proper (some session) improved inside tracks
    rw [kept] at replaced
    exact replaced

theorem tracks_unregedit (proper : ProperIds live)
    (improved : ProperIds (update live endpoint none)) (tracks : iotoio.Tracks live)
    (sessionId : Nat) :
    (iotoio.unregeditBridgeSessionInfo endpoint sessionId).Tracks
      (update live endpoint none) := by
  rcases split_at_endpoint iotoio.io2IoList endpoint with
    away | ⟨before, info, after, split, inside⟩
  · rw [unregedit_away away]
    exact tracks_update away none tracks
  · rw [unregedit_at split tracks.separate inside]
    obtain ⟨list, targets⟩ := iotoio
    subst split
    have replaced := tracks_replace proper none improved inside tracks
    have attached : (info.place endpoint .unset).Attached (update live endpoint none) :=
      replaced.attached _ (List.mem_append_right before List.mem_cons_self)
    have alone := alone_of_vacant attached inside (update_self ..)
    have kept : linkIoBridge (unlinkIoBridge targets info) (info.place endpoint .unset) =
        unlinkIoBridge targets info := setBridgeTargets_alone alone _ _
    rw [SessionAddrInfo.ofLive, kept] at replaced
    exact replaced

theorem tracks_delete (proper : ProperIds live) (tracks : iotoio.Tracks live)
    (endpoint : IoEndpoint) : (iotoio.deleteSessionIoMapping endpoint).2.Tracks live := by
  rcases split_at_endpoint iotoio.io2IoList endpoint with
    away | ⟨before, info, after, split, inside⟩
  · rw [delete_away away]
    exact tracks
  · rw [delete_at split tracks.separate inside]
    obtain ⟨list, targets⟩ := iotoio
    subst split
    exact tracks_cut proper tracks

end Tracks

end IotoIo

end PssAsio
