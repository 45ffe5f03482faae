import PssAsio.IoBridgeRuns
import PssAsio.ServerLinksCore

/-!
What `add_thread_session` and `delete_thread_session` do to `CIoBridge` and to
`CCommunicationService`.
-/

namespace PssAsio

structure ThreadSession where
  session : LiveSession
  markId : Nat
  remote : IoEndpoint
  deriving DecidableEq, Repr

structure SessionRegistry where
  ioBridge : IoBridge
  communicateService : CommunicationService

namespace SessionRegistry

def init : SessionRegistry := ⟨.init, .init⟩

variable (registry : SessionRegistry)

def addThreadSession (added : ThreadSession) : SessionRegistry where
  ioBridge := registry.ioBridge.regeditBridgeSessionInfo added.remote (.ofSession added.session)
  communicateService :=
    registry.communicateService.linkSession added.markId added.session.sessionId

def deleteThreadSession (connectId markId : Nat) (localInfo : IoEndpoint) : SessionRegistry where
  ioBridge := registry.ioBridge.unregeditBridgeSessionInfo localInfo connectId
  communicateService := registry.communicateService.linkSession markId 0

end SessionRegistry

namespace IoConnectInfo

def Bridges (info : IoConnectInfo) (live : LiveSession) : Prop :=
  (0 < info.fromSession.sessionId ∧ 0 < info.toSession.sessionId) ∧
    (info.bridgeType.forwards ∧ info.fromSession = .ofSession live ∨
      info.bridgeType.backwards ∧ info.toSession = .ofSession live)
  deriving Decidable

end IoConnectInfo

theorem SessionAddrInfo.get_eq_iff {info : SessionAddrInfo} (positive : 0 < info.sessionId)
    (live : LiveSession) :
    live = ⟨info.session.get (info.bound positive), info.sessionId⟩ ↔ info = .ofSession live := by
  obtain ⟨sessionId, session, bound⟩ := info
  obtain ⟨object, connectId⟩ := live
  cases session with
  | none => exact absurd (bound positive) (by simp)
  | some held =>
    simp only [Option.get_some, LiveSession.mk.injEq, ofSession, SessionAddrInfo.mk.injEq,
      Option.some.injEq]
    constructor
    · rintro ⟨rfl, rfl⟩
      exact ⟨rfl, rfl⟩
    · rintro ⟨rfl, rfl⟩
      exact ⟨rfl, rfl⟩

namespace IotoIo

open IoConnectInfo

theorem unlinkIoBridge_apply (targets : LiveSession → Nat) (info : IoConnectInfo)
    (live : LiveSession) :
    unlinkIoBridge targets info live = if info.Bridges live then 0 else targets live := by
  by_cases both : 0 < info.fromSession.sessionId ∧ 0 < info.toSession.sessionId
  · have source := SessionAddrInfo.get_eq_iff both.1 live
    have sink := SessionAddrInfo.get_eq_iff both.2 live
    simp only [unlinkIoBridge, setBridgeTargets, both, and_self, dif_pos, Bridges, true_and]
    cases info.bridgeType <;>
      simp only [Function.update_apply, source, sink, IoBridgeType.forwards,
        IoBridgeType.backwards, true_and, false_and, or_false, false_or, Bool.false_eq_true,
        if_false]
    by_cases ends : info.toSession = .ofSession live <;> simp [ends]
  · simp [unlinkIoBridge, setBridgeTargets, both, Bridges]

theorem unlinked_apply (copies : List IoConnectInfo) (targets : LiveSession → Nat)
    (live : LiveSession) :
    copies.foldl unlinkIoBridge targets live =
      if ∃ copy ∈ copies, copy.Bridges live then 0 else targets live := by
  induction copies generalizing targets with
  | nil => simp
  | cons copy rest ih =>
    rw [List.foldl_cons, ih, unlinkIoBridge_apply]
    by_cases later : ∃ other ∈ rest, other.Bridges live <;> by_cases first : copy.Bridges live <;>
      simp [later, first]

/-- The second copy of an entry with the endpoint on both sides has lost its first session. -/
theorem unregeditEntry_bridges (endpoint : IoEndpoint) (info : IoConnectInfo)
    (live : LiveSession) :
    (∃ copy ∈ (unregeditEntry endpoint info).2, copy.Bridges live) ↔
      endpoint ∈ info.endpoints ∧ info.Bridges live := by
  have alone (fromIo toIo : IoEndpoint) (sink : SessionAddrInfo) (bridgeType : IoBridgeType) :
      ¬(⟨fromIo, .unset, toIo, sink, bridgeType⟩ : IoConnectInfo).Bridges live := by
    simp [Bridges, SessionAddrInfo.unset]
  by_cases begins : info.fromIo = endpoint <;> by_cases ends : info.toIo = endpoint
  · simp [unregeditEntry, begins, ends, alone, mem_endpoints]
  · simp [unregeditEntry, begins, ends, mem_endpoints]
  · simp [unregeditEntry, begins, ends, mem_endpoints]
  · simp [unregeditEntry, begins, ends, mem_endpoints, Ne.symm begins, Ne.symm ends]

theorem unregedit_targets (iotoio : IotoIo) (endpoint : IoEndpoint) (sessionId : Nat)
    (live : LiveSession) :
    (iotoio.unregeditBridgeSessionInfo endpoint sessionId).targets live =
      if ∃ info ∈ iotoio.io2IoList, endpoint ∈ info.endpoints ∧ info.Bridges live then 0
      else iotoio.targets live := by
  have visited : (∃ copy ∈ (iotoio.io2IoList.map (unregeditEntry endpoint)).flatMap Prod.snd,
      copy.Bridges live) ↔
      ∃ info ∈ iotoio.io2IoList, endpoint ∈ info.endpoints ∧ info.Bridges live := by
    simp only [List.flatMap_map, List.mem_flatMap, ← unregeditEntry_bridges]
    constructor
    · rintro ⟨copy, ⟨info, member, copied⟩, bridges⟩
      exact ⟨info, member, copy, copied, bridges⟩
    · rintro ⟨info, member, copy, copied, bridges⟩
      exact ⟨copy, ⟨info, member, copied⟩, bridges⟩
  simp only [unregeditBridgeSessionInfo, unlinked_apply, visited]

end IotoIo

theorem SessionAddrList.lookup_of_positive {list : SessionAddrList} {endpoint : IoEndpoint}
    (positive : 0 < (list.getSessionAddrInfo endpoint).sessionId) :
    list.sessionAddrList.lookup (setAddrKey endpoint) =
      some (list.getSessionAddrInfo endpoint) := by
  cases found : list.sessionAddrList.lookup (setAddrKey endpoint) with
  | none => simp [getSessionAddrInfo, found, SessionAddrInfo.unset] at positive
  | some session => simp [getSessionAddrInfo, found]

/-! A condition on the sessions of the bridge and their address keys. -/

namespace IoConnectInfo

def Meets (info : IoConnectInfo) (condition : String → SessionAddrInfo → Prop) : Prop :=
  condition (SessionAddrList.setAddrKey info.fromIo) info.fromSession ∧
    condition (SessionAddrList.setAddrKey info.toIo) info.toSession

theorem meets_place {info : IoConnectInfo} {condition : String → SessionAddrInfo → Prop}
    (meets : info.Meets condition) {endpoint : IoEndpoint} {session : SessionAddrInfo}
    (placed : condition (SessionAddrList.setAddrKey endpoint) session) :
    (info.place endpoint session).Meets condition := by
  constructor
  · by_cases begins : info.fromIo = endpoint
    · simpa only [place, begins, if_true] using placed
    · simpa only [place, begins, if_false] using meets.1
  · by_cases ends : info.toIo = endpoint
    · simpa only [place, ends, if_true] using placed
    · simpa only [place, ends, if_false] using meets.2

end IoConnectInfo

namespace IoBridge

open SessionAddrList

structure Holds (bridge : IoBridge) (condition : String → SessionAddrInfo → Prop) : Prop where
  listed : ∀ entry ∈ bridge.sessionAddrList.sessionAddrList.entries, condition entry.1 entry.2
  mapped : ∀ info ∈ bridge.iotoio.io2IoList, info.Meets condition

variable {bridge : IoBridge} {condition : String → SessionAddrInfo → Prop}

theorem holds_regedit (holds : bridge.Holds condition) {endpoint : IoEndpoint}
    {session : SessionAddrInfo} (placed : condition (setAddrKey endpoint) session) :
    (bridge.regeditBridgeSessionInfo endpoint session).Holds condition := by
  constructor
  · intro entry member
    simp only [regeditBridgeSessionInfo, addSessionAddr, AList.entries_insert,
      List.mem_cons] at member
    rcases member with rfl | kept
    · exact placed
    · exact holds.listed entry ((List.kerase_sublist _ _).subset kept)
  · simp only [regeditBridgeSessionInfo, IotoIo.regedit_list, List.forall_mem_map]
    intro info member
    exact IoConnectInfo.meets_place (holds.mapped info member) placed

theorem holds_unregedit (holds : bridge.Holds condition) {endpoint : IoEndpoint} (sessionId : Nat)
    (cleared : condition (setAddrKey endpoint) .unset) :
    (bridge.unregeditBridgeSessionInfo endpoint sessionId).Holds condition := by
  constructor
  · intro entry member
    exact holds.listed entry ((List.kerase_sublist _ _).subset member)
  · simp only [unregeditBridgeSessionInfo, IotoIo.unregedit_list, List.forall_mem_map]
    intro info member
    exact IoConnectInfo.meets_place (holds.mapped info member) cleared

theorem holds_regeditKnown (holds : bridge.Holds condition) (endpoint : IoEndpoint) :
    (bridge.regeditKnownSession endpoint).Holds condition := by
  simp only [regeditKnownSession]
  split
  · rename_i known
    have found := lookup_of_positive known.1
    exact holds_regedit holds (holds.listed ⟨_, _⟩ (AList.mem_lookup_iff.mp found))
  · exact holds

theorem holds_addMapping (holds : bridge.Holds condition)
    (cleared : ∀ key, condition key .unset) (fromIo toIo : IoEndpoint)
    (bridgeType : IoBridgeType) :
    (bridge.addSessionIoMapping fromIo toIo bridgeType).2.Holds condition := by
  rcases bridge.addSessionIoMapping_cases fromIo toIo bridgeType with same | added
  · rw [same]
    exact holds
  · rw [added]
    apply holds_regeditKnown
    apply holds_regeditKnown
    refine ⟨holds.listed, ?_⟩
    simp only [store, List.forall_mem_append, List.forall_mem_singleton]
    exact ⟨holds.mapped, cleared _, cleared _⟩

theorem holds_deleteMapping (holds : bridge.Holds condition) (fromIo : IoEndpoint) :
    (bridge.deleteSessionIoMapping fromIo).2.Holds condition := by
  refine ⟨holds.listed, ?_⟩
  intro info member
  exact holds.mapped info (List.mem_of_mem_eraseP (List.mem_of_mem_eraseP member))

theorem holds_init (condition : String → SessionAddrInfo → Prop) : init.Holds condition := by
  constructor
  · intro entry member
    exact absurd member List.not_mem_nil
  · intro info member
    exact absurd member List.not_mem_nil

end IoBridge

end PssAsio
