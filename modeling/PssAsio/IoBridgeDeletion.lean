import PssAsio.SessionRegistrationCore

/-!
What `delete_session_io_mapping` leaves of an endpoint.
-/

namespace PssAsio

section FirstMatch

variable {Item : Type} {test : Item → Bool}

theorem mem_iff_found_or_kept (test : Item → Bool) (items : List Item) (item : Item) :
    item ∈ items ↔ item ∈ items.find? test ∨ item ∈ items.eraseP test := by
  induction items with
  | nil => simp
  | cons first rest ih =>
    cases hit : test first with
    | true => simp [List.find?_cons_of_pos hit, List.eraseP_cons_of_pos hit, eq_comm]
    | false =>
      have miss : ¬test first = true := by simp [hit]
      simp [List.find?_cons_of_neg miss, List.eraseP_cons_of_neg miss, ih, or_left_comm]

theorem filter_eraseP (keep : Item → Bool) (apart : ∀ item, test item = true → keep item = false)
    (items : List Item) : (items.eraseP test).filter keep = items.filter keep := by
  induction items with
  | nil => rfl
  | cons first rest ih =>
    cases hit : test first with
    | true =>
      have dropped : ¬keep first = true := by simp [apart first hit]
      rw [List.eraseP_cons_of_pos hit, List.filter_cons_of_neg dropped]
    | false =>
      rw [List.eraseP_cons_of_neg (by simp [hit]), List.filter_cons, List.filter_cons, ih]

theorem eraseP_clears_iff {wide : Item → Bool}
    (narrower : ∀ item, test item = true → wide item = true) (items : List Item) :
    (∀ item ∈ items.eraseP test, wide item = false) ↔
      (items.filter wide).length ≤ 1 ∧ ∀ item ∈ items, wide item = true → test item = true := by
  induction items with
  | nil => simp
  | cons first rest ih =>
    cases hit : test first with
    | true =>
      rw [List.eraseP_cons_of_pos hit, List.filter_cons_of_pos (narrower first hit)]
      constructor
      · intro cleared
        have nothing : rest.filter wide = [] :=
          List.filter_eq_nil_iff.mpr fun item member => by simp [cleared item member]
        refine ⟨by simp [nothing], ?_⟩
        intro item member wider
        obtain rfl | later := List.mem_cons.mp member
        · exact hit
        · simp [cleared item later] at wider
      · rintro ⟨single, -⟩ item member
        have nothing : rest.filter wide = [] :=
          List.eq_nil_of_length_eq_zero (by rw [List.length_cons] at single; omega)
        simpa using List.filter_eq_nil_iff.mp nothing item member
    | false =>
      rw [List.eraseP_cons_of_neg (by simp [hit])]
      simp only [List.forall_mem_cons, ih, hit]
      cases wider : wide first <;> simp [wider]

end FirstMatch

namespace IoConnectInfo

def Gives (info : IoConnectInfo) (live : LiveSession) (target : Nat) : Prop :=
  (0 < info.fromSession.sessionId ∧ 0 < info.toSession.sessionId) ∧
    (info.bridgeType.forwards ∧ info.fromSession = .ofSession live ∧
        target = info.toSession.sessionId ∨
      info.bridgeType.backwards ∧ info.toSession = .ofSession live ∧
        target = info.fromSession.sessionId)

theorem Gives.bridges {info : IoConnectInfo} {live : LiveSession} {target : Nat}
    (gives : info.Gives live target) : info.Bridges live := by
  obtain ⟨both, ⟨forwards, begins, -⟩ | ⟨backwards, ends, -⟩⟩ := gives
  · exact ⟨both, .inl ⟨forwards, begins⟩⟩
  · exact ⟨both, .inr ⟨backwards, ends⟩⟩

theorem Gives.positive {info : IoConnectInfo} {live : LiveSession} {target : Nat}
    (gives : info.Gives live target) : 0 < target := by
  obtain ⟨both, ⟨-, -, rfl⟩ | ⟨-, -, rfl⟩⟩ := gives
  · exact both.2
  · exact both.1

end IoConnectInfo

namespace IotoIo

variable (iotoio : IotoIo)

variable (endpoint : IoEndpoint)

/-- The endpoint is gone and nothing else is; targets follow the mappings that stay. -/
structure DeletesCompletely : Prop where
  absent : ∀ info ∈ (iotoio.deleteSessionIoMapping endpoint).2.io2IoList,
    endpoint ∉ info.endpoints
  kept : (iotoio.deleteSessionIoMapping endpoint).2.io2IoList.filter (endpoint ∉ ·.endpoints) =
    iotoio.io2IoList.filter (endpoint ∉ ·.endpoints)
  reset : ∀ info ∈ iotoio.io2IoList, endpoint ∈ info.endpoints →
    ∀ live, info.Gives live (iotoio.targets live) →
      (∀ other ∈ iotoio.io2IoList, endpoint ∉ other.endpoints →
        ¬other.Gives live (iotoio.targets live)) →
      (iotoio.deleteSessionIoMapping endpoint).2.targets live = 0
  unchanged : ∀ other ∈ iotoio.io2IoList, endpoint ∉ other.endpoints →
    ∀ live, other.Gives live (iotoio.targets live) →
      (iotoio.deleteSessionIoMapping endpoint).2.targets live = iotoio.targets live

def othersOf : List IoConnectInfo :=
  iotoio.io2IoList.eraseP (endpoint = ·.fromIo)

def removedOf : List IoConnectInfo :=
  (iotoio.io2IoList.find? (endpoint = ·.fromIo)).toList ++
    ((iotoio.othersOf endpoint).find? (endpoint = ·.toIo)).toList

def Removable : Prop :=
  ((iotoio.othersOf endpoint).filter (endpoint ∈ ·.endpoints)).length ≤ 1 ∧
    ∀ info ∈ iotoio.othersOf endpoint, endpoint ∈ info.endpoints → endpoint = info.toIo

def SharesNoTarget : Prop :=
  ∀ info ∈ iotoio.io2IoList, endpoint ∈ info.endpoints →
    ∀ other ∈ iotoio.io2IoList, endpoint ∉ other.endpoints →
      ∀ live, info.Bridges live → ¬other.Gives live (iotoio.targets live)

theorem delete_eq :
    (iotoio.deleteSessionIoMapping endpoint).2 =
      ⟨(iotoio.othersOf endpoint).eraseP (endpoint = ·.toIo),
        (iotoio.removedOf endpoint).foldl unlinkIoBridge iotoio.targets⟩ := by
  have compared : ∀ target, compareConnectIo endpoint target = decide (endpoint = target) := by
    intro target
    rw [Bool.eq_iff_iff, compareConnectIo_iff, decide_eq_true_eq]
  simp only [deleteSessionIoMapping, compared, removedOf, othersOf]

theorem delete_targets (live : LiveSession) :
    (iotoio.deleteSessionIoMapping endpoint).2.targets live =
      if ∃ info ∈ iotoio.removedOf endpoint, info.Bridges live then 0 else iotoio.targets live := by
  rw [delete_eq]
  exact unlinked_apply _ _ _

theorem mem_removed_or_left (info : IoConnectInfo) :
    info ∈ iotoio.io2IoList ↔ info ∈ iotoio.removedOf endpoint ∨
      info ∈ (iotoio.deleteSessionIoMapping endpoint).2.io2IoList := by
  have begins := mem_iff_found_or_kept (endpoint = ·.fromIo) iotoio.io2IoList info
  have ends := mem_iff_found_or_kept (endpoint = ·.toIo) (iotoio.othersOf endpoint) info
  rw [delete_eq, removedOf, List.mem_append, Option.mem_toList, Option.mem_toList, or_assoc]
  exact begins.trans (or_congr Iff.rfl ends)

theorem removed_mentions {iotoio : IotoIo} {endpoint : IoEndpoint} {info : IoConnectInfo}
    (removed : info ∈ iotoio.removedOf endpoint) : endpoint ∈ info.endpoints := by
  rw [removedOf, List.mem_append, Option.mem_toList, Option.mem_toList] at removed
  rw [IoConnectInfo.mem_endpoints]
  obtain begins | ends := removed
  · exact .inl (by simpa using List.find?_some begins)
  · exact .inr (by simpa using List.find?_some ends)

theorem delete_keeps :
    (iotoio.deleteSessionIoMapping endpoint).2.io2IoList.filter (endpoint ∉ ·.endpoints) =
      iotoio.io2IoList.filter (endpoint ∉ ·.endpoints) := by
  rw [delete_eq, othersOf, filter_eraseP, filter_eraseP]
  · intro info begins
    simp_all [IoConnectInfo.mem_endpoints]
  · intro info ends
    simp_all [IoConnectInfo.mem_endpoints]

theorem absent_iff_removable :
    (∀ info ∈ (iotoio.deleteSessionIoMapping endpoint).2.io2IoList, endpoint ∉ info.endpoints) ↔
      iotoio.Removable endpoint := by
  have narrower : ∀ info : IoConnectInfo, decide (endpoint = info.toIo) = true →
      decide (endpoint ∈ info.endpoints) = true := by
    intro info ends
    simp_all [IoConnectInfo.mem_endpoints]
  have clears := eraseP_clears_iff narrower (iotoio.othersOf endpoint)
  simp only [decide_eq_false_iff_not, decide_eq_true_eq] at clears
  rw [delete_eq]
  exact clears

theorem removed_of_absent {iotoio : IotoIo} {endpoint : IoEndpoint}
    (absent : ∀ info ∈ (iotoio.deleteSessionIoMapping endpoint).2.io2IoList,
      endpoint ∉ info.endpoints)
    {info : IoConnectInfo} (listed : info ∈ iotoio.io2IoList)
    (mentions : endpoint ∈ info.endpoints) : info ∈ iotoio.removedOf endpoint := by
  obtain removed | left := (iotoio.mem_removed_or_left endpoint info).mp listed
  · exact removed
  · exact absurd mentions (absent info left)

/-- A deletion is complete exactly when its two loops reach all mappings of the endpoint and no
session there has its target from another one. -/
theorem deletesCompletely_iff (iotoio : IotoIo) (endpoint : IoEndpoint) :
    iotoio.DeletesCompletely endpoint ↔
      iotoio.Removable endpoint ∧ iotoio.SharesNoTarget endpoint := by
  constructor
  · intro deletes
    refine ⟨(absent_iff_removable iotoio endpoint).mp deletes.absent, ?_⟩
    intro info listed mentions other kept away live bridges gives
    have removed := removed_of_absent deletes.absent listed mentions
    have same := deletes.unchanged other kept away live gives
    rw [delete_targets, if_pos ⟨info, removed, bridges⟩] at same
    exact absurd gives.positive (by omega)
  · rintro ⟨removable, apart⟩
    have absent := (absent_iff_removable iotoio endpoint).mpr removable
    refine ⟨absent, delete_keeps iotoio endpoint, ?_, ?_⟩
    · intro info listed mentions live gives _
      rw [delete_targets, if_pos ⟨info, removed_of_absent absent listed mentions, gives.bridges⟩]
    · intro other kept away live gives
      have untouched : ¬∃ info ∈ iotoio.removedOf endpoint, info.Bridges live := by
        rintro ⟨info, removed, bridges⟩
        have listed := (iotoio.mem_removed_or_left endpoint info).mpr (.inl removed)
        exact apart info listed (removed_mentions removed) other kept away live bridges gives
      rw [delete_targets, if_neg untouched]

def station (number : Nat) : IoEndpoint := ⟨⟨"127.0.0.1", number⟩, .connectIoTcp⟩

def twoIntoOne : IotoIo :=
  ((((init.addSessionIoMapping (station 1) (station 3) .ioBridgeBath).2.addSessionIoMapping
    (station 2) (station 3) .ioBridgeBath).2.regeditBridgeSessionInfo
    (station 1) (.ofSession ⟨1, 1⟩)).regeditBridgeSessionInfo
    (station 2) (.ofSession ⟨2, 2⟩)).regeditBridgeSessionInfo (station 3) (.ofSession ⟨3, 3⟩)

theorem shared_endpoint_left :
    (twoIntoOne.deleteSessionIoMapping (station 3)).2.io2IoList.map IoConnectInfo.endpoints =
        [[station 2, station 3]] ∧
      (twoIntoOne.deleteSessionIoMapping (station 1)).2.io2IoList.map IoConnectInfo.endpoints =
        [[station 2, station 3]] ∧
      twoIntoOne.targets ⟨3, 3⟩ = 2 ∧
      (twoIntoOne.deleteSessionIoMapping (station 1)).2.targets ⟨3, 3⟩ = 0 := by
  decide

end IotoIo

end PssAsio
