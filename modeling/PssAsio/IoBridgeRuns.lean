import PssAsio.IoBridgeTargets
import PssAsio.SeparatedKeys

/-!
Runs of `CIoBridge`. The world keeps the live sessions and the mappings beside the code's own lists.
-/

namespace PssAsio

open PortWiring TransitionRuns Function

theorem address_inj {clientIp otherIp : String} {port otherPort : Nat}
    (same : clientIp ++ ":" ++ toString port = otherIp ++ ":" ++ toString otherPort) :
    clientIp = otherIp ∧ port = otherPort :=
  SeparatedKeys.key_inj rfl (by decide) same

namespace SessionAddrList

theorem suffix_inj {left right suffix other : String} (same : left ++ suffix = right ++ other)
    (long : suffix.toList.length = other.toList.length) : suffix = other := by
  have listed := congrArg String.toList same
  simp only [String.toList_append] at listed
  exact String.toList_inj.mp (List.append_inj_right' listed long)

def keySuffix : ConnectIoType → String
  | .connectIoTcp => " TCP"
  | .connectIoUdp => " UDP"
  | _ => " TTY"

theorem setAddrKey_eq (endpoint : IoEndpoint) :
    setAddrKey endpoint = endpoint.io.clientIp ++ ":" ++ toString endpoint.io.port ++
      keySuffix endpoint.ioType := by
  obtain ⟨io, ioType⟩ := endpoint
  cases ioType <;> rfl

theorem keySuffix_length (ioType : ConnectIoType) : (keySuffix ioType).toList.length = 4 := by
  cases ioType <;> decide

theorem keySuffix_inj {ioType otherType : ConnectIoType}
    (typed : ioType = .connectIoTcp ∨ ioType = .connectIoUdp)
    (same : keySuffix ioType = keySuffix otherType) : ioType = otherType := by
  rcases typed with rfl | rfl <;> cases otherType <;> first | rfl | exact absurd same (by decide)

theorem setAddrKey_inj {first second : IoEndpoint} (typed : first.isTcpOrUdp)
    (same : setAddrKey first = setAddrKey second) : first = second := by
  obtain ⟨⟨clientIp, port⟩, ioType⟩ := first
  obtain ⟨⟨otherIp, otherPort⟩, otherType⟩ := second
  simp only [IoEndpoint.isTcpOrUdp, Bool.or_eq_true, decide_eq_true_eq] at typed
  rw [setAddrKey_eq, setAddrKey_eq] at same
  have suffixes := suffix_inj same (by rw [keySuffix_length, keySuffix_length])
  obtain rfl := keySuffix_inj typed suffixes
  obtain ⟨rfl, rfl⟩ := address_inj ((String.append_left_inj _).mp same)
  rfl

def Known (list : SessionAddrList) (live : IoEndpoint → Option LiveSession) : Prop :=
  ∀ endpoint, endpoint.isTcpOrUdp → list.getSessionAddrInfo endpoint = .ofLive (live endpoint)

variable {list : SessionAddrList} {live : IoEndpoint → Option LiveSession}

theorem known_add (known : list.Known live) (endpoint : IoEndpoint) (session : LiveSession) :
    (list.addSessionAddr endpoint (.ofSession session)).Known
      (update live endpoint (some session)) := by
  intro other alike
  by_cases same : other = endpoint
  · subst same
    simp [getSessionAddrInfo, addSessionAddr, SessionAddrInfo.ofLive]
  · have apart : setAddrKey other ≠ setAddrKey endpoint := mt (setAddrKey_inj alike) same
    rw [update_of_ne same, ← known other alike]
    simp only [getSessionAddrInfo, addSessionAddr, AList.lookup_insert_ne apart]

theorem known_del (known : list.Known live) (endpoint : IoEndpoint) :
    (list.delSessionAddr endpoint).Known (update live endpoint none) := by
  intro other alike
  by_cases same : other = endpoint
  · subst same
    simp [getSessionAddrInfo, delSessionAddr, SessionAddrInfo.ofLive]
  · have apart : setAddrKey other ≠ setAddrKey endpoint := mt (setAddrKey_inj alike) same
    rw [update_of_ne same, ← known other alike]
    simp only [getSessionAddrInfo, delSessionAddr, AList.lookup_erase_ne apart]

end SessionAddrList

/-- A mapping as it was asked for. -/
def IoConnectInfo.bare (info : IoConnectInfo) : IoConnectInfo :=
  { info with fromSession := .unset, toSession := .unset }

@[simp]
theorem endpoints_bare (info : IoConnectInfo) : info.bare.endpoints = info.endpoints := rfl

theorem directs_bare (list : List IoConnectInfo) :
    Directs (list.map IoConnectInfo.bare) = Directs list := by
  funext endpoint opposite
  simp only [Directs, List.mem_map, exists_exists_and_eq_and]
  rfl

theorem separate_bare (list : List IoConnectInfo) :
    Separate (list.map IoConnectInfo.bare) ↔ Separate list := by
  simp only [Separate, List.forall_mem_map, List.pairwise_map]
  rfl

namespace IotoIo

theorem regedit_list (iotoio : IotoIo) (endpoint : IoEndpoint) (session : SessionAddrInfo) :
    (iotoio.regeditBridgeSessionInfo endpoint session).io2IoList =
      iotoio.io2IoList.map (·.place endpoint session) := by
  simp only [regeditBridgeSessionInfo, List.map_map, List.map_inj_left, comp_apply]
  intro info _
  by_cases begins : info.fromIo = endpoint <;> by_cases ends : info.toIo = endpoint <;>
    simp [regeditEntry, IoConnectInfo.place, begins, ends]

theorem unregedit_list (iotoio : IotoIo) (endpoint : IoEndpoint) (sessionId : Nat) :
    (iotoio.unregeditBridgeSessionInfo endpoint sessionId).io2IoList =
      iotoio.io2IoList.map (·.place endpoint .unset) := by
  simp only [unregeditBridgeSessionInfo, List.map_map, List.map_inj_left, comp_apply]
  intro info _
  by_cases begins : info.fromIo = endpoint <;> by_cases ends : info.toIo = endpoint <;>
    simp [unregeditEntry, IoConnectInfo.place, begins, ends]

theorem bare_place (list : List IoConnectInfo) (endpoint : IoEndpoint)
    (session : SessionAddrInfo) :
    (list.map (·.place endpoint session)).map IoConnectInfo.bare = list.map IoConnectInfo.bare := by
  rw [List.map_map]
  rfl

theorem delete_bare {iotoio : IotoIo} (separate : Separate iotoio.io2IoList)
    (endpoint : IoEndpoint) :
    (iotoio.deleteSessionIoMapping endpoint).2.io2IoList.map IoConnectInfo.bare =
      (iotoio.io2IoList.map IoConnectInfo.bare).filter fun info => endpoint ∉ info.endpoints := by
  have kept : ∀ list : List IoConnectInfo, (∀ info ∈ list, endpoint ∉ info.endpoints) →
      (list.map IoConnectInfo.bare).filter (fun info => endpoint ∉ info.endpoints) =
        list.map IoConnectInfo.bare := by
    intro list away
    simpa [List.filter_eq_self] using away
  rcases split_at_endpoint iotoio.io2IoList endpoint with
    away | ⟨before, info, after, split, inside⟩
  · rw [delete_away away, kept _ away]
  · have dropped : ¬decide (endpoint ∉ info.bare.endpoints) = true := by
      rw [decide_eq_true_eq, not_not]
      exact inside
    rw [delete_at split separate inside, split, List.map_append, List.map_append, List.map_cons,
      List.filter_append, List.filter_cons, if_neg dropped]
    rw [split] at separate
    obtain ⟨-, -, away⟩ := separate_middle separate
    obtain ⟨earlier, later⟩ := List.forall_mem_append.mp (away endpoint inside)
    rw [kept before earlier, kept after later]

end IotoIo

namespace IoBridge

open IotoIo

theorem bare_regeditKnown (bridge : IoBridge) (endpoint : IoEndpoint) :
    (bridge.regeditKnownSession endpoint).iotoio.io2IoList.map IoConnectInfo.bare =
      bridge.iotoio.io2IoList.map IoConnectInfo.bare := by
  simp only [regeditKnownSession]
  split
  · simp only [regeditBridgeSessionInfo, regedit_list, bare_place]
  · rfl

theorem separate_regeditKnown (bridge : IoBridge) (endpoint : IoEndpoint) :
    Separate (bridge.regeditKnownSession endpoint).iotoio.io2IoList ↔
      Separate bridge.iotoio.io2IoList := by
  rw [← separate_bare, bare_regeditKnown, separate_bare]

variable {bridge : IoBridge} {live : IoEndpoint → Option LiveSession} {endpoint : IoEndpoint}
  {list : List IoConnectInfo} {info : IoConnectInfo}

/-- The new mapping is the only one at its ends. -/
theorem regeditKnown_last (proper : ProperIds live) (known : bridge.sessionAddrList.Known live)
    (typed : endpoint.isTcpOrUdp) (stored : bridge.iotoio.io2IoList = list ++ [info])
    (separate : Separate bridge.iotoio.io2IoList) (inside : endpoint ∈ info.endpoints)
    (unset : info.place endpoint .unset = info) :
    (bridge.regeditKnownSession endpoint).iotoio =
        ⟨list ++ [info.place endpoint (.ofLive (live endpoint))], linkIoBridge
          bridge.iotoio.targets (info.place endpoint (.ofLive (live endpoint)))⟩ ∧
      (bridge.regeditKnownSession endpoint).sessionAddrList.Known live := by
  have found := known endpoint typed
  cases here : live endpoint with
  | none =>
    rw [here] at found
    have same : bridge.regeditKnownSession endpoint = bridge := by
      simp [regeditKnownSession, found, SessionAddrInfo.ofLive, SessionAddrInfo.unset]
    have alone : info.fromSession.sessionId = 0 ∨ info.toSession.sessionId = 0 := by
      rw [← unset]
      rcases IoConnectInfo.mem_endpoints.mp inside with begins | ends
      · exact .inl (by simp [IoConnectInfo.place, begins, SessionAddrInfo.unset])
      · exact .inr (by simp [IoConnectInfo.place, ends, SessionAddrInfo.unset])
    rw [same, SessionAddrInfo.ofLive, unset, linkIoBridge, setBridgeTargets_alone alone, ← stored]
    exact ⟨rfl, known⟩
  | some session =>
    rw [here] at found
    have registered : bridge.regeditKnownSession endpoint =
        bridge.regeditBridgeSessionInfo endpoint (.ofSession session) := by
      simp [regeditKnownSession, found, SessionAddrInfo.ofLive, SessionAddrInfo.ofSession,
        proper.positive here]
    rw [registered]
    refine ⟨regedit_at stored separate inside _, ?_⟩
    have again := bridge.sessionAddrList.known_add known endpoint session
    rw [← here, update_eq_self] at again
    exact again

def store (bridge : IoBridge) (info : IoConnectInfo) : IoBridge :=
  ⟨⟨bridge.iotoio.io2IoList ++ [info], bridge.iotoio.targets⟩, bridge.sessionAddrList⟩

theorem addSessionIoMapping_cases (bridge : IoBridge) (fromIo toIo : IoEndpoint)
    (bridgeType : IoBridgeType) :
    bridge.addSessionIoMapping fromIo toIo bridgeType = (false, bridge) ∨
      bridge.addSessionIoMapping fromIo toIo bridgeType =
        (true, ((bridge.store { fromIo, toIo, bridgeType }).regeditKnownSession
          fromIo).regeditKnownSession toIo) := by
  by_cases refused : checkIoMapping { fromIo, toIo, bridgeType } bridge.iotoio.io2IoList ≠ 0
  · simp [addSessionIoMapping, IotoIo.addSessionIoMapping, refused]
  · simp [addSessionIoMapping, IotoIo.addSessionIoMapping, refused, store]

theorem tracks_store (proper : ProperIds live) (known : bridge.sessionAddrList.Known live)
    (tracks : bridge.iotoio.Tracks live) (fromTyped : info.fromIo.isTcpOrUdp)
    (toTyped : info.toIo.isTcpOrUdp) (unset : info.fromSession = .unset ∧ info.toSession = .unset)
    (separate : Separate (bridge.store info).iotoio.io2IoList) :
    (((bridge.store info).regeditKnownSession info.fromIo).regeditKnownSession
        info.toIo).iotoio.Tracks live ∧
      (((bridge.store info).regeditKnownSession info.fromIo).regeditKnownSession
        info.toIo).sessionAddrList.Known live := by
  have sided : info.fromIo ≠ info.toIo := (separate_middle separate).2.1
  have recalled : (bridge.store info).sessionAddrList.Known live := known
  obtain ⟨placed, stillKnown⟩ := regeditKnown_last proper recalled fromTyped rfl separate
    (by simp [IoConnectInfo.mem_endpoints])
    (IoConnectInfo.place_eq_self (fun _ => unset.1) (fun _ => unset.2))
  let begun := info.place info.fromIo (.ofLive (live info.fromIo))
  have unfinished : begun.toSession = .unset := by
    simp [begun, IoConnectInfo.place, sided.symm, unset.2]
  have quiet : linkIoBridge (bridge.store info).iotoio.targets begun = bridge.iotoio.targets :=
    setBridgeTargets_alone (.inr (by rw [unfinished]; rfl)) _ _
  rw [quiet] at placed
  have stored : ((bridge.store info).regeditKnownSession info.fromIo).iotoio.io2IoList =
      bridge.iotoio.io2IoList ++ [begun] := by rw [placed]
  have apart := (separate_regeditKnown (bridge.store info) info.fromIo).mpr separate
  obtain ⟨completed, atLast⟩ := regeditKnown_last proper stillKnown toTyped stored apart
    (by simp [begun, IoConnectInfo.mem_endpoints, IoConnectInfo.place])
    (IoConnectInfo.place_eq_self (fun same => absurd same sided) (fun _ => unfinished))
  refine ⟨?_, atLast⟩
  rw [completed, placed]
  apply tracks_join proper
  · exact separate_place (separate_place separate _ _) _ _
  · exact ⟨by simp [begun, IoConnectInfo.place, sided], by simp [begun, IoConnectInfo.place]⟩
  · simpa using tracks

end IoBridge

structure BridgeWorld where
  bridge : IoBridge
  live : AList (fun _ : IoEndpoint => LiveSession)
  mappings : List IoConnectInfo

inductive BridgeAction where
  | addSessionIoMapping (fromIo toIo : IoEndpoint) (bridgeType : IoBridgeType)
  | deleteSessionIoMapping (fromIo : IoEndpoint)
  | regeditBridgeSessionInfo (fromIo : IoEndpoint) (session : LiveSession)
  | unregeditBridgeSessionInfo (fromIo : IoEndpoint) (sessionId : Nat)
  deriving DecidableEq, Repr

def BridgeAction.endpoints : BridgeAction → List IoEndpoint
  | .addSessionIoMapping fromIo toIo _ => [fromIo, toIo]
  | .deleteSessionIoMapping fromIo => [fromIo]
  | .regeditBridgeSessionInfo fromIo _ => [fromIo]
  | .unregeditBridgeSessionInfo fromIo _ => [fromIo]

namespace BridgeWorld

def init : BridgeWorld := ⟨.init, ∅, []⟩

variable (world : BridgeWorld)

def registered (endpoint : IoEndpoint) : Option LiveSession :=
  world.live.lookup endpoint

def target (session : LiveSession) : Nat :=
  world.bridge.iotoio.targets session

def perform : BridgeAction → BridgeWorld
  | .addSessionIoMapping fromIo toIo bridgeType =>
      let added := world.bridge.addSessionIoMapping fromIo toIo bridgeType
      { world with
        bridge := added.2
        mappings := world.mappings ++ if added.1 then [{ fromIo, toIo, bridgeType }] else [] }
  | .deleteSessionIoMapping fromIo =>
      { world with
        bridge := (world.bridge.deleteSessionIoMapping fromIo).2
        mappings := world.mappings.filter fun info => fromIo ∉ info.endpoints }
  | .regeditBridgeSessionInfo fromIo session =>
      { world with
        bridge := world.bridge.regeditBridgeSessionInfo fromIo (.ofSession session)
        live := world.live.insert fromIo session }
  | .unregeditBridgeSessionInfo fromIo sessionId =>
      { world with
        bridge := world.bridge.unregeditBridgeSessionInfo fromIo sessionId
        live := world.live.erase fromIo }

variable (action : BridgeAction)

def step : Option BridgeWorld :=
  some (world.perform action)

def RegistersAfresh : BridgeAction → Prop
  | .regeditBridgeSessionInfo fromIo session => 0 < session.sessionId ∧
      world.registered fromIo = none ∧
      ∀ entry ∈ world.live.entries, entry.2.sessionId ≠ session.sessionId
  | _ => True

/-- On TCP or UDP endpoints, none of them in two mappings; ids are positive and endpoints free. -/
def WellFormed : Prop :=
  (∀ endpoint ∈ action.endpoints, endpoint.isTcpOrUdp) ∧ world.RegistersAfresh action ∧
    Separate (world.perform action).mappings

def Bridged : Prop :=
  ∀ endpoint session, world.registered endpoint = some session →
    (∀ opposite other, Directs world.mappings endpoint opposite →
        world.registered opposite = some other → world.target session = other.sessionId) ∧
      ((∀ opposite, Directs world.mappings endpoint opposite →
          world.registered opposite = none) → world.target session = 0)

instance (action : BridgeAction) : Decidable (world.RegistersAfresh action) := by
  unfold RegistersAfresh
  split <;> infer_instance

deriving instance Decidable for Separate, WellFormed

structure Aligned : Prop where
  proper : ProperIds world.registered
  tracks : world.bridge.iotoio.Tracks world.registered
  known : world.bridge.sessionAddrList.Known world.registered
  listed : world.bridge.iotoio.io2IoList.map IoConnectInfo.bare = world.mappings

theorem Aligned.directs {world : BridgeWorld} (aligned : world.Aligned) :
    Directs world.mappings = Directs world.bridge.iotoio.io2IoList := by
  rw [← aligned.listed, directs_bare]

theorem registered_insert (bridge : IoBridge) (mappings : List IoConnectInfo)
    (world : BridgeWorld) (endpoint : IoEndpoint) (session : LiveSession) :
    (⟨bridge, world.live.insert endpoint session, mappings⟩ : BridgeWorld).registered =
      update world.registered endpoint (some session) := by
  funext other
  by_cases same : other = endpoint
  · subst same
    simp [registered]
  · simp [registered, update_of_ne same, AList.lookup_insert_ne same]

theorem registered_erase (bridge : IoBridge) (mappings : List IoConnectInfo)
    (world : BridgeWorld) (endpoint : IoEndpoint) :
    (⟨bridge, world.live.erase endpoint, mappings⟩ : BridgeWorld).registered =
      update world.registered endpoint none := by
  funext other
  by_cases same : other = endpoint
  · subst same
    simp [registered]
  · simp [registered, update_of_ne same, AList.lookup_erase_ne same]

theorem aligned_add {world : BridgeWorld} (aligned : world.Aligned) {fromIo toIo : IoEndpoint}
    (fromTyped : fromIo.isTcpOrUdp) (toTyped : toIo.isTcpOrUdp) (bridgeType : IoBridgeType)
    (separate : Separate (world.perform (.addSessionIoMapping fromIo toIo bridgeType)).mappings) :
    (world.perform (.addSessionIoMapping fromIo toIo bridgeType)).Aligned := by
  obtain ⟨proper, tracks, known, listed⟩ := aligned
  rcases world.bridge.addSessionIoMapping_cases fromIo toIo bridgeType with refused | added
  · simp only [perform, refused, Bool.false_eq_true, if_false, List.append_nil]
    exact ⟨proper, tracks, known, listed⟩
  · simp only [perform, added, if_true, ← listed] at separate
    have stored : Separate (world.bridge.store { fromIo, toIo, bridgeType }).iotoio.io2IoList := by
      rw [← separate_bare]
      simpa [IoBridge.store, IoConnectInfo.bare] using separate
    obtain ⟨tracked, recalled⟩ :=
      IoBridge.tracks_store proper known tracks fromTyped toTyped ⟨rfl, rfl⟩ stored
    simp only [perform, added, if_true]
    refine ⟨proper, tracked, recalled, ?_⟩
    simp only [IoBridge.bare_regeditKnown, ← listed]
    simp [IoBridge.store, IoConnectInfo.bare]

theorem aligned_step {world next : BridgeWorld} {action : BridgeAction} (aligned : world.Aligned)
    (formed : world.WellFormed action) (stepped : world.step action = some next) :
    next.Aligned := by
  have ⟨proper, tracks, known, listed⟩ := aligned
  obtain ⟨typed, afresh, separate⟩ := formed
  simp only [step, Option.some.injEq] at stepped
  subst stepped
  cases action with
  | addSessionIoMapping fromIo toIo bridgeType =>
    simp only [BridgeAction.endpoints, List.forall_mem_cons] at typed
    exact aligned_add aligned typed.1 typed.2.1 bridgeType separate
  | deleteSessionIoMapping fromIo =>
    refine ⟨proper, IotoIo.tracks_delete proper tracks fromIo, known, ?_⟩
    simp only [perform, ← listed]
    exact IotoIo.delete_bare tracks.separate fromIo
  | regeditBridgeSessionInfo fromIo session =>
    obtain ⟨positive, vacant, fresh⟩ := afresh
    have unused : ∀ endpoint other, world.registered endpoint = some other →
        other.sessionId ≠ session.sessionId := by
      intro endpoint other found
      exact fresh ⟨endpoint, other⟩ (AList.mem_lookup_iff.mp found)
    have improved := proper.insert positive unused fromIo
    simp only [perform]
    rw [← listed, ← IotoIo.bare_place _ fromIo (.ofSession session), ← IotoIo.regedit_list]
    refine ⟨?_, ?_, ?_, rfl⟩ <;> rw [registered_insert]
    · exact improved
    · exact IotoIo.tracks_regedit proper improved vacant tracks
    · exact SessionAddrList.known_add known fromIo session
  | unregeditBridgeSessionInfo fromIo sessionId =>
    have improved := proper.erase fromIo
    simp only [perform]
    rw [← listed, ← IotoIo.bare_place _ fromIo .unset, ← IotoIo.unregedit_list _ _ sessionId]
    refine ⟨?_, ?_, ?_, rfl⟩ <;> rw [registered_erase]
    · exact improved
    · exact IotoIo.tracks_unregedit proper improved tracks sessionId
    · exact SessionAddrList.known_del known fromIo

theorem aligned_init : init.Aligned := by
  have vacant : ∀ endpoint, init.registered endpoint = none := fun _ => AList.lookup_empty _
  have unseated : ∀ {endpoint session}, init.registered endpoint ≠ some session := by
    simp [vacant]
  have separate : Separate [] := ⟨by simp, List.Pairwise.nil⟩
  refine ⟨⟨?_, ?_⟩, ⟨separate, ?_, ⟨?_, ?_⟩⟩, ?_, rfl⟩
  · intro endpoint session found
    exact absurd found unseated
  · intro endpoint other session second found
    exact absurd found unseated
  · intro info member
    exact absurd member List.not_mem_nil
  · intro endpoint opposite first second _ found
    exact absurd found unseated
  · intro first busy
    exact absurd rfl busy
  · intro endpoint _
    rw [vacant]
    rfl

theorem bridged_of_aligned {world : BridgeWorld} (aligned : world.Aligned) : world.Bridged := by
  intro endpoint session sits
  rw [aligned.directs]
  constructor
  · intro opposite other directed meets
    exact aligned.tracks.settled.wired directed sits meets
  · intro alone
    exact idle_of_alone aligned.tracks.settled aligned.proper.seatedOnce sits alone

/-- Along well-formed runs the target of a session is the session at the opposite end, if any. -/
theorem bridged_throughout {actions : List BridgeAction}
    (formed : Throughout step WellFormed init actions) : Always step Bridged init actions := by
  apply always_of_invariant (fun _ _ _ => aligned_step) _ aligned_init formed
  intro world aligned
  exact bridged_of_aligned aligned

/-- Runs that end with the same mappings and sessions end with the same targets. -/
theorem target_eq_of_same_wiring (first second : List BridgeAction) {world other : BridgeWorld}
    (formed : Throughout step WellFormed init first) (ran : run step init first = some world)
    (alike : Throughout step WellFormed init second) (reran : run step init second = some other)
    (mapped : Directs world.mappings = Directs other.mappings)
    (seated : world.registered = other.registered) : world.target = other.target := by
  have aligned :=
    run_invariant WellFormed Aligned (fun _ _ _ => aligned_step) aligned_init formed ran
  have realigned :=
    run_invariant WellFormed Aligned (fun _ _ _ => aligned_step) aligned_init alike reran
  have settled := aligned.tracks.settled
  have resettled := realigned.tracks.settled
  rw [← aligned.directs, mapped, realigned.directs, seated] at settled
  exact settled_unique settled resettled

def tcpHost : IoEndpoint := ⟨⟨"127.0.0.1", 10033⟩, .connectIoTcp⟩

def udpHost : IoEndpoint := ⟨⟨"127.0.0.1", 10033⟩, .connectIoUdp⟩

def mappedBetween : List BridgeAction :=
  [.regeditBridgeSessionInfo tcpHost ⟨0, 1⟩, .addSessionIoMapping tcpHost udpHost .ioBridgeBath,
    .regeditBridgeSessionInfo udpHost ⟨7, 2⟩]

def mappedLast : List BridgeAction :=
  [.regeditBridgeSessionInfo tcpHost ⟨0, 1⟩, .regeditBridgeSessionInfo udpHost ⟨7, 2⟩,
    .addSessionIoMapping tcpHost udpHost .ioBridgeBath]

theorem same_target_in_both_orders :
    ∃ world other, run step init mappedBetween = some world ∧
      run step init mappedLast = some other ∧ world.target = other.target :=
  ⟨_, _, rfl, rfl, target_eq_of_same_wiring mappedBetween mappedLast (by decide) rfl (by decide) rfl
    rfl rfl⟩

theorem bridged_throughout_relink :
    Always step Bridged init (mappedBetween ++ [.deleteSessionIoMapping udpHost,
      .addSessionIoMapping udpHost tcpHost .ioBridgeFrom, .unregeditBridgeSessionInfo tcpHost 1]) ∧
    (run step init mappedBetween).map (fun world =>
      (world.mappings.length, world.target ⟨0, 1⟩, world.target ⟨7, 2⟩)) = some (1, 2, 1) :=
  ⟨bridged_throughout (by decide), by decide⟩

end BridgeWorld

end PssAsio
