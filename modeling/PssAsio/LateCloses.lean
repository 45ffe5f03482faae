import PssAsio.SessionRegistrationCore

/-!
Closes that come after another session has registered at the same endpoint and server.
-/

namespace PssAsio

open SessionAddrList TransitionRuns

/-- What a session has in the bridge and in the service. -/
@[ext] structure Standing where
  listed : Bool
  places : List (Bool × Bool)
  target : Nat
  linked : Bool
  deriving DecidableEq, Repr

namespace SessionRegistry

variable (registry : SessionRegistry)

def standing (held : ThreadSession) : Standing where
  listed := registry.ioBridge.sessionAddrList.sessionAddrList.lookup (setAddrKey held.remote) =
    some (.ofSession held.session)
  places := registry.ioBridge.iotoio.io2IoList.map fun info =>
    (decide (info.fromSession = .ofSession held.session),
      decide (info.toSession = .ofSession held.session))
  target := registry.ioBridge.iotoio.targets held.session
  linked := 0 < held.markId ∧
    registry.communicateService.getConnectId held.markId = held.session.sessionId

def closeSession (closed : ThreadSession) : SessionRegistry :=
  registry.deleteThreadSession closed.session.sessionId closed.markId closed.remote

end SessionRegistry

structure ReconnectWorld where
  registry : SessionRegistry
  sessions : List ThreadSession

inductive ReconnectAction where
  | addThreadSession (added : ThreadSession)
  | deleteThreadSession (index : Nat)
  | addSessionIoMapping (fromIo toIo : IoEndpoint) (bridgeType : IoBridgeType)
  | deleteSessionIoMapping (fromIo : IoEndpoint)
  | ioConnect (connectInfo : CommunicationIoInfo)
  | setSession (serverId session : Nat)
  | closeConnect (serverId : Nat)
  deriving DecidableEq, Repr

namespace ReconnectWorld

variable (registry : SessionRegistry)

def starting : ReconnectWorld := ⟨registry, []⟩

variable (world : ReconnectWorld)

def onBridge (ioBridge : IoBridge) : ReconnectWorld :=
  { world with registry := { world.registry with ioBridge } }

def onService (communicateService : CommunicationService) : ReconnectWorld :=
  { world with registry := { world.registry with communicateService } }

/-- `CreateCounter` hands out every connect id once, from 1 on. -/
def Fresh (added : ThreadSession) : Prop :=
  0 < added.session.sessionId ∧
    ∀ earlier ∈ world.sessions, earlier.session.sessionId ≠ added.session.sessionId
  deriving Decidable

def step : ReconnectAction → Option ReconnectWorld
  | .addThreadSession added =>
      if world.Fresh added then
        some ⟨world.registry.addThreadSession added, world.sessions ++ [added]⟩
      else none
  | .deleteThreadSession index =>
      (world.sessions[index]?).map fun closed =>
        { world with registry := world.registry.closeSession closed }
  | .addSessionIoMapping fromIo toIo bridgeType =>
      some (world.onBridge
        (world.registry.ioBridge.addSessionIoMapping fromIo toIo bridgeType).2)
  | .deleteSessionIoMapping fromIo =>
      some (world.onBridge (world.registry.ioBridge.deleteSessionIoMapping fromIo).2)
  | .ioConnect connectInfo =>
      some (world.onService (world.registry.communicateService.ioConnect connectInfo).1)
  | .setSession serverId session =>
      some (world.onService (world.registry.communicateService.setSession serverId session))
  | .closeConnect serverId =>
      some (world.onService (world.registry.communicateService.closeConnect serverId))

def successors (index : Nat) (closed : ThreadSession) : List ThreadSession :=
  (world.sessions.drop (index + 1)).filter fun later =>
    later.remote = closed.remote ∧ later.markId = closed.markId

def OnSuccessors (asked : SessionRegistry → ThreadSession → ThreadSession → Prop)
    (world : ReconnectWorld) : ReconnectAction → Prop
  | .deleteThreadSession index => ∀ closed ∈ world.sessions[index]?,
      ∀ later ∈ world.successors index closed, asked world.registry closed later
  | _ => True

variable (closed : ThreadSession)

variable (later : ThreadSession)

def Spares : Prop :=
  (registry.closeSession closed).standing later = registry.standing later
  deriving Decidable

/-- The successor is found where the close looks. -/
def Found : Prop :=
  registry.ioBridge.sessionAddrList.sessionAddrList.lookup (setAddrKey closed.remote) =
      some (.ofSession later.session) ∨
    (∃ info ∈ registry.ioBridge.iotoio.io2IoList,
      info.fromIo = closed.remote ∧ info.fromSession = .ofSession later.session ∨
        info.toIo = closed.remote ∧ info.toSession = .ofSession later.session) ∨
    (registry.ioBridge.iotoio.targets later.session ≠ 0 ∧
      ∃ info ∈ registry.ioBridge.iotoio.io2IoList,
        closed.remote ∈ info.endpoints ∧ info.Bridges later.session) ∨
    0 < closed.markId ∧
      registry.communicateService.getConnectId closed.markId = later.session.sessionId

instance (asked : SessionRegistry → ThreadSession → ThreadSession → Prop)
    [∀ registry closed later, Decidable (asked registry closed later)] (world : ReconnectWorld)
    (action : ReconnectAction) : Decidable (OnSuccessors asked world action) := by
  unfold OnSuccessors
  split <;> infer_instance

end ReconnectWorld

theorem SessionAddrInfo.ofSession_ne_unset (live : LiveSession) :
    SessionAddrInfo.unset ≠ .ofSession live := by
  simp [unset, ofSession]

namespace CommunicationService

theorem getConnectId_setConnectId_zero (service : CommunicationService) (serverId : Nat) :
    (service.setConnectId serverId 0).getConnectId serverId = 0 := by
  cases found : service.communicationList.lookup serverId with
  | none | some info => simp [setConnectId, getConnectId, found]

end CommunicationService

namespace SessionRegistry

variable {registry : SessionRegistry} {closed later : ThreadSession}

theorem listed_closed_iff (same : later.remote = closed.remote) :
    ((registry.closeSession closed).standing later).listed = (registry.standing later).listed ↔
      registry.ioBridge.sessionAddrList.sessionAddrList.lookup (setAddrKey closed.remote) ≠
        some (.ofSession later.session) := by
  have erased : ((registry.closeSession closed).standing later).listed = false := by
    apply decide_eq_false
    rw [same]
    simp [closeSession, deleteThreadSession, IoBridge.unregeditBridgeSessionInfo, delSessionAddr]
  rw [erased, eq_comm, standing, decide_eq_false_iff_not, same]

theorem places_closed_iff :
    ((registry.closeSession closed).standing later).places = (registry.standing later).places ↔
      ¬∃ info ∈ registry.ioBridge.iotoio.io2IoList,
        info.fromIo = closed.remote ∧ info.fromSession = .ofSession later.session ∨
          info.toIo = closed.remote ∧ info.toSession = .ofSession later.session := by
  simp only [standing, closeSession, deleteThreadSession, IoBridge.unregeditBridgeSessionInfo,
    IotoIo.unregedit_list, List.map_map, List.map_inj_left, Function.comp_apply, not_exists,
    not_and, not_or]
  refine forall₂_congr fun info _ => ?_
  have unset := SessionAddrInfo.ofSession_ne_unset later.session
  by_cases begins : info.fromIo = closed.remote <;> by_cases ends : info.toIo = closed.remote <;>
    simp [IoConnectInfo.place, begins, ends, unset]

theorem target_closed_iff :
    ((registry.closeSession closed).standing later).target = (registry.standing later).target ↔
      ¬(registry.ioBridge.iotoio.targets later.session ≠ 0 ∧
        ∃ info ∈ registry.ioBridge.iotoio.io2IoList,
          closed.remote ∈ info.endpoints ∧ info.Bridges later.session) := by
  simp only [standing, closeSession, deleteThreadSession, IoBridge.unregeditBridgeSessionInfo,
    IotoIo.unregedit_targets]
  split
  · rename_i unlinked
    rw [not_and_or, not_not]
    exact ⟨fun kept => .inl kept.symm, fun idle => (idle.resolve_right (not_not.mpr unlinked)).symm⟩
  · rename_i kept
    exact ⟨fun _ both => kept both.2, fun _ => rfl⟩

theorem linked_closed_iff (same : later.markId = closed.markId)
    (positive : 0 < later.session.sessionId) :
    ((registry.closeSession closed).standing later).linked = (registry.standing later).linked ↔
      ¬(0 < closed.markId ∧
        registry.communicateService.getConnectId closed.markId = later.session.sessionId) := by
  have cleared : ((registry.closeSession closed).standing later).linked = false := by
    apply decide_eq_false
    rw [same, not_and, closeSession, deleteThreadSession]
    intro marked
    rw [CommunicationService.linkSession, if_pos marked,
      CommunicationService.getConnectId_setConnectId_zero]
    exact Nat.ne_of_lt positive
  rw [cleared, eq_comm, standing, decide_eq_false_iff_not, same]

end SessionRegistry

namespace IoBridge

theorem regeditKnown_lookup (bridge : IoBridge) (endpoint : IoEndpoint) (key : String) :
    (bridge.regeditKnownSession endpoint).sessionAddrList.sessionAddrList.lookup key =
      bridge.sessionAddrList.sessionAddrList.lookup key := by
  simp only [regeditKnownSession]
  split
  · rename_i known
    by_cases same : key = setAddrKey endpoint
    · subst same
      exact (AList.lookup_insert _).trans (lookup_of_positive known.1).symm
    · exact AList.lookup_insert_ne same
  · rfl

theorem addMapping_lookup (bridge : IoBridge) (fromIo toIo : IoEndpoint)
    (bridgeType : IoBridgeType) (key : String) :
    (bridge.addSessionIoMapping fromIo toIo bridgeType).2.sessionAddrList.sessionAddrList.lookup
        key = bridge.sessionAddrList.sessionAddrList.lookup key := by
  rcases bridge.addSessionIoMapping_cases fromIo toIo bridgeType with same | added
  · rw [same]
  · rw [added, regeditKnown_lookup, regeditKnown_lookup]
    rfl

end IoBridge

namespace ReconnectWorld

variable {closed later : ThreadSession} {next world : ReconnectWorld}

theorem spares_iff_not_found {registry : SessionRegistry} (remote : later.remote = closed.remote)
    (markId : later.markId = closed.markId) (positive : 0 < later.session.sessionId) :
    Spares registry closed later ↔ ¬Found registry closed later := by
  rw [Spares, Standing.ext_iff, SessionRegistry.listed_closed_iff remote,
    SessionRegistry.places_closed_iff, SessionRegistry.target_closed_iff,
    SessionRegistry.linked_closed_iff markId positive]
  simp only [Found, not_or]

def Numbered (world : ReconnectWorld) : Prop :=
  ∀ held ∈ world.sessions, 0 < held.session.sessionId

theorem numbered_step {action : ReconnectAction} (numbered : world.Numbered)
    (stepped : world.step action = some next) : next.Numbered := by
  cases action with
  | addThreadSession added =>
    simp only [step] at stepped
    split at stepped
    · rename_i fresh
      cases stepped
      exact List.forall_mem_append.mpr ⟨numbered, List.forall_mem_singleton.mpr fresh.1⟩
    · cases stepped
  | deleteThreadSession index =>
    obtain ⟨closed, _, rfl⟩ := Option.map_eq_some_iff.mp stepped
    exact numbered
  | addSessionIoMapping | deleteSessionIoMapping | ioConnect | setSession | closeConnect =>
    cases stepped
    exact numbered

theorem onSuccessors_congr {first second : SessionRegistry → ThreadSession → ThreadSession → Prop}
    (same : ∀ closed later, later ∈ world.sessions → later.remote = closed.remote → later.markId =
      closed.markId → (first world.registry closed later ↔ second world.registry closed later))
    (action : ReconnectAction) :
    world.OnSuccessors first action ↔ world.OnSuccessors second action := by
  cases action with
  | deleteThreadSession index =>
    refine forall₂_congr fun closed _ => forall₂_congr fun later member => ?_
    obtain ⟨after, alike⟩ := List.mem_filter.mp member
    obtain ⟨remote, markId⟩ := of_decide_eq_true alike
    exact same closed later (List.mem_of_mem_drop after) remote markId
  | addThreadSession | addSessionIoMapping | deleteSessionIoMapping | ioConnect | setSession |
    closeConnect => rfl

structure Succeeds (index : Nat) (closed later : ThreadSession) (world : ReconnectWorld) :
    Prop where
  earlier : world.sessions[index]? = some closed
  listed : world.registry.ioBridge.sessionAddrList.sessionAddrList.lookup
    (setAddrKey later.remote) = some (.ofSession later.session)

def Undisturbed (key : String) (world : ReconnectWorld) : ReconnectAction → Prop
  | .addThreadSession added => setAddrKey added.remote ≠ key
  | .deleteThreadSession index =>
      ∀ closed, world.sessions[index]? = some closed → setAddrKey closed.remote ≠ key
  | _ => True

theorem succeeds_step {index : Nat} {action : ReconnectAction}
    (succeeds : Succeeds index closed later world)
    (undisturbed : Undisturbed (setAddrKey later.remote) world action)
    (stepped : world.step action = some next) : Succeeds index closed later next := by
  obtain ⟨earlier, listed⟩ := succeeds
  cases action with
  | addThreadSession added =>
    simp only [step] at stepped
    split at stepped
    · cases stepped
      refine ⟨?_, ?_⟩
      · rw [List.getElem?_append_left (List.getElem?_eq_some_iff.mp earlier).1, earlier]
      · exact (AList.lookup_insert_ne (Ne.symm undisturbed)).trans listed
    · cases stepped
  | deleteThreadSession other =>
    obtain ⟨ended, found, rfl⟩ := Option.map_eq_some_iff.mp stepped
    have apart := undisturbed ended found
    exact ⟨earlier, (AList.lookup_erase_ne (Ne.symm apart)).trans listed⟩
  | addSessionIoMapping fromIo toIo bridgeType =>
    cases stepped
    exact ⟨earlier, (IoBridge.addMapping_lookup _ _ _ _ _).trans listed⟩
  | deleteSessionIoMapping | ioConnect | setSession | closeConnect =>
    cases stepped
    exact ⟨earlier, listed⟩

theorem succeeds_added {index : Nat} (earlier : world.sessions[index]? = some closed)
    (added : world.step (.addThreadSession later) = some next) :
    Succeeds index closed later next := by
  simp only [step] at added
  split at added
  · cases added
    refine ⟨?_, AList.lookup_insert _⟩
    rw [List.getElem?_append_left (List.getElem?_eq_some_iff.mp earlier).1, earlier]
  · cases added

/-- However many calls come between, the close of an earlier session takes the entry of the last
one. -/
theorem late_close_takes_entry (world : ReconnectWorld) (closed later : ThreadSession)
    (actions : List ReconnectAction) {index : Nat} {registered finish : ReconnectWorld}
    (earlier : world.sessions[index]? = some closed) (remote : later.remote = closed.remote)
    (added : world.step (.addThreadSession later) = some registered)
    (undisturbed : Throughout step (Undisturbed (setAddrKey later.remote)) registered actions)
    (ran : run step registered actions = some finish) :
    (finish.registry.standing later).listed = true ∧
      ∃ last, finish.step (.deleteThreadSession index) = some last ∧
        (last.registry.standing later).listed = false := by
  obtain ⟨found, listed⟩ := run_invariant (Undisturbed (setAddrKey later.remote))
    (Succeeds index closed later) (fun _ _ _ => succeeds_step) (succeeds_added earlier added)
    undisturbed ran
  have held : (finish.registry.standing later).listed = true := decide_eq_true listed
  refine ⟨held, _, congrArg (Option.map _) found, Bool.eq_false_iff.mpr fun stays => ?_⟩
  rw [remote] at listed
  exact (SessionRegistry.listed_closed_iff remote).mp (stays.trans held.symm) listed

/-- The closes spare the later sessions exactly when none is found where a close looks. -/
theorem successors_spared_iff (registry : SessionRegistry) (actions : List ReconnectAction) :
    Throughout step (OnSuccessors Spares) (starting registry) actions ↔
      Throughout step (OnSuccessors fun current closed later => ¬Found current closed later)
        (starting registry) actions := by
  apply throughout_congr (fun _ _ _ => numbered_step)
  · intro world action numbered
    apply onSuccessors_congr
    intro closed later member remote markId
    exact spares_iff_not_found remote markId (numbered later member)
  · intro held member
    exact absurd member List.not_mem_nil

def serverHost : IoEndpoint := ⟨⟨"10.0.0.9", 7000⟩, .connectIoServerTcp⟩

def firstLink : ThreadSession := ⟨⟨0, 1⟩, 7, serverHost⟩

def secondLink : ThreadSession := ⟨⟨2, 3⟩, 7, serverHost⟩

def linked : ReconnectWorld := ⟨SessionRegistry.init.addThreadSession firstLink, [firstLink]⟩

def mapped : List ReconnectAction :=
  [.addSessionIoMapping BridgeWorld.tcpHost serverHost .ioBridgeBath]

theorem close_after_relink_takes_entry :
    ∃ registered finish, linked.step (.addThreadSession secondLink) = some registered ∧
      run step registered mapped = some finish ∧
      (finish.registry.standing secondLink).listed = true ∧
      ∃ last, finish.step (.deleteThreadSession 0) = some last ∧
        (last.registry.standing secondLink).listed = false :=
  ⟨_, _, rfl, rfl, late_close_takes_entry linked firstLink secondLink mapped rfl rfl rfl
    ⟨trivial, trivial⟩ rfl⟩

def relinked : List ReconnectAction :=
  [.ioConnect (CommunicationService.newConnect ⟨7, true⟩ .connectIoTcp),
    .addThreadSession firstLink, .addThreadSession ⟨⟨1, 2⟩, 0, BridgeWorld.tcpHost⟩,
    .addSessionIoMapping BridgeWorld.tcpHost serverHost .ioBridgeBath,
    .addThreadSession secondLink]

theorem late_close_harms_successor :
    ((run step (starting .init) relinked).map (·.registry.standing secondLink) =
        some ⟨true, [(false, true)], 2, true⟩ ∧
      (run step (starting .init) (relinked ++ [.deleteThreadSession 0])).map
          (·.registry.standing secondLink) = some ⟨false, [(false, false)], 0, false⟩) ∧
      ¬Throughout step (OnSuccessors Spares) (starting .init)
        (relinked ++ [.deleteThreadSession 0]) := by
  decide

end ReconnectWorld

end PssAsio
