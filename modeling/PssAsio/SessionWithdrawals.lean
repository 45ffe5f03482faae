import PssAsio.SessionObjectsCore

/-!
Whether the bridge forgets the sessions that are closed.
-/

namespace PssAsio

open SessionAddrList TransitionRuns

namespace IoBridge

variable (bridge : IoBridge)

variable (sessionId : Nat)

def Forgot : Prop :=
  bridge.Holds fun _ session => session.sessionId ≠ sessionId

def HeldAt (endpoint : IoEndpoint) : Prop :=
  ∀ info ∈ bridge.iotoio.io2IoList,
    (info.fromSession.sessionId = sessionId → info.fromIo = endpoint) ∧
      (info.toSession.sessionId = sessionId → info.toIo = endpoint)

instance : Decidable (bridge.Forgot sessionId) :=
  decidable_of_iff
    ((∀ entry ∈ bridge.sessionAddrList.sessionAddrList.entries, entry.2.sessionId ≠ sessionId) ∧
      ∀ info ∈ bridge.iotoio.io2IoList,
        info.fromSession.sessionId ≠ sessionId ∧ info.toSession.sessionId ≠ sessionId)
    ⟨fun both => ⟨both.1, both.2⟩, fun holds => ⟨holds.listed, holds.mapped⟩⟩

instance (endpoint : IoEndpoint) : Decidable (bridge.HeldAt sessionId endpoint) :=
  inferInstanceAs (Decidable (∀ info ∈ _, _ ∧ _))

variable {bridge}

theorem Holds.mono {first second : String → SessionAddrInfo → Prop} (holds : bridge.Holds first)
    (weaker : ∀ key session, first key session → second key session) : bridge.Holds second :=
  ⟨fun entry member => weaker _ _ (holds.listed entry member),
    fun info member => ⟨weaker _ _ (holds.mapped info member).1,
      weaker _ _ (holds.mapped info member).2⟩⟩

theorem not_forgot_regedit (bridge : IoBridge) (endpoint : IoEndpoint) (live : LiveSession) :
    ¬(bridge.regeditBridgeSessionInfo endpoint (.ofSession live)).Forgot live.sessionId := by
  intro forgot
  refine forgot.listed ⟨setAddrKey endpoint, .ofSession live⟩ ?_ rfl
  exact AList.mem_lookup_iff.mp (AList.lookup_insert _)

theorem forgot_unregedit_iff {endpoint : IoEndpoint} {sessionId : Nat} (positive : 0 < sessionId)
    (keyed : ∀ entry ∈ bridge.sessionAddrList.sessionAddrList.entries, entry.2.sessionId = sessionId
      → entry.1 = setAddrKey endpoint) :
    (bridge.unregeditBridgeSessionInfo endpoint sessionId).Forgot sessionId ↔
      bridge.HeldAt sessionId endpoint := by
  have unset : SessionAddrInfo.unset.sessionId ≠ sessionId := Nat.ne_of_lt positive
  have mapped : (∀ info ∈ (bridge.unregeditBridgeSessionInfo endpoint sessionId).iotoio.io2IoList,
      info.Meets fun _ session => session.sessionId ≠ sessionId) ↔
      bridge.HeldAt sessionId endpoint := by
    simp only [unregeditBridgeSessionInfo, IotoIo.unregedit_list, List.forall_mem_map, HeldAt]
    refine forall₂_congr fun info _ => ?_
    by_cases begins : info.fromIo = endpoint <;> by_cases ends : info.toIo = endpoint <;>
      simp [IoConnectInfo.Meets, IoConnectInfo.place, begins, ends, unset]
  refine ⟨fun forgot => mapped.mp forgot.mapped, fun held => ⟨?_, mapped.mpr held⟩⟩
  intro entry member same
  have key := keyed entry ((List.kerase_sublist _ _).subset member) same
  have found : ((bridge.sessionAddrList.sessionAddrList).erase (setAddrKey endpoint)).lookup
      entry.1 = some entry.2 := AList.mem_lookup_iff.mpr member
  rw [key, AList.lookup_erase] at found
  cases found

def Typed (bridge : IoBridge) : Prop :=
  ∀ info ∈ bridge.iotoio.io2IoList, ∀ endpoint ∈ info.endpoints, endpoint.isTcpOrUdp

theorem typed_regedit (typed : bridge.Typed) (endpoint : IoEndpoint) (session : SessionAddrInfo) :
    (bridge.regeditBridgeSessionInfo endpoint session).Typed := by
  simp only [Typed, regeditBridgeSessionInfo, IotoIo.regedit_list, List.forall_mem_map]
  exact typed

theorem typed_unregedit (typed : bridge.Typed) (endpoint : IoEndpoint) (sessionId : Nat) :
    (bridge.unregeditBridgeSessionInfo endpoint sessionId).Typed := by
  simp only [Typed, unregeditBridgeSessionInfo, IotoIo.unregedit_list, List.forall_mem_map]
  exact typed

theorem typed_regeditKnown (typed : bridge.Typed) (endpoint : IoEndpoint) :
    (bridge.regeditKnownSession endpoint).Typed := by
  simp only [regeditKnownSession]
  split
  · exact typed_regedit typed _ _
  · exact typed

theorem typed_addMapping (typed : bridge.Typed) {fromIo toIo : IoEndpoint}
    (fromTyped : fromIo.isTcpOrUdp) (toTyped : toIo.isTcpOrUdp) (bridgeType : IoBridgeType) :
    (bridge.addSessionIoMapping fromIo toIo bridgeType).2.Typed := by
  rcases bridge.addSessionIoMapping_cases fromIo toIo bridgeType with same | added
  · rw [same]
    exact typed
  · rw [added]
    apply typed_regeditKnown
    apply typed_regeditKnown
    refine List.forall_mem_append.mpr ⟨typed, List.forall_mem_singleton.mpr ?_⟩
    simp [IoConnectInfo.endpoints, fromTyped, toTyped]

end IoBridge

structure SessionWorld where
  host : SessionHost
  registry : SessionRegistry
  registered : AList fun _ : Nat => ThreadSession
  withdrawals : List ThreadSession

namespace SessionWorld

def init : SessionWorld := ⟨.init, .init, ∅, []⟩

variable (world : SessionWorld)

def onBridge (ioBridge : IoBridge) : SessionWorld :=
  { world with registry := { world.registry with ioBridge } }

def perform : RegistryCall → SessionWorld
  | .addThreadSession added =>
      { world with
        registry := world.registry.addThreadSession added
        registered := world.registered.insert added.session.sessionId added }
  | .deleteThreadSession closing =>
      { world with
        registry := world.registry.deleteThreadSession closing.session.sessionId closing.markId
          closing.remote
        withdrawals := world.withdrawals ++ [closing] }
  | .addSessionIoMapping fromIo toIo bridgeType => world.onBridge
      (world.registry.ioBridge.addSessionIoMapping fromIo toIo bridgeType).2
  | .deleteSessionIoMapping fromIo => world.onBridge
      (world.registry.ioBridge.deleteSessionIoMapping fromIo).2

def advance (moved : SessionHost × Option RegistryCall) : SessionWorld :=
  match moved.2 with
  | some call => { world with host := moved.1 }.perform call
  | none => { world with host := moved.1 }

def step (world : SessionWorld) (action : SessionAction) : Option SessionWorld :=
  (world.host.step action).map world.advance

def Withdrawn : Prop :=
  ∀ closing ∈ world.withdrawals, ∀ added ∈ world.registered.lookup closing.session.sessionId,
    closing.remote = added.remote ∧ world.registry.ioBridge.Forgot closing.session.sessionId
  deriving Decidable

/-- A withdrawn session is not a KCP session, and no mapping holds its address key at another end.
-/
def Admits : RegistryCall → Prop
  | .addThreadSession added =>
      ∀ closing ∈ world.withdrawals, closing.session.sessionId ≠ added.session.sessionId
  | .deleteThreadSession closing =>
      ∀ _added ∈ world.registered.lookup closing.session.sessionId,
        closing.remote.ioType ≠ .connectIoKcp ∧
          world.registry.ioBridge.HeldAt closing.session.sessionId closing.remote
  | .addSessionIoMapping .. | .deleteSessionIoMapping _ => True

def Calling (asked : SessionWorld → RegistryCall → Prop) (world : SessionWorld)
    (action : SessionAction) : Prop :=
  ∀ moved ∈ world.host.step action, ∀ call ∈ moved.2, asked world call

def Orderly : SessionWorld → SessionAction → Prop := Calling Admits

instance (call : RegistryCall) : Decidable (world.Admits call) := by
  unfold Admits
  split <;> infer_instance

instance (action : SessionAction) : Decidable (world.Orderly action) :=
  inferInstanceAs (Decidable (∀ moved ∈ world.host.step action, ∀ call ∈ moved.2, _))

def Keyed (host : SessionHost) (key : String) (session : SessionAddrInfo) : Prop :=
  0 < session.sessionId → ∃ remote,
    host.assigned.lookup session.sessionId = some remote ∧ key = setAddrKey remote

structure Grounded : Prop where
  consistent : world.host.Consistent
  noted : ∀ {connectId added}, world.registered.lookup connectId = some added →
    world.host.assigned.lookup connectId = some added.remote
  keyed : world.registry.ioBridge.Holds (Keyed world.host)

variable {world} {call : RegistryCall}

theorem keyed_unset (host : SessionHost) (key : String) : Keyed host key .unset :=
  fun positive => absurd positive (Nat.lt_irrefl 0)

theorem grounded_host (grounded : world.Grounded) {host : SessionHost}
    (consistent : host.Consistent) (grown : SessionHost.Extends world.host host) :
    ({ world with host } : SessionWorld).Grounded := by
  refine ⟨consistent, fun found => grown.kept (grounded.noted found), grounded.keyed.mono ?_⟩
  intro key session keyed positive
  obtain ⟨remote, found, same⟩ := keyed positive
  exact ⟨remote, grown.kept found, same⟩

theorem grounded_perform (grounded : world.Grounded) (told : world.host.CallTold call) :
    (world.perform call).Grounded := by
  obtain ⟨consistent, noted, keyed⟩ := grounded
  cases call with
  | addThreadSession added =>
    refine ⟨consistent, ?_, IoBridge.holds_regedit keyed fun _ => ⟨added.remote, told, rfl⟩⟩
    intro connectId other found
    by_cases new : connectId = added.session.sessionId
    · subst new
      rw [perform, AList.lookup_insert, Option.some.injEq] at found
      exact found ▸ told
    · rw [perform, AList.lookup_insert_ne new] at found
      exact noted found
  | deleteThreadSession closing =>
    exact ⟨consistent, noted, IoBridge.holds_unregedit keyed _ (keyed_unset _ _)⟩
  | addSessionIoMapping fromIo toIo bridgeType =>
    exact ⟨consistent, noted, IoBridge.holds_addMapping keyed (keyed_unset _) _ _ _⟩
  | deleteSessionIoMapping fromIo =>
    exact ⟨consistent, noted, IoBridge.holds_deleteMapping keyed fromIo⟩

variable {action : SessionAction} {next : SessionWorld}

theorem grounded_step (grounded : world.Grounded) (stepped : world.step action = some next) :
    next.Grounded := by
  obtain ⟨moved, found, rfl⟩ := Option.map_eq_some_iff.mp stepped
  obtain ⟨consistent, grown, told⟩ := SessionHost.step_moves grounded.consistent found
  have hosted := grounded_host grounded consistent grown
  simp only [advance]
  split
  · rename_i call made
    exact grounded_perform hosted (told call made)
  · exact hosted

theorem grounded_init : init.Grounded := by
  refine ⟨SessionHost.consistent_init, ?_, IoBridge.holds_init _⟩
  intro connectId added found
  exact absurd found (by simp [init])

theorem add_withdrawn_iff (withdrawn : world.Withdrawn) (added : ThreadSession) :
    (world.perform (.addThreadSession added)).Withdrawn ↔
      world.Admits (.addThreadSession added) := by
  constructor
  · intro still closing member same
    have found : (world.perform (.addThreadSession added)).registered.lookup
        closing.session.sessionId = some added := by
      rw [same]
      exact AList.lookup_insert _
    have forgot := (still closing member added found).2
    rw [same] at forgot
    exact IoBridge.not_forgot_regedit _ _ _ forgot
  · intro fresh closing member other found
    have apart := fresh closing member
    rw [perform, AList.lookup_insert_ne apart] at found
    obtain ⟨same, forgot⟩ := withdrawn closing member other found
    exact ⟨same, IoBridge.holds_regedit forgot apart.symm⟩

section Perform

variable (grounded : world.Grounded) (withdrawn : world.Withdrawn)

include grounded

variable {added closing : ThreadSession}

theorem registered_positive {connectId : Nat}
    (found : world.registered.lookup connectId = some added) : 0 < connectId :=
  (grounded.consistent.counted (grounded.noted found)).1

theorem remote_eq_iff (told : world.host.CallTold (.deleteThreadSession closing))
    (found : world.registered.lookup closing.session.sessionId = some added) :
    closing.remote = added.remote ↔ closing.remote.ioType ≠ .connectIoKcp := by
  have assigned := grounded.noted found
  have numbered : closing.session.sessionId ≠ 0 := (registered_positive grounded found).ne'
  have named : ∀ {remote}, world.host.Told closing.session.sessionId remote →
      remote = added.remote := by
    intro remote known
    have same := (known.resolve_left numbered).symm.trans assigned
    exact Option.some.inj same
  rcases told with ⟨known, typed⟩ | ⟨unset, sendEndpoint, known⟩
  · exact ⟨fun _ => typed, fun _ => named known⟩
  · have address := named known
    refine ⟨fun same => ?_, fun typed => absurd (by rw [unset]) typed⟩
    rw [unset, ← address] at same
    have text : "unset ip" = sendEndpoint.info.clientIp := congrArg (·.io.clientIp) same
    exact absurd text.symm sendEndpoint.printed

include withdrawn

theorem forgot_kept (member : closing ∈ world.withdrawals)
    (found : world.registered.lookup closing.session.sessionId = some added) :
    closing.remote = added.remote ∧
      world.registry.ioBridge.Forgot closing.session.sessionId ∧
        SessionAddrInfo.unset.sessionId ≠ closing.session.sessionId := by
  obtain ⟨same, forgot⟩ := withdrawn closing member added found
  exact ⟨same, forgot, Nat.ne_of_lt (registered_positive grounded found)⟩

theorem delete_withdrawn_iff (told : world.host.CallTold (.deleteThreadSession closing)) :
    (world.perform (.deleteThreadSession closing)).Withdrawn ↔
      world.Admits (.deleteThreadSession closing) := by
  have keyed {added : ThreadSession}
      (found : world.registered.lookup closing.session.sessionId = some added)
      (same : closing.remote = added.remote) :
      ∀ entry ∈ world.registry.ioBridge.sessionAddrList.sessionAddrList.entries,
        entry.2.sessionId = closing.session.sessionId → entry.1 = setAddrKey closing.remote := by
    intro entry member own
    obtain ⟨remote, assigned, key⟩ := grounded.keyed.listed entry member
      (own ▸ registered_positive grounded found)
    rw [own, grounded.noted found, Option.some.injEq] at assigned
    rw [key, same, assigned]
  constructor
  · intro still added found
    obtain ⟨same, forgot⟩ := still closing (by simp [perform]) added found
    have positive := registered_positive grounded found
    exact ⟨(remote_eq_iff grounded told found).mp same,
      (IoBridge.forgot_unregedit_iff positive (keyed found same)).mp forgot⟩
  · intro admits other member added found
    rcases List.mem_append.mp member with earlier | last
    · obtain ⟨same, forgot, numbered⟩ := forgot_kept grounded withdrawn earlier found
      exact ⟨same, IoBridge.holds_unregedit forgot _ numbered⟩
    · obtain rfl := List.mem_singleton.mp last
      obtain ⟨typed, held⟩ := admits added found
      have same := (remote_eq_iff grounded told found).mpr typed
      exact ⟨same, (IoBridge.forgot_unregedit_iff (registered_positive grounded found)
        (keyed found same)).mpr held⟩

theorem perform_withdrawn_iff (told : world.host.CallTold call) :
    (world.perform call).Withdrawn ↔ world.Admits call := by
  cases call with
  | addThreadSession added => exact add_withdrawn_iff withdrawn added
  | deleteThreadSession closing => exact delete_withdrawn_iff grounded withdrawn told
  | addSessionIoMapping fromIo toIo bridgeType =>
    refine iff_of_true ?_ trivial
    intro closing member added found
    obtain ⟨same, forgot, numbered⟩ := forgot_kept grounded withdrawn member found
    exact ⟨same, IoBridge.holds_addMapping forgot (fun _ => numbered) _ _ _⟩
  | deleteSessionIoMapping fromIo =>
    refine iff_of_true ?_ trivial
    intro closing member added found
    obtain ⟨same, forgot, -⟩ := forgot_kept grounded withdrawn member found
    exact ⟨same, IoBridge.holds_deleteMapping forgot fromIo⟩

end Perform

theorem step_withdrawn_iff (grounded : world.Grounded) (withdrawn : world.Withdrawn)
    (stepped : world.step action = some next) : next.Withdrawn ↔ world.Orderly action := by
  obtain ⟨moved, found, rfl⟩ := Option.map_eq_some_iff.mp stepped
  obtain ⟨consistent, grown, told⟩ := SessionHost.step_moves grounded.consistent found
  have hosted := grounded_host grounded consistent grown
  have single : world.Orderly action ↔ ∀ call ∈ moved.2, world.Admits call := by
    simp [Orderly, Calling, found]
  rw [single]
  simp only [advance]
  split
  · rename_i call made
    rw [perform_withdrawn_iff hosted withdrawn (told call made), made]
    simp only [Option.mem_def, Option.some.injEq, forall_eq']
    rfl
  · rename_i silent
    exact iff_of_true withdrawn (by simp [silent])

/-- Every session is withdrawn with its own address and forgotten exactly when the calls are
orderly. -/
theorem withdrawn_iff_orderly {finish : SessionWorld} {actions : List SessionAction}
    (ran : run step init actions = some finish) :
    Always step Withdrawn init actions ↔ Throughout step Orderly init actions := by
  apply always_iff_throughout (fun _ _ _ => grounded_step)
    (fun _ _ _ => step_withdrawn_iff) grounded_init _ ran
  intro closing member
  exact absurd member List.not_mem_nil

/-- As `Admits`, with mappings between TCP and UDP endpoints only. -/
def Calm (world : SessionWorld) : RegistryCall → Prop
  | .addThreadSession added =>
      ∀ closing ∈ world.withdrawals, closing.session.sessionId ≠ added.session.sessionId
  | .deleteThreadSession closing => closing.remote.ioType ≠ .connectIoKcp
  | .addSessionIoMapping fromIo toIo _ => fromIo.isTcpOrUdp ∧ toIo.isTcpOrUdp
  | .deleteSessionIoMapping _ => True

instance (world : SessionWorld) (action : SessionAction) : Decidable (Calling Calm world action) :=
  have : ∀ call, Decidable (world.Calm call) := fun call => by
    unfold Calm
    split <;> infer_instance
  inferInstanceAs (Decidable (∀ moved ∈ world.host.step action, ∀ call ∈ moved.2, _))

theorem typed_perform (typed : world.registry.ioBridge.Typed) (calm : world.Calm call) :
    (world.perform call).registry.ioBridge.Typed := by
  cases call with
  | addThreadSession added => exact IoBridge.typed_regedit typed _ _
  | deleteThreadSession closing => exact IoBridge.typed_unregedit typed _ _
  | addSessionIoMapping fromIo toIo bridgeType =>
    exact IoBridge.typed_addMapping typed calm.1 calm.2 bridgeType
  | deleteSessionIoMapping fromIo =>
    intro info member
    exact typed info (List.mem_of_mem_eraseP (List.mem_of_mem_eraseP member))

theorem admits_of_calm (grounded : world.Grounded) (typed : world.registry.ioBridge.Typed)
    (told : world.host.CallTold call) (calm : world.Calm call) : world.Admits call := by
  cases call with
  | addThreadSession added => exact calm
  | deleteThreadSession closing =>
    intro added found
    have same := (remote_eq_iff grounded told found).mpr calm
    have positive := registered_positive grounded found
    have own {endpoint : IoEndpoint} {session : SessionAddrInfo} (plain : endpoint.isTcpOrUdp)
        (keyed : Keyed world.host (setAddrKey endpoint) session)
        (held : session.sessionId = closing.session.sessionId) : endpoint = closing.remote := by
      obtain ⟨remote, assigned, key⟩ := keyed (held ▸ positive)
      rw [held, grounded.noted found, Option.some.injEq] at assigned
      rw [same, assigned]
      exact setAddrKey_inj plain key
    refine ⟨calm, fun info member => ⟨?_, ?_⟩⟩
    · exact own (typed info member _ (by simp [IoConnectInfo.endpoints]))
        (grounded.keyed.mapped info member).1
    · exact own (typed info member _ (by simp [IoConnectInfo.endpoints]))
        (grounded.keyed.mapped info member).2
  | addSessionIoMapping | deleteSessionIoMapping => trivial

theorem orderly_of_calm (grounded : world.Grounded) (typed : world.registry.ioBridge.Typed)
    (calm : Calling Calm world action) : world.Orderly action := by
  intro moved found call made
  obtain ⟨consistent, grown, told⟩ := SessionHost.step_moves grounded.consistent found
  have hosted := grounded_host grounded consistent grown
  have admitted : ({ world with host := moved.1 } : SessionWorld).Admits call :=
    admits_of_calm hosted typed (told call made) (calm moved found call made)
  exact admitted

theorem typed_step (typed : world.registry.ioBridge.Typed) (calm : Calling Calm world action)
    (stepped : world.step action = some next) : next.registry.ioBridge.Typed := by
  obtain ⟨moved, found, rfl⟩ := Option.map_eq_some_iff.mp stepped
  simp only [advance]
  split
  · rename_i call made
    exact typed_perform typed (calm moved found call made)
  · exact typed

/-- Without KCP sessions and mappings of other endpoints every session is withdrawn and forgotten.
-/
theorem withdrawn_of_calm {actions : List SessionAction}
    (calm : Throughout step (Calling Calm) init actions) : Always step Withdrawn init actions := by
  have preserved : ∀ (state : SessionWorld) (action : SessionAction) (next : SessionWorld),
      state.Grounded ∧ state.registry.ioBridge.Typed ∧ state.Withdrawn →
        Calling Calm state action → state.step action = some next →
          next.Grounded ∧ next.registry.ioBridge.Typed ∧ next.Withdrawn := by
    rintro state action next ⟨grounded, typed, withdrawn⟩ asked stepped
    have orderly := orderly_of_calm grounded typed asked
    exact ⟨grounded_step grounded stepped, typed_step typed asked stepped,
      (step_withdrawn_iff grounded withdrawn stepped).mpr orderly⟩
  refine always_of_invariant preserved (fun _ held => held.2.2) ⟨grounded_init, ?_, ?_⟩ calm
  · intro info member
    exact absurd member List.not_mem_nil
  · intro closing member
    exact absurd member List.not_mem_nil

def peer : PeerAddress := ⟨⟨"127.0.0.1", 10033⟩, by decide⟩

theorem ssl_link_withdrawn :
    Always step Withdrawn init [.openSession .tcpSslSession peer.info 0,
      .addSessionIoMapping BridgeWorld.tcpHost BridgeWorld.udpHost .ioBridgeBath, .close 0 1,
      .resume 0] :=
  withdrawn_of_calm (by decide)

def bridgedThenClosed : List SessionAction :=
  [.openSession .tcpSession ⟨"127.0.0.1", 10033⟩ 0, .listen .udpServer, .receive 1 peer true,
    .resume 0, .addSessionIoMapping BridgeWorld.tcpHost BridgeWorld.udpHost .ioBridgeBath,
    .close 0 1, .resume 0, .close 1 2, .resume 0, .resume 0]

theorem bridged_then_closed_withdrawn : Always step Withdrawn init bridgedThenClosed :=
  (withdrawn_iff_orderly (Option.some_get
    (by decide : (run step init bridgedThenClosed).isSome)).symm).mpr (by decide)

theorem not_all_withdrawn :
    ¬Always step Withdrawn init
        [.listen .kcpServer, .receive 0 peer true, .resume 0, .close 0 1] ∧
      ¬Always step Withdrawn init
        [.openSession .tcpSslSession peer.info 0,
          .addSessionIoMapping ⟨peer.info, .connectIoTty⟩ BridgeWorld.tcpHost .ioBridgeBath,
          .close 0 1, .resume 0] ∧
      ¬Always step Withdrawn init
        [.listen .udpServer, .receive 0 peer true, .closeServer 0, .resume 1, .resume 0] := by
  decide

end SessionWorld

end PssAsio
