import PssAsio.NetSvrManagerCore
import PssAsio.TransitionRuns

/-!
The lists of `CNetSvrManager` against the events of the listeners.
-/

namespace PssAsio

open TransitionRuns

namespace NetSvrManager

abbrev LastEvents := String → UInt16 → ConnectIoType → Option IoNetServer

structure ListenerWorld where
  manager : NetSvrManager
  last : LastEvents

inductive ListenerEvent where
  | add (server : IoNetServer)
  | del (ip : String) (port : UInt16) (ioType : ConnectIoType)
  deriving DecidableEq

def LastEvents.record (last : LastEvents) (ip : String) (port : UInt16) (ioType : ConnectIoType)
    (event : Option IoNetServer) : LastEvents :=
  fun otherIp otherPort otherType =>
    if otherIp = ip ∧ otherPort = port ∧ otherType = ioType then event
    else last otherIp otherPort otherType

namespace ListenerWorld

def start : ListenerWorld := ⟨.empty, fun _ _ _ => none⟩

variable (world : ListenerWorld)

def after : ListenerEvent → ListenerWorld
  | .add server =>
      ⟨world.manager.addAcceptNetIoEvent server.ip server.port server.ioType server,
        world.last.record server.ip server.port server.ioType (some server)⟩
  | .del ip port ioType =>
      ⟨world.manager.delAcceptNetIoEvent ip port ioType, world.last.record ip port ioType none⟩

def step (event : ListenerEvent) : Option ListenerWorld :=
  some (world.after event)

def Holds (manager : NetSvrManager) (list : ConnectIoType) (key : String) (server : IoNetServer) :
    Prop :=
  (manager.services list).lookup key = some server
  deriving Decidable

def Expected (last : LastEvents) (list : ConnectIoType) (key : String) (server : IoNetServer) :
    Prop :=
  server.ioType = list ∧ key = ioKey server.ip server.port ∧
    last server.ip server.port server.ioType = some server

def Reflects : Prop :=
  ∀ list key server, Holds world.manager list key server ↔ Expected world.last list key server

def ClosesOnce : Prop :=
  world.manager.closeAllService.1.Nodup ∧
    ∀ server, server ∈ world.manager.closeAllService.1 ↔
      ∃ list key, Holds world.manager list key server

def Mirrors : Prop := world.Reflects ∧ world.ClosesOnce

def OwnList : ListenerEvent → Prop
  | .add server => server.ioType = .connectIoTcp ∨ server.ioType = .connectIoUdp ∨
      server.ioType = .connectIoTty
  | .del _ _ _ => True

instance (event : ListenerEvent) : Decidable (OwnList event) := by
  unfold OwnList
  split <;> infer_instance

def Placed : Prop :=
  ∀ list key server, Holds world.manager list key server →
    listOf server.ioType = some list ∧ key = ioKey server.ip server.port

variable {world next : ListenerWorld}

theorem listOf_ne_ssl (ioType : ConnectIoType) : listOf ioType ≠ some .connectIoSsl := by
  cases ioType <;> decide

theorem Placed.noSsl (placed : world.Placed) (key : String) :
    world.manager.tcpSslServiceMap.lookup key = none := by
  cases found : world.manager.tcpSslServiceMap.lookup key with
  | none => rfl
  | some server =>
    have place := (placed .connectIoSsl key server found).1
    exact absurd place (listOf_ne_ssl server.ioType)

theorem Placed.after (placed : world.Placed) (event : ListenerEvent) :
    (world.after event).Placed := by
  intro list key server held
  cases event with
  | add added =>
    simp only [ListenerWorld.after, Holds, addAcceptNetIoEvent_lookup] at held
    split at held
    · rename_i here
      cases held
      exact here
    · exact placed list key server held
  | del ip port ioType =>
    simp only [ListenerWorld.after, Holds,
      delAcceptNetIoEvent_lookup _ _ _ _ _ _ fun _ => placed.noSsl key] at held
    split at held
    · cases held
    · exact placed list key server held

section Closing

variable {list : ServiceList}

theorem mem_listenList {server : IoNetServer} :
    server ∈ listenList list ↔ ∃ key, list.lookup key = some server := by
  simp only [listenList, List.mem_map]
  constructor
  · rintro ⟨entry, held, rfl⟩
    exact ⟨entry.1, AList.mem_lookup_iff.mpr held⟩
  · rintro ⟨key, found⟩
    exact ⟨⟨key, server⟩, AList.mem_lookup_iff.mp found, rfl⟩

theorem listenList_nodup
    (own : ∀ key server, list.lookup key = some server → key = ioKey server.ip server.port) :
    (listenList list).Nodup := by
  refine List.Nodup.map_on ?_ list.nodupKeys.nodup
  rintro ⟨key, server⟩ held ⟨otherKey, other⟩ otherHeld same
  have first := own key server (AList.mem_lookup_iff.mpr held)
  have second := own otherKey other (AList.mem_lookup_iff.mpr otherHeld)
  simp only at same
  subst same
  rw [first, second]

theorem Placed.disjoint (placed : world.Placed) {first second : ConnectIoType}
    (different : first ≠ second) :
    (listenList (world.manager.services first)).Disjoint
      (listenList (world.manager.services second)) := by
  intro server inFirst inSecond
  obtain ⟨key, found⟩ := mem_listenList.mp inFirst
  obtain ⟨otherKey, otherFound⟩ := mem_listenList.mp inSecond
  have place := (placed first key server found).1
  rw [(placed second otherKey server otherFound).1] at place
  exact different (Option.some.inj place).symm

def closedLists : List ConnectIoType :=
  [.connectIoTcp, .connectIoSsl, .connectIoKcp, .connectIoUdp, .connectIoTty]

theorem closeAllService_eq (manager : NetSvrManager) :
    manager.closeAllService.1 =
      closedLists.flatMap fun list => listenList (manager.services list) := by
  simp [closeAllService, closedLists, services]

theorem Holds.closed {manager : NetSvrManager} {list : ConnectIoType} {key : String}
    {server : IoNetServer} (held : Holds manager list key server) : list ∈ closedLists := by
  by_contra other
  have nothing : manager.services list = ∅ := by
    cases list <;> first | exact absurd (by decide) other | rfl
  simp [Holds, nothing] at held

theorem Placed.closesOnce (placed : world.Placed) : world.ClosesOnce := by
  have nodup (list : ConnectIoType) : (listenList (world.manager.services list)).Nodup :=
    listenList_nodup fun key server found => (placed list key server found).2
  have apart : closedLists.Pairwise (· ≠ ·) := by decide
  unfold ClosesOnce
  rw [closeAllService_eq]
  constructor
  · exact List.nodup_flatMap.mpr
      ⟨fun list _ => nodup list, apart.imp fun different => placed.disjoint different⟩
  · intro server
    rw [List.mem_flatMap]
    constructor
    · rintro ⟨list, -, inside⟩
      exact ⟨list, mem_listenList.mp inside⟩
    · rintro ⟨list, key, held⟩
      exact ⟨list, held.closed, mem_listenList.mpr ⟨key, held⟩⟩

end Closing

section Reflecting

theorem expected_record {last : LastEvents} {ip : String} {port : UInt16} {ioType : ConnectIoType}
    {event : Option IoNetServer} {list : ConnectIoType} {key : String} {server : IoNetServer} :
    Expected (last.record ip port ioType event) list key server ↔
      if ioType = list ∧ key = ioKey ip port then
        (server.ip = ip ∧ server.port = port ∧ server.ioType = ioType) ∧ event = some server
      else Expected last list key server := by
  by_cases own : server.ip = ip ∧ server.port = port ∧ server.ioType = ioType
  · obtain ⟨rfl, rfl, rfl⟩ := own
    simp only [Expected, LastEvents.record, and_self, if_true, true_and]
    split
    · rename_i here
      simp [here]
    · rename_i elsewhere
      constructor
      · rintro ⟨rfl, rfl, -⟩
        exact absurd ⟨rfl, rfl⟩ elsewhere
      · rintro ⟨rfl, rfl, -⟩
        exact absurd ⟨rfl, rfl⟩ elsewhere
  · simp only [Expected, LastEvents.record, own, if_false, false_and]
    split
    · rename_i here
      obtain ⟨rfl, rfl⟩ := here
      refine iff_of_false ?_ id
      rintro ⟨sameType, sameKey, -⟩
      obtain ⟨rfl, rfl⟩ := ioKey_inj sameKey
      exact own ⟨rfl, rfl, sameType⟩
    · rfl

theorem Reflects.del (reflects : world.Reflects) (placed : world.Placed) (ip : String)
    (port : UInt16) (ioType : ConnectIoType) : (world.after (.del ip port ioType)).Reflects := by
  intro list key server
  simp only [after, Holds, delAcceptNetIoEvent_lookup _ _ _ _ _ _ fun _ => placed.noSsl key]
  rw [expected_record]
  split
  · simp
  · exact reflects list key server

theorem Reflects.add (reflects : world.Reflects) {server : IoNetServer}
    (own : listOf server.ioType = some server.ioType) : (world.after (.add server)).Reflects := by
  intro list key other
  simp only [after, Holds, addAcceptNetIoEvent_lookup, own, Option.some.injEq]
  rw [expected_record]
  split
  · constructor
    · intro added
      cases added
      exact ⟨⟨rfl, rfl, rfl⟩, rfl⟩
    · exact fun expected => expected.2
  · exact reflects list key other

theorem not_reflects_add {server : IoNetServer} (placed : world.Placed)
    (other : listOf server.ioType ≠ some server.ioType) :
    ¬(world.after (.add server)).Reflects := by
  intro reflects
  have held := (reflects server.ioType (ioKey server.ip server.port) server).mpr
    ⟨rfl, rfl, by simp [after, LastEvents.record]⟩
  exact other ((placed.after (.add server)) _ _ _ held).1

theorem ownList_add_iff (server : IoNetServer) :
    OwnList (.add server) ↔ listOf server.ioType = some server.ioType := by
  simp only [OwnList]
  cases server.ioType <;> decide

end Reflecting

theorem mirrors_after_iff (placed : world.Placed) (mirrors : world.Mirrors)
    (event : ListenerEvent) : (world.after event).Mirrors ↔ OwnList event := by
  have closes : (world.after event).ClosesOnce := (placed.after event).closesOnce
  unfold Mirrors
  rw [and_iff_left closes]
  cases event with
  | add server =>
    rw [ownList_add_iff]
    constructor
    · intro reflects
      by_contra other
      exact not_reflects_add placed other reflects
    · exact mirrors.1.add
  | del ip port ioType => exact iff_of_true (mirrors.1.del placed ip port ioType) trivial

theorem start_placed : start.Placed := by
  intro list key server held
  cases list <;> simp [Holds, start, empty, services] at held

theorem start_reflects : start.Reflects := by
  intro list key server
  refine iff_of_false ?_ (by simp [Expected, start])
  cases list <;> simp [Holds, start, empty, services]

/-- The lists mirror the events exactly when all added listeners have a list of their own. -/
theorem mirrors_iff_ownList (events : List ListenerEvent) :
    Always step Mirrors start events ↔ ∀ event ∈ events, OwnList event := by
  have supported : ∀ world event next, Placed world → step world event = some next →
      Placed next := by
    intro world event next placed stepped
    cases stepped
    exact placed.after event
  have decisive : ∀ world event next, Placed world → Mirrors world →
      step world event = some next → (Mirrors next ↔ OwnList event) := by
    intro world event next placed mirrors stepped
    cases stepped
    exact mirrors_after_iff placed mirrors event
  rw [always_iff_throughout supported decisive start_placed
    ⟨start_reflects, start_placed.closesOnce⟩ (run_total after start events)]
  exact throughout_iff_mem (fun world event => ⟨world.after event, rfl⟩) start events

def kcpListener : IoNetServer := ⟨0, "10.0.0.1", 80, .connectIoKcp⟩

def sslListener : IoNetServer := ⟨1, "10.0.0.1", 443, .connectIoSsl⟩

/-- A KCP listener stands in the list of the UDP listeners, an SSL listener in none. -/
theorem kcp_and_ssl_not_mirrored :
    (¬Always step Mirrors start [.add kcpListener] ∧
        Holds ((start.after (.add kcpListener)).after (.del "10.0.0.1" 80 .connectIoKcp)).manager
          .connectIoUdp "10.0.0.1_80" kcpListener) ∧
      ¬Always step Mirrors start [.add sslListener] := by
  refine ⟨⟨fun always => ?_, by decide⟩, fun always => ?_⟩
  · exact not_reflects_add start_placed (by decide) always.2.1
  · exact not_reflects_add start_placed (by decide) always.2.1

end ListenerWorld

end NetSvrManager

end PssAsio
