import PssAsio.IoBridgeRuns

/-!
`CSessionAddrList` as a map from addresses with their io types.
-/

namespace PssAsio

open SeparatedKeys TransitionRuns Function

inductive SessionAddrAction where
  | addSessionAddr (fromIo : IoEndpoint) (info : SessionAddrInfo)
  | delSessionAddr (fromIo : IoEndpoint)
  deriving DecidableEq

structure SessionAddrMap where
  list : SessionAddrList
  latest : IoEndpoint → SessionAddrInfo

namespace SessionAddrMap

def init : SessionAddrMap := ⟨⟨∅⟩, fun _ => .unset⟩

def step (map : SessionAddrMap) : SessionAddrAction → Option SessionAddrMap
  | .addSessionAddr fromIo info =>
      some ⟨map.list.addSessionAddr fromIo info, update map.latest fromIo info⟩
  | .delSessionAddr fromIo =>
      some ⟨map.list.delSessionAddr fromIo, update map.latest fromIo .unset⟩

def Exact (map : SessionAddrMap) : Prop :=
  ∀ endpoint, map.list.getSessionAddrInfo endpoint = map.latest endpoint

def KeptApart : SessionAddrAction → Prop
  | .addSessionAddr fromIo info => fromIo.isTcpOrUdp ∨ info = .unset
  | .delSessionAddr _ => True

instance (action : SessionAddrAction) : Decidable (KeptApart action) := by
  unfold KeptApart
  split <;> infer_instance

end SessionAddrMap

namespace SessionAddrList

variable (list : SessionAddrList)

def table (key : String) : SessionAddrInfo :=
  (list.sessionAddrList.lookup key).getD .unset

theorem table_add (fromIo : IoEndpoint) (info : SessionAddrInfo) :
    (list.addSessionAddr fromIo info).table =
      update list.table (setAddrKey fromIo) info := by
  funext key
  by_cases same : key = setAddrKey fromIo
  · subst same
    simp [table, addSessionAddr]
  · simp [same, table, addSessionAddr, AList.lookup_insert_ne]

theorem table_del (fromIo : IoEndpoint) :
    (list.delSessionAddr fromIo).table =
      update list.table (setAddrKey fromIo) .unset := by
  funext key
  by_cases same : key = setAddrKey fromIo
  · subst same
    simp [table, delSessionAddr]
  · simp [same, table, delSessionAddr, AList.lookup_erase_ne]

theorem ownKey_iff (endpoint : IoEndpoint) :
    OwnKey setAddrKey endpoint ↔ endpoint.isTcpOrUdp = true := by
  constructor
  · intro own
    obtain ⟨io, ioType⟩ := endpoint
    -- A type with the shared suffix meets KCP or TTY at its own address.
    have kcp := own ⟨io, .connectIoKcp⟩
    have tty := own ⟨io, .connectIoTty⟩
    cases ioType <;> simp_all [setAddrKey, IoEndpoint.isTcpOrUdp]
  · intro typed other same
    exact (setAddrKey_inj typed same.symm).symm

end SessionAddrList

namespace SessionAddrMap

def stored : SessionAddrAction → IoEndpoint × SessionAddrInfo
  | .addSessionAddr fromIo info => (fromIo, info)
  | .delSessionAddr fromIo => (fromIo, .unset)

theorem step_stored (map : SessionAddrMap) (action : SessionAddrAction) :
    ∃ next, map.step action = some next ∧
      next.list.table = update map.list.table
        (SessionAddrList.setAddrKey (stored action).1) (stored action).2 ∧
      next.latest = update map.latest (stored action).1 (stored action).2 := by
  cases action with
  | addSessionAddr fromIo info => exact ⟨_, rfl, map.list.table_add fromIo info, rfl⟩
  | delSessionAddr fromIo => exact ⟨_, rfl, map.list.table_del fromIo, rfl⟩

theorem keptApart_iff (action : SessionAddrAction) :
    KeptApart action ↔
      OwnKey SessionAddrList.setAddrKey (stored action).1 ∨ (stored action).2 = .unset := by
  cases action with
  | addSessionAddr fromIo info => simp [KeptApart, stored, SessionAddrList.ownKey_iff]
  | delSessionAddr fromIo => simp [KeptApart, stored]

def Plain (map : SessionAddrMap) : Prop :=
  SharedUnset SessionAddrList.setAddrKey .unset map.latest

theorem exact_step_iff {map next : SessionAddrMap} {action : SessionAddrAction}
    (plain : map.Plain) (exactly : map.Exact) (stepped : map.step action = some next) :
    next.Exact ↔ KeptApart action := by
  obtain ⟨after, same, table, latest⟩ := map.step_stored action
  rw [stepped, Option.some.injEq] at same
  subst same
  have mirrors : Mirrors SessionAddrList.setAddrKey map.list.table map.latest := exactly
  have entered := mirrors_update_iff mirrors plain (stored action).1 (stored action).2
  rw [← table, ← latest, ← keptApart_iff] at entered
  exact entered

theorem plain_step {map next : SessionAddrMap} {action : SessionAddrAction} (plain : map.Plain)
    (kept : KeptApart action) (stepped : map.step action = some next) : next.Plain := by
  obtain ⟨after, same, -, latest⟩ := map.step_stored action
  rw [stepped, Option.some.injEq] at same
  subst same
  rw [Plain, latest]
  exact sharedUnset_update plain ((keptApart_iff action).mp kept)

/-- The list is the map of its calls as long as all io types are TCP or UDP. -/
theorem exact_iff_keptApart (actions : List SessionAddrAction) :
    Always step Exact init actions ↔ ∀ action ∈ actions, KeptApart action := by
  have total : ∀ map action, ∃ next, step map action = some next := fun map action =>
    (map.step_stored action).imp fun _ => And.left
  have supported : ∀ (map : SessionAddrMap) (action : SessionAddrAction) (next : SessionAddrMap),
      map.Plain → map.Exact → next.Exact → map.step action = some next → next.Plain :=
    fun _ _ _ plain exactly after stepped =>
      plain_step plain ((exact_step_iff plain exactly stepped).mp after) stepped
  have decisive : ∀ (map : SessionAddrMap) (action : SessionAddrAction),
      map.Plain → map.Exact →
        (KeptApart action ↔ ∀ next, map.step action = some next → next.Exact) := by
    intro map action plain exactly
    obtain ⟨next, stepped⟩ := total map action
    simp only [stepped, Option.some.injEq, forall_eq', exact_step_iff plain exactly stepped]
  rw [← throughout_iff_mem total init actions]
  exact always_iff_throughout_of_kept supported decisive (fun _ _ => rfl) (fun _ => rfl)

theorem kcp_session_found_as_tty :
    ((run step init [.addSessionAddr ⟨⟨"127.0.0.1", 80⟩, .connectIoKcp⟩ (.ofSession ⟨1, 5⟩)]).map
      fun map => (map.list.getSessionAddrInfo ⟨⟨"127.0.0.1", 80⟩, .connectIoTty⟩,
        map.latest ⟨⟨"127.0.0.1", 80⟩, .connectIoTty⟩)) =
      some (.ofSession ⟨1, 5⟩, .unset) := by
  decide

end SessionAddrMap

end PssAsio
