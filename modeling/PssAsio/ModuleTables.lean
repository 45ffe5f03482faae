import PssAsio.LoadModuleCore
import PssAsio.TransitionRuns

/-!
Functions of modules that are gone.
-/

open TransitionRuns

namespace PssAsio

open Function

namespace LoadModule

def lastState (commandId : UInt16) : List LogicCommandInfo → Option LogicRunState
  | [] => none
  | command :: rest =>
      (lastState commandId rest).or
        (if command.commandId = commandId then some command.logicRunState else none)

variable (loader : LoadModule)

variable (commandId : UInt16)

/-- A synchronous registration waits in the table of the loader for the next `CSyncLogic::Init`. -/
def DispatchedTo (last : Registration) : Prop :=
  if last.logicRunState = .logicRunSynchronous ∧ last.copied = false then
    (loader.commandToSessionFunction commandId).map ModuleFunction.owner = some last.owner
  else (loader.dispatch commandId).map ModuleFunction.owner = some last.owner

structure Tidy : Prop where
  moduleFunction : ∀ commandId function,
    loader.commandToModuleFunction commandId = some function → function.owner ∈ loader.live
  sessionFunction : ∀ commandId function,
    loader.commandToSessionFunction commandId = some function → function.owner ∈ loader.live
  moduleRun : ∀ moduleFileName owner,
    loader.pluginNameToModuleRun moduleFileName = some (some owner) → owner ∈ loader.live
  syncFunction : ∀ commandId function,
    loader.syncFunction commandId = some function → function.owner ∈ loader.live
  dispatched : ∀ commandId last, loader.registrant commandId = some last →
    last.owner ∈ loader.live → loader.DispatchedTo commandId last

/-- Nothing of the module is in the tables that are not purged, and no command was taken over. -/
structure LeavesNothing (info : ModuleInfo) : Prop where
  session : ∀ commandId function, loader.commandToSessionFunction commandId = some function →
    function.owner ≠ info.number
  sync : ∀ commandId function, loader.syncFunction commandId = some function →
    function.owner ≠ info.number
  moduleRun : ∀ moduleFileName, loader.pluginNameToModuleRun moduleFileName ≠
    some (some info.number)
  taken : ∀ commandId ∈ info.commandIdList, ∀ last, loader.registrant commandId = some last →
    last.owner ∈ loader.live → last.owner ≠ info.number →
      last.logicRunState = .logicRunAsynhronous → (loader.syncFunction commandId).isSome

def Keeps : LoadModuleAction → Prop
  | .loadPluginModule moduleFileName library =>
      library.loadModuleInfo = true → loader.findModule moduleFileName = none →
        library.loadResult = 0 → ∀ commandId,
          lastState commandId library.moduleCommandList = some .logicRunAsynhronous →
            loader.syncFunction commandId = none
  | .unloadPluginModule moduleFileName _ =>
      ∀ info, loader.findModule moduleFileName = some info → loader.LeavesNothing info
  | .close =>
      (∀ commandId, loader.commandToSessionFunction commandId = none) ∧
      (∀ commandId, loader.syncFunction commandId = none) ∧
      ∀ moduleFileName owner, loader.pluginNameToModuleRun moduleFileName ≠ some (some owner)
  | .syncInit => ∀ commandId last function, loader.registrant commandId = some last →
      last.owner ∈ loader.live → loader.commandToSessionFunction commandId = some function →
        function.owner = last.owner

structure Sound : Prop where
  live : ∀ number ∈ loader.live, ∃ info ∈ loader.moduleList, info.number = number
  unique : ∀ info ∈ loader.moduleList, ∀ other ∈ loader.moduleList,
    info.moduleFileName = other.moduleFileName → info = other
  modulesEarlier : ∀ info ∈ loader.moduleList, info.number < loader.loads
  functionsEarlier : ∀ commandId function,
    loader.commandToModuleFunction commandId = some function ∨
      loader.commandToSessionFunction commandId = some function ∨
      loader.syncFunction commandId = some function → function.owner < loader.loads
  registrantEarlier : ∀ commandId last, loader.registrant commandId = some last →
    last.owner < loader.loads
  commands : ∀ commandId function, loader.commandToModuleFunction commandId = some function →
    ∀ info ∈ loader.moduleList, info.number = function.owner → commandId ∈ info.commandIdList
  session : ∀ commandId, (loader.syncFunction commandId).isSome →
    (loader.commandToSessionFunction commandId).isSome
  waiting : ∀ commandId last, loader.registrant commandId = some last →
    last.logicRunState = .logicRunSynchronous →
      (loader.commandToSessionFunction commandId).map ModuleFunction.owner = some last.owner
  copied : ∀ commandId last, loader.registrant commandId = some last →
    last.logicRunState = .logicRunSynchronous → last.copied = true →
      (loader.syncFunction commandId).map ModuleFunction.owner = some last.owner

variable (number : Nat)

structure Registered (commands : List LogicCommandInfo) (loader next : LoadModule) : Prop where
  untouched : ∀ commandId, lastState commandId commands = none →
    next.commandToModuleFunction commandId = loader.commandToModuleFunction commandId ∧
    next.commandToSessionFunction commandId = loader.commandToSessionFunction commandId
  asynchronous : ∀ commandId, lastState commandId commands = some .logicRunAsynhronous →
    (next.commandToModuleFunction commandId).map ModuleFunction.owner = some number
  synchronous : ∀ commandId, lastState commandId commands = some .logicRunSynchronous →
    (next.commandToSessionFunction commandId).map ModuleFunction.owner = some number
  registrant : ∀ commandId, next.registrant commandId =
    ((lastState commandId commands).map fun state => ⟨number, state, false⟩).or
      (loader.registrant commandId)
  moduleOwner : ∀ commandId function, next.commandToModuleFunction commandId = some function →
    function.owner = number ∧ commandId ∈ commands.map LogicCommandInfo.commandId ∨
      loader.commandToModuleFunction commandId = some function
  sessionOwner : ∀ commandId function, next.commandToSessionFunction commandId = some function →
    function.owner = number ∨ loader.commandToSessionFunction commandId = some function
  sessionKept : ∀ commandId, (loader.commandToSessionFunction commandId).isSome →
    (next.commandToSessionFunction commandId).isSome

theorem commandFunction_owner (command : LogicCommandInfo) :
    (commandFunction number command).owner = number := by
  unfold commandFunction
  split <;> rfl

theorem lastState_singleton (command : LogicCommandInfo) :
    lastState commandId [command] =
      if command.commandId = commandId then some command.logicRunState else none := rfl

theorem lastState_append (first second : List LogicCommandInfo) :
    lastState commandId (first ++ second) =
      (lastState commandId second).or (lastState commandId first) := by
  induction first with
  | nil => simp [lastState]
  | cons command rest ih => simp only [List.cons_append, lastState, ih, Option.or_assoc]

theorem regeditCommand_module (loader : LoadModule) (command : LogicCommandInfo)
    (commandId : UInt16) :
    (regeditCommand number loader command).commandToModuleFunction commandId =
      if commandId = command.commandId ∧ command.logicRunState = .logicRunAsynhronous then
        some (commandFunction number command)
      else loader.commandToModuleFunction commandId := by
  cases state : command.logicRunState <;>
    simp [regeditCommand, addCommandToModuleFunction, addCommandToSessionFunction, state,
      update_apply]

theorem regeditCommand_session (loader : LoadModule) (command : LogicCommandInfo)
    (commandId : UInt16) :
    (regeditCommand number loader command).commandToSessionFunction commandId =
      if commandId = command.commandId ∧ command.logicRunState = .logicRunSynchronous then
        some (commandFunction number command)
      else loader.commandToSessionFunction commandId := by
  cases state : command.logicRunState <;>
    simp [regeditCommand, addCommandToModuleFunction, addCommandToSessionFunction, state,
      update_apply]

variable {commandId : UInt16} {loader next : LoadModule} {info : ModuleInfo}

theorem lastState_singleton_eq_some {command : LogicCommandInfo} {state : LogicRunState}
    (last : lastState commandId [command] = some state) :
    commandId = command.commandId ∧ command.logicRunState = state := by
  rw [lastState_singleton] at last
  split at last
  next same => exact ⟨same.symm, Option.some.inj last⟩
  next => cases last

variable (number : Nat)

theorem regeditCommand_registered (loader : LoadModule) (command : LogicCommandInfo) :
    Registered number [command] loader (regeditCommand number loader command) := by
  have owner := commandFunction_owner number command
  constructor
  · intro commandId absent
    rw [lastState_singleton] at absent
    have apart : commandId ≠ command.commandId := fun same => by simp [same] at absent
    rw [regeditCommand_module, regeditCommand_session]
    simp [apart]
  · intro commandId last
    rw [regeditCommand_module, if_pos (lastState_singleton_eq_some last)]
    exact congrArg some owner
  · intro commandId last
    rw [regeditCommand_session, if_pos (lastState_singleton_eq_some last)]
    exact congrArg some owner
  · intro commandId
    rw [lastState_singleton]
    split
    next same =>
      subst same
      simp [regeditCommand]
    next other =>
      exact update_of_ne (fun same => other same.symm) _ _
  · intro commandId function found
    rw [regeditCommand_module] at found
    split at found
    next asked =>
      cases found
      exact .inl ⟨owner, List.mem_singleton.mpr asked.1⟩
    next => exact .inr found
  · intro commandId function found
    rw [regeditCommand_session] at found
    split at found
    next =>
      cases found
      exact .inl owner
    next => exact .inr found
  · intro commandId found
    rw [regeditCommand_session]
    split
    next => rfl
    next => exact found

theorem Registered.trans {number : Nat} {first second : List LogicCommandInfo} {middle : LoadModule}
    (before : Registered number first loader middle)
    (after : Registered number second middle next) :
    Registered number (first ++ second) loader next where
  untouched commandId absent := by
    rw [lastState_append, Option.or_eq_none_iff] at absent
    obtain ⟨modules, sessions⟩ := after.untouched commandId absent.1
    obtain ⟨modules', sessions'⟩ := before.untouched commandId absent.2
    exact ⟨modules.trans modules', sessions.trans sessions'⟩
  asynchronous commandId last := by
    rw [lastState_append, Option.or_eq_some_iff] at last
    obtain asked | ⟨unasked, asked⟩ := last
    · exact after.asynchronous commandId asked
    · rw [(after.untouched commandId unasked).1]
      exact before.asynchronous commandId asked
  synchronous commandId last := by
    rw [lastState_append, Option.or_eq_some_iff] at last
    obtain asked | ⟨unasked, asked⟩ := last
    · exact after.synchronous commandId asked
    · rw [(after.untouched commandId unasked).2]
      exact before.synchronous commandId asked
  registrant commandId := by
    rw [after.registrant, before.registrant, lastState_append]
    cases lastState commandId second <;> rfl
  moduleOwner commandId function found := by
    rcases after.moduleOwner commandId function found with ⟨owner, member⟩ | old
    · exact .inl ⟨owner, by rw [List.map_append]; exact List.mem_append_right _ member⟩
    · rcases before.moduleOwner commandId function old with ⟨owner, member⟩ | older
      · exact .inl ⟨owner, by rw [List.map_append]; exact List.mem_append_left _ member⟩
      · exact .inr older
  sessionOwner commandId function found := by
    rcases after.sessionOwner commandId function found with owner | old
    · exact .inl owner
    · exact before.sessionOwner commandId function old
  sessionKept commandId found := after.sessionKept commandId (before.sessionKept commandId found)

theorem foldl_registered (commands : List LogicCommandInfo) (loader : LoadModule) :
    Registered number commands loader (commands.foldl (regeditCommand number) loader) := by
  induction commands generalizing loader with
  | nil =>
    exact ⟨fun _ _ => ⟨rfl, rfl⟩, nofun, nofun, fun _ => rfl, fun _ _ found => .inr found,
      fun _ _ found => .inr found, fun _ found => found⟩
  | cons command rest ih => exact (regeditCommand_registered number loader command).trans (ih _)

theorem foldl_frame (commands : List LogicCommandInfo) (loader : LoadModule) :
    let registered := commands.foldl (regeditCommand number) loader
    registered.moduleList = loader.moduleList ∧
    registered.pluginNameToModuleRun = loader.pluginNameToModuleRun ∧
    registered.syncFunction = loader.syncFunction ∧ registered.live = loader.live := by
  induction commands generalizing loader with
  | nil => exact ⟨rfl, rfl, rfl, rfl⟩
  | cons command rest ih =>
    obtain ⟨modules, runs, sync, live⟩ := ih (regeditCommand number loader command)
    cases state : command.logicRunState <;>
      simp_all [regeditCommand, addCommandToModuleFunction, addCommandToSessionFunction]

structure Loaded (moduleFileName : String) (library : PluginLibrary) (loader next : LoadModule) :
    Prop where
  absent : loader.findModule moduleFileName = none
  registered : Registered loader.loads library.moduleCommandList loader next
  moduleList : next.moduleList = loader.moduleList ++ [⟨moduleFileName, loader.loads,
    library.moduleCommandList.map LogicCommandInfo.commandId⟩]
  moduleRun : next.pluginNameToModuleRun = update loader.pluginNameToModuleRun
    moduleFileName (some (if library.moduleRun then some loader.loads else none))
  sync : next.syncFunction = loader.syncFunction
  loads : next.loads = loader.loads + 1
  live : next.live = loader.loads :: loader.live

theorem loadPluginModule_cases (loader : LoadModule) (moduleFileName : String)
    (library : PluginLibrary) :
    (loader.loadPluginModule moduleFileName library).1 = loader ∧
      ¬ (library.loadModuleInfo = true ∧ loader.findModule moduleFileName = none ∧
        library.loadResult = 0) ∨
    Loaded moduleFileName library loader (loader.loadPluginModule moduleFileName library).1 ∧
      library.loadModuleInfo = true ∧ loader.findModule moduleFileName = none ∧
        library.loadResult = 0 := by
  unfold loadPluginModule
  cases opened : library.loadModuleInfo with
  | false => exact .inl ⟨rfl, fun wanted => nomatch wanted.1⟩
  | true =>
    cases found : loader.findModule moduleFileName with
    | some info => exact .inl ⟨rfl, fun wanted => nomatch wanted.2.1⟩
    | none =>
      by_cases loaded : library.loadResult = 0
      · have registered := foldl_registered loader.loads library.moduleCommandList loader
        obtain ⟨modules, runs, sync, live⟩ :=
          foldl_frame loader.loads library.moduleCommandList loader
        simp only [Bool.true_eq_false, if_false, Option.isSome_none, Bool.false_eq_true,
          loaded, ne_eq, not_true_eq_false]
        refine .inr ⟨⟨found, ?_, ?_, ?_, sync, rfl, ?_⟩, by simp⟩
        · exact ⟨registered.untouched, registered.asynchronous, registered.synchronous,
            registered.registrant, registered.moduleOwner, registered.sessionOwner,
            registered.sessionKept⟩
        · exact congrArg (· ++ _) modules
        · exact congrArg (update · _ _) runs
        · exact congrArg (_ :: ·) live
      · refine .inl ⟨?_, fun wanted => loaded wanted.2.2⟩
        simp [loaded]

theorem init_sound : init.Sound where
  live := nofun
  unique := nofun
  modulesEarlier := nofun
  functionsEarlier _ _ found := by rcases found with found | found | found <;> cases found
  registrantEarlier := nofun
  commands := nofun
  session := nofun
  waiting := nofun
  copied := nofun

theorem mem_of_findModule {moduleFileName : String}
    (found : loader.findModule moduleFileName = some info) :
    info ∈ loader.moduleList ∧ info.moduleFileName = moduleFileName := by
  unfold findModule at found
  exact ⟨List.mem_of_find?_eq_some found, by simpa using List.find?_some found⟩

section Loaded

variable {moduleFileName : String} {library : PluginLibrary}
  (loaded : Loaded moduleFileName library loader next)

include loaded

theorem Loaded.registrant_cases {last : Registration}
    (found : next.registrant commandId = some last) :
    lastState commandId library.moduleCommandList = none ∧
        loader.registrant commandId = some last ∨
      ∃ state, lastState commandId library.moduleCommandList = some state ∧
        last = ⟨loader.loads, state, false⟩ := by
  rw [loaded.registered.registrant] at found
  cases state : lastState commandId library.moduleCommandList with
  | none =>
    rw [state] at found
    exact .inl ⟨rfl, found⟩
  | some asked =>
    rw [state] at found
    exact .inr ⟨asked, rfl, (Option.some.inj found).symm⟩

theorem Loaded.module_cases (member : info ∈ next.moduleList) :
    info ∈ loader.moduleList ∨ info = ⟨moduleFileName, loader.loads,
      library.moduleCommandList.map LogicCommandInfo.commandId⟩ := by
  rw [loaded.moduleList] at member
  exact (List.mem_append.mp member).imp_right List.mem_singleton.mp

theorem Loaded.sound (sound : loader.Sound) : next.Sound where
  live number member := by
    rw [loaded.live] at member
    rw [loaded.moduleList]
    rcases List.mem_cons.mp member with rfl | old
    · exact ⟨_, List.mem_append_right _ (.head _), rfl⟩
    · obtain ⟨info, listed, same⟩ := sound.live number old
      exact ⟨info, List.mem_append_left _ listed, same⟩
  unique info member other member' same := by
    have absent : ∀ info ∈ loader.moduleList, info.moduleFileName ≠ moduleFileName :=
      fun info member same => by
        simpa [same] using List.find?_eq_none.mp loaded.absent info member
    rcases loaded.module_cases member with old | rfl <;>
      rcases loaded.module_cases member' with old' | rfl
    · exact sound.unique info old other old' same
    · exact absurd same (absent info old)
    · exact absurd same.symm (absent other old')
    · rfl
  modulesEarlier info member := by
    rw [loaded.loads]
    rcases loaded.module_cases member with old | rfl
    · exact Nat.lt_succ_of_lt (sound.modulesEarlier info old)
    · exact Nat.lt_succ_self _
  functionsEarlier commandId function found := by
    rw [loaded.loads]
    rcases found with found | found | found
    · rcases loaded.registered.moduleOwner commandId function found with ⟨own, _⟩ | old
      · omega
      · exact Nat.lt_succ_of_lt (sound.functionsEarlier commandId function (.inl old))
    · rcases loaded.registered.sessionOwner commandId function found with own | old
      · omega
      · exact Nat.lt_succ_of_lt (sound.functionsEarlier commandId function (.inr (.inl old)))
    · rw [loaded.sync] at found
      exact Nat.lt_succ_of_lt (sound.functionsEarlier commandId function (.inr (.inr found)))
  registrantEarlier commandId last found := by
    rw [loaded.loads]
    rcases loaded.registrant_cases found with ⟨-, old⟩ | ⟨state, -, rfl⟩
    · exact Nat.lt_succ_of_lt (sound.registrantEarlier commandId last old)
    · exact Nat.lt_succ_self _
  commands commandId function found info member same := by
    rcases loaded.registered.moduleOwner commandId function found with ⟨own, listed⟩ | old
    · rcases loaded.module_cases member with before | rfl
      · have := sound.modulesEarlier info before
        omega
      · exact listed
    · rcases loaded.module_cases member with before | rfl
      · exact sound.commands commandId function old info before same
      · have := sound.functionsEarlier commandId function (.inl old)
        simp only at same
        omega
  session commandId found := by
    rw [loaded.sync] at found
    exact loaded.registered.sessionKept commandId (sound.session commandId found)
  waiting commandId last found synchronous := by
    rcases loaded.registrant_cases found with ⟨unasked, old⟩ | ⟨state, asked, rfl⟩
    · rw [(loaded.registered.untouched commandId unasked).2]
      exact sound.waiting commandId last old synchronous
    · cases synchronous
      exact loaded.registered.synchronous commandId asked
  copied commandId last found synchronous copied := by
    rw [loaded.sync]
    rcases loaded.registrant_cases found with ⟨-, old⟩ | ⟨state, -, rfl⟩
    · exact sound.copied commandId last old synchronous copied
    · cases copied

theorem Loaded.own_live : loader.loads ∈ next.live := by
  rw [loaded.live]
  exact .head _

theorem Loaded.live_of_live {number : Nat} (member : number ∈ loader.live) :
    number ∈ next.live := by
  rw [loaded.live]
  exact .tail _ member

theorem Loaded.dispatched (sound : loader.Sound) (tidy : loader.Tidy)
    (apart : ∀ commandId, lastState commandId library.moduleCommandList = some .logicRunAsynhronous
      → loader.syncFunction commandId = none) {last : Registration}
    (found : next.registrant commandId = some last) (alive : last.owner ∈ next.live) :
    next.DispatchedTo commandId last := by
  rcases loaded.registrant_cases found with ⟨unasked, old⟩ | ⟨state, asked, rfl⟩
  · obtain ⟨modules, sessions⟩ := loaded.registered.untouched commandId unasked
    have before := sound.registrantEarlier commandId last old
    have alive : last.owner ∈ loader.live := by
      rw [loaded.live] at alive
      refine (List.mem_cons.mp alive).resolve_left fun same => ?_
      omega
    have dispatched := tidy.dispatched commandId last old alive
    simpa only [DispatchedTo, dispatch, modules, sessions, loaded.sync] using dispatched
  · cases state with
    | logicRunAsynhronous =>
      simp only [DispatchedTo, reduceCtorEq, false_and, if_false, dispatch, loaded.sync,
        apart commandId asked, Option.none_or]
      exact loaded.registered.asynchronous commandId asked
    | logicRunSynchronous => exact loaded.registered.synchronous commandId asked

theorem Loaded.tidy_iff (sound : loader.Sound) (tidy : loader.Tidy) :
    next.Tidy ↔ ∀ commandId,
      lastState commandId library.moduleCommandList = some .logicRunAsynhronous →
        loader.syncFunction commandId = none := by
  constructor
  · intro tidied commandId last
    have found : next.registrant commandId =
        some ⟨loader.loads, .logicRunAsynhronous, false⟩ := by
      rw [loaded.registered.registrant, last]
      rfl
    have dispatched := tidied.dispatched commandId _ found loaded.own_live
    simp only [DispatchedTo, reduceCtorEq, false_and, if_false, dispatch, loaded.sync]
      at dispatched
    cases sync : loader.syncFunction commandId with
    | none => rfl
    | some function =>
      have before := sound.functionsEarlier commandId function (.inr (.inr sync))
      simp [sync] at dispatched
      omega
  · intro apart
    constructor
    · intro commandId function found
      rcases loaded.registered.moduleOwner commandId function found with ⟨same, _⟩ | old
      · rw [same]
        exact loaded.own_live
      · exact loaded.live_of_live (tidy.moduleFunction commandId function old)
    · intro commandId function found
      rcases loaded.registered.sessionOwner commandId function found with same | old
      · rw [same]
        exact loaded.own_live
      · exact loaded.live_of_live (tidy.sessionFunction commandId function old)
    · intro name owner found
      rw [loaded.moduleRun] at found
      by_cases same : name = moduleFileName
      · rw [same, update_self, Option.some.injEq] at found
        split at found
        · cases found
          exact loaded.own_live
        · cases found
      · rw [update_of_ne same] at found
        exact loaded.live_of_live (tidy.moduleRun name owner found)
    · intro commandId function found
      rw [loaded.sync] at found
      exact loaded.live_of_live (tidy.syncFunction commandId function found)
    · intro commandId last found alive
      exact loaded.dispatched sound tidy apart found alive

end Loaded

structure Unloaded (info : ModuleInfo) (loader next : LoadModule) : Prop where
  member : info ∈ loader.moduleList
  moduleFunction : ∀ commandId, next.commandToModuleFunction commandId =
    if commandId ∈ info.commandIdList then none else loader.commandToModuleFunction commandId
  live : ∀ number, number ∈ next.live ↔ number ∈ loader.live ∧ number ≠ info.number
  moduleList : ∀ other ∈ next.moduleList, other ∈ loader.moduleList
  kept : ∀ other ∈ loader.moduleList, other.moduleFileName ≠ info.moduleFileName →
    other ∈ next.moduleList
  frame : next.commandToSessionFunction = loader.commandToSessionFunction ∧
    next.syncFunction = loader.syncFunction ∧
    next.pluginNameToModuleRun = loader.pluginNameToModuleRun ∧
    next.registrant = loader.registrant ∧ next.loads = loader.loads

theorem unloadPluginModule_cases (loader : LoadModule) (moduleFileName : String) (isDelete : Bool) :
    (loader.unloadPluginModule moduleFileName isDelete).1 = loader ∧
      loader.findModule moduleFileName = none ∨
    ∃ info, loader.findModule moduleFileName = some info ∧
      Unloaded info loader (loader.unloadPluginModule moduleFileName isDelete).1 := by
  unfold unloadPluginModule
  cases found : loader.findModule moduleFileName with
  | none => exact .inl ⟨rfl, rfl⟩
  | some info =>
    obtain ⟨member, name⟩ := mem_of_findModule found
    refine .inr ⟨info, rfl, member, fun _ => rfl, fun number => ?_, fun other listed => ?_,
      fun other listed apart => ?_, rfl, rfl, rfl, rfl, rfl⟩
    · simp [List.mem_filter]
    · cases isDelete with
      | false => exact listed
      | true => exact (List.mem_filter.mp listed).1
    · cases isDelete with
      | false => exact listed
      | true => exact List.mem_filter.mpr ⟨listed, by simpa [name] using apart⟩

theorem Unloaded.sound (unloaded : Unloaded info loader next) (sound : loader.Sound) :
    next.Sound := by
  obtain ⟨session, sync, moduleRun, registrant, loads⟩ := unloaded.frame
  have modules : ∀ commandId function, next.commandToModuleFunction commandId = some function →
      loader.commandToModuleFunction commandId = some function := fun commandId function found => by
    rw [unloaded.moduleFunction] at found
    split at found
    · cases found
    · exact found
  constructor
  · intro number member
    obtain ⟨before, apart⟩ := (unloaded.live number).mp member
    obtain ⟨other, listed, same⟩ := sound.live number before
    refine ⟨other, unloaded.kept other listed fun name => apart ?_, same⟩
    rw [← same, sound.unique other listed info unloaded.member name]
  · intro first member second member'
    exact sound.unique first (unloaded.moduleList first member) second
      (unloaded.moduleList second member')
  · intro other member
    rw [loads]
    exact sound.modulesEarlier other (unloaded.moduleList other member)
  · intro commandId function found
    rw [loads]
    rw [session, sync] at found
    exact sound.functionsEarlier commandId function (found.imp_left (modules commandId function))
  · rw [registrant, loads]
    exact sound.registrantEarlier
  · intro commandId function found other member
    exact sound.commands commandId function (modules commandId function found) other
      (unloaded.moduleList other member)
  · rw [session, sync]
    exact sound.session
  · rw [session, registrant]
    exact sound.waiting
  · rw [sync, registrant]
    exact sound.copied

theorem registrant_syncInit {last : Registration}
    (found : loader.syncInit.registrant commandId = some last) :
    ∃ before, loader.registrant commandId = some before ∧
      last = { before with copied := true } := by
  obtain ⟨before, old, same⟩ := Option.map_eq_some_iff.mp found
  exact ⟨before, old, same.symm⟩

section Sound

variable (sound : loader.Sound)

include sound

theorem live_close : loader.close.live = [] := by
  refine List.filter_eq_nil_iff.mpr fun number member => ?_
  obtain ⟨info, listed, same⟩ := sound.live number member
  simpa using ⟨info, listed, same⟩

theorem close_sound : loader.close.Sound where
  live number member := by
    rw [live_close sound] at member
    cases member
  unique := nofun
  modulesEarlier := nofun
  functionsEarlier commandId function found := by
    rcases found with found | found
    · cases found
    · exact sound.functionsEarlier commandId function (.inr found)
  registrantEarlier := sound.registrantEarlier
  commands := nofun
  session := sound.session
  waiting := sound.waiting
  copied := sound.copied

theorem syncInit_sound : loader.syncInit.Sound where
  live := sound.live
  unique := sound.unique
  modulesEarlier := sound.modulesEarlier
  functionsEarlier commandId function found := by
    rcases found with found | found | found
    · exact sound.functionsEarlier commandId function (.inl found)
    · exact sound.functionsEarlier commandId function (.inr (.inl found))
    · exact sound.functionsEarlier commandId function (.inr (.inl found))
  registrantEarlier commandId last found := by
    obtain ⟨before, old, rfl⟩ := registrant_syncInit found
    exact sound.registrantEarlier commandId before old
  commands := sound.commands
  session _ found := found
  waiting commandId last found synchronous := by
    obtain ⟨before, old, rfl⟩ := registrant_syncInit found
    exact sound.waiting commandId before old synchronous
  copied commandId last found synchronous _ := by
    obtain ⟨before, old, rfl⟩ := registrant_syncInit found
    exact sound.waiting commandId before old synchronous

theorem perform_sound (action : LoadModuleAction) : (loader.perform action).Sound := by
  cases action with
  | loadPluginModule moduleFileName library =>
    simp only [perform]
    rcases loadPluginModule_cases loader moduleFileName library with ⟨same, _⟩ | ⟨loaded, _⟩
    · rw [same]
      exact sound
    · exact loaded.sound sound
  | unloadPluginModule moduleFileName isDelete =>
    rcases unloadPluginModule_cases loader moduleFileName isDelete with
      ⟨same, _⟩ | ⟨info, _, unloaded⟩
    · rw [perform, same]
      exact sound
    · exact unloaded.sound sound
  | close => exact close_sound sound
  | syncInit => exact syncInit_sound sound

theorem Unloaded.dispatched (unloaded : Unloaded info loader next) (tidy : loader.Tidy)
    (leaves : loader.LeavesNothing info) {last : Registration}
    (found : next.registrant commandId = some last) (alive : last.owner ∈ next.live) :
    next.DispatchedTo commandId last := by
  obtain ⟨session, sync, _, registrant, _⟩ := unloaded.frame
  rw [registrant] at found
  obtain ⟨alive, other⟩ := (unloaded.live _).mp alive
  have dispatched := tidy.dispatched commandId last found alive
  simp only [DispatchedTo, dispatch, session, sync, unloaded.moduleFunction] at dispatched ⊢
  split
  next uncopied =>
    rw [if_pos uncopied] at dispatched
    exact dispatched
  next settled =>
    rw [if_neg settled] at dispatched
    split
    next member =>
      -- the erased entry was not the one in use
      have covered : (loader.syncFunction commandId).isSome := by
        cases kind : last.logicRunState with
        | logicRunAsynhronous =>
          exact leaves.taken commandId member last found alive other kind
        | logicRunSynchronous =>
          have copied : last.copied = true := by simpa [kind] using settled
          have kept := sound.copied commandId last found kind copied
          obtain ⟨function, isFound, _⟩ := Option.map_eq_some_iff.mp kept
          rw [isFound]
          rfl
      obtain ⟨function, isFound⟩ := Option.isSome_iff_exists.mp covered
      simpa [isFound] using dispatched
    next => exact dispatched

theorem Unloaded.tidy_iff (unloaded : Unloaded info loader next)
    (tidy : loader.Tidy) : next.Tidy ↔ loader.LeavesNothing info := by
  obtain ⟨session, sync, moduleRun, registrant, _⟩ := unloaded.frame
  constructor
  · intro tidied
    constructor
    · intro commandId function found
      rw [← session] at found
      exact ((unloaded.live _).mp (tidied.sessionFunction commandId function found)).2
    · intro commandId function found
      rw [← sync] at found
      exact ((unloaded.live _).mp (tidied.syncFunction commandId function found)).2
    · intro moduleFileName found
      rw [← moduleRun] at found
      exact ((unloaded.live _).mp (tidied.moduleRun moduleFileName _ found)).2 rfl
    · intro commandId member last found alive other asynchronous
      have dispatched := tidied.dispatched commandId last (registrant ▸ found)
        ((unloaded.live _).mpr ⟨alive, other⟩)
      simp only [DispatchedTo, asynchronous, reduceCtorEq, false_and, if_false, dispatch, sync,
        unloaded.moduleFunction, member, if_true, Option.or_none] at dispatched
      obtain ⟨function, found, _⟩ := Option.map_eq_some_iff.mp dispatched
      rw [found]
      rfl
  · intro leaves
    constructor
    · intro commandId function found
      rw [unloaded.moduleFunction] at found
      split at found
      next => cases found
      next outside =>
        refine (unloaded.live _).mpr ⟨tidy.moduleFunction commandId function found, fun same => ?_⟩
        exact outside (sound.commands commandId function found info unloaded.member same.symm)
    · intro commandId function found
      rw [session] at found
      exact (unloaded.live _).mpr ⟨tidy.sessionFunction commandId function found,
        leaves.session commandId function found⟩
    · intro moduleFileName owner found
      rw [moduleRun] at found
      refine (unloaded.live _).mpr ⟨tidy.moduleRun moduleFileName owner found, ?_⟩
      rintro rfl
      exact leaves.moduleRun moduleFileName found
    · intro commandId function found
      rw [sync] at found
      exact (unloaded.live _).mpr ⟨tidy.syncFunction commandId function found,
        leaves.sync commandId function found⟩
    · intro commandId last found alive
      exact unloaded.dispatched sound tidy leaves found alive

theorem close_tidy_iff : loader.close.Tidy ↔ loader.Keeps .close := by
  have nobody := live_close sound
  constructor
  · intro tidied
    refine ⟨fun commandId => ?_, fun commandId => ?_, fun moduleFileName owner found => ?_⟩
    · cases found : loader.commandToSessionFunction commandId with
      | none => rfl
      | some function =>
        have alive := tidied.sessionFunction commandId function found
        rw [nobody] at alive
        cases alive
    · cases found : loader.syncFunction commandId with
      | none => rfl
      | some function =>
        have alive := tidied.syncFunction commandId function found
        rw [nobody] at alive
        cases alive
    · have alive := tidied.moduleRun moduleFileName owner found
      rw [nobody] at alive
      cases alive
  · rintro ⟨session, sync, moduleRun⟩
    refine ⟨nofun, fun commandId function found => ?_, fun moduleFileName owner found => ?_,
      fun commandId function found => ?_, fun commandId last _ alive => ?_⟩
    · cases (session commandId).symm.trans found
    · exact absurd found (moduleRun moduleFileName owner)
    · cases (sync commandId).symm.trans found
    · rw [nobody] at alive
      cases alive

theorem syncInit_tidy_iff (tidy : loader.Tidy) : loader.syncInit.Tidy ↔ loader.Keeps .syncInit := by
  constructor
  · intro tidied commandId last function found alive isFound
    have after : loader.syncInit.registrant commandId = some { last with copied := true } := by
      simp [syncInit, found]
    have dispatched := tidied.dispatched commandId _ after alive
    simpa [DispatchedTo, dispatch, syncInit, isFound] using dispatched
  · intro keeps
    refine ⟨tidy.moduleFunction, tidy.sessionFunction, tidy.moduleRun, tidy.sessionFunction, ?_⟩
    intro commandId last after alive
    obtain ⟨before, found, rfl⟩ := registrant_syncInit after
    simp only [DispatchedTo, dispatch, syncInit, Bool.true_eq_false, and_false, if_false]
    cases session : loader.commandToSessionFunction commandId with
    | some function =>
      exact congrArg some (keeps commandId before function found alive session)
    | none =>
      have unsynced : loader.syncFunction commandId = none := by
        cases sync : loader.syncFunction commandId with
        | none => rfl
        | some function =>
          have kept := sound.session commandId (by rw [sync]; rfl)
          rw [session] at kept
          cases kept
      have dispatched := tidy.dispatched commandId before found alive
      cases kind : before.logicRunState with
      | logicRunAsynhronous =>
        simpa [DispatchedTo, kind, dispatch, unsynced] using dispatched
      | logicRunSynchronous =>
        have waiting := sound.waiting commandId before found kind
        rw [session] at waiting
        cases waiting

theorem perform_tidy_iff (tidy : loader.Tidy) (action : LoadModuleAction) :
    (loader.perform action).Tidy ↔ loader.Keeps action := by
  cases action with
  | loadPluginModule moduleFileName library =>
    simp only [perform, Keeps]
    rcases loadPluginModule_cases loader moduleFileName library with
      ⟨same, refused⟩ | ⟨loaded, opened, absent, result⟩
    · rw [same]
      exact iff_of_true tidy fun opened absent result => absurd ⟨opened, absent, result⟩ refused
    · rw [loaded.tidy_iff sound tidy]
      exact ⟨fun apart _ _ _ => apart, fun keeps => keeps opened absent result⟩
  | unloadPluginModule moduleFileName isDelete =>
    simp only [perform, Keeps]
    rcases unloadPluginModule_cases loader moduleFileName isDelete with
      ⟨same, absent⟩ | ⟨info, found, unloaded⟩
    · rw [same]
      refine iff_of_true tidy fun info found => ?_
      rw [absent] at found
      cases found
    · rw [unloaded.tidy_iff sound tidy]
      exact ⟨fun leaves other isFound => Option.some.inj (found.symm.trans isFound) ▸ leaves,
        fun keeps => keeps info found⟩
  | close => exact close_tidy_iff sound
  | syncInit => exact syncInit_tidy_iff sound tidy

end Sound

theorem init_tidy : init.Tidy := ⟨nofun, nofun, nofun, nofun, nofun⟩

def wholeLibrary (commands : List LogicCommandInfo) : PluginLibrary :=
  ⟨true, true, true, true, true, true, true, 0, commands⟩

end LoadModule

end PssAsio
