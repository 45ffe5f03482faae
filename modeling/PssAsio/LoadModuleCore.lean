import Mathlib.Logic.Function.Basic

/-!
`CLoadModule` and the table of `CSyncLogic`. Every load of a module has a number of its own.
-/

namespace PssAsio

open Function

inductive LogicRunState where
  | logicRunAsynhronous
  | logicRunSynchronous
  deriving DecidableEq, Repr

inductive LogicCommandType where
  | commandTypeNoFn
  | commandTypeYesFn
  deriving DecidableEq, Repr

/-- `logicFn` tells the functions apart that a module registers itself. -/
structure LogicCommandInfo where
  logicRunState : LogicRunState
  type : LogicCommandType
  commandId : UInt16
  logicFn : Nat
  deriving DecidableEq, Repr

structure PluginLibrary where
  hModule : Bool
  loadModule : Bool
  unloadModule : Bool
  doMessage : Bool
  getModuleState : Bool
  setOutput : Bool
  moduleRun : Bool
  loadResult : Int
  moduleCommandList : List LogicCommandInfo
  deriving DecidableEq, Repr

inductive ModuleFunction where
  | doMessage (owner : Nat)
  | logicFn (owner : Nat) (logicFn : Nat)
  deriving DecidableEq, Repr

structure ModuleInfo where
  moduleFileName : String
  number : Nat
  commandIdList : List UInt16
  deriving DecidableEq, Repr

structure Registration where
  owner : Nat
  logicRunState : LogicRunState
  copied : Bool
  deriving DecidableEq, Repr

/-- `live` and `registrant` are history. An entry of `pluginNameToModuleRun` can be null. -/
structure LoadModule where
  moduleList : List ModuleInfo
  commandToModuleFunction : UInt16 → Option ModuleFunction
  commandToSessionFunction : UInt16 → Option ModuleFunction
  pluginNameToModuleRun : String → Option (Option Nat)
  syncFunction : UInt16 → Option ModuleFunction
  loads : Nat
  live : List Nat
  registrant : UInt16 → Option Registration

inductive LoadModuleAction where
  | loadPluginModule (moduleFileName : String) (library : PluginLibrary)
  | unloadPluginModule (moduleFileName : String) (isDelete : Bool)
  | close
  | syncInit
  deriving DecidableEq, Repr

namespace ModuleFunction

def owner : ModuleFunction → Nat
  | .doMessage owner => owner
  | .logicFn owner _ => owner

end ModuleFunction

namespace PluginLibrary

/-- The check after the lookup of `module_run` tests `set_output_` again. -/
def loadModuleInfo (library : PluginLibrary) : Bool :=
  library.hModule && library.loadModule && library.unloadModule && library.doMessage &&
    library.getModuleState && library.setOutput && library.setOutput

end PluginLibrary

namespace LoadModule

def init : LoadModule where
  moduleList := []
  commandToModuleFunction := fun _ => none
  commandToSessionFunction := fun _ => none
  pluginNameToModuleRun := fun _ => none
  syncFunction := fun _ => none
  loads := 0
  live := []
  registrant := fun _ => none

variable (loader : LoadModule)

variable (moduleFileName : String)

def findModule : Option ModuleInfo :=
  loader.moduleList.find? fun info => info.moduleFileName = moduleFileName

variable (number : Nat)

def commandFunction (command : LogicCommandInfo) : ModuleFunction :=
  match command.type with
  | .commandTypeNoFn => .doMessage number
  | .commandTypeYesFn => .logicFn number command.logicFn

def addCommandToModuleFunction (command : LogicCommandInfo) : LoadModule :=
  { loader with
    commandToModuleFunction := update loader.commandToModuleFunction command.commandId
      (some (commandFunction number command)) }

def addCommandToSessionFunction (command : LogicCommandInfo) : LoadModule :=
  { loader with
    commandToSessionFunction := update loader.commandToSessionFunction command.commandId
      (some (commandFunction number command)) }

def regeditCommand (loader : LoadModule) (command : LogicCommandInfo) : LoadModule :=
  let added := match command.logicRunState with
    | .logicRunAsynhronous => loader.addCommandToModuleFunction number command
    | .logicRunSynchronous => loader.addCommandToSessionFunction number command
  { added with
    registrant := update loader.registrant command.commandId
      (some ⟨number, command.logicRunState, false⟩) }

def loadPluginModule (library : PluginLibrary) : LoadModule × Bool :=
  if library.loadModuleInfo = false then (loader, false)
  else if (loader.findModule moduleFileName).isSome then (loader, false)
  else if library.loadResult ≠ 0 then (loader, false)
  else
    let number := loader.loads
    let registered := library.moduleCommandList.foldl (regeditCommand number) loader
    ({ registered with
      pluginNameToModuleRun := update registered.pluginNameToModuleRun moduleFileName
        (some (if library.moduleRun then some number else none))
      moduleList := registered.moduleList ++
        [⟨moduleFileName, number, library.moduleCommandList.map LogicCommandInfo.commandId⟩]
      loads := loader.loads + 1
      live := number :: registered.live }, true)

def unloadPluginModule (isDelete : Bool) : LoadModule × Bool :=
  match loader.findModule moduleFileName with
  | none => (loader, false)
  | some info =>
      let erased := fun commandId =>
        if commandId ∈ info.commandIdList then none
        else loader.commandToModuleFunction commandId
      ({ loader with
        commandToModuleFunction := erased
        live := loader.live.filter fun number => number ≠ info.number
        moduleList := if isDelete
          then loader.moduleList.filter fun other => other.moduleFileName ≠ moduleFileName
          else loader.moduleList }, true)

def close : LoadModule :=
  { loader with
    commandToModuleFunction := fun _ => none
    live := loader.live.filter fun number =>
      ¬ loader.moduleList.any fun info => info.number = number
    moduleList := [] }

def syncInit : LoadModule :=
  { loader with
    syncFunction := loader.commandToSessionFunction
    registrant := fun commandId =>
      (loader.registrant commandId).map fun last => { last with copied := true } }

def perform : LoadModuleAction → LoadModule
  | .loadPluginModule moduleFileName library => (loader.loadPluginModule moduleFileName library).1
  | .unloadPluginModule moduleFileName isDelete =>
      (loader.unloadPluginModule moduleFileName isDelete).1
  | .close => loader.close
  | .syncInit => loader.syncInit

def step (action : LoadModuleAction) : Option LoadModule :=
  some (loader.perform action)

def dispatch (commandId : UInt16) : Option ModuleFunction :=
  (loader.syncFunction commandId).or (loader.commandToModuleFunction commandId)

end LoadModule

end PssAsio
