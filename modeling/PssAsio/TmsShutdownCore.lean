import Mathlib.Data.List.Dedup
import Mathlib.Data.List.Sort
import Mathlib.Logic.Function.Basic

/-!
The end of the worker threads; others may put messages meanwhile.
-/

namespace PssAsio

inductive LogicMessage (Task : Type) where
  | logicTypeRun (func : Task)
  | logicTypeClose
  deriving DecidableEq, Repr

inductive SvcPhase (Task : Type) where
  | testing
  | popping
  | running (func : Task)
  | ended
  deriving DecidableEq, Repr

structure CloseCall (Task : Type) where
  handed : List Task
  waiting : Nat
  popping : Bool
  deriving DecidableEq, Repr

/-- `handed`, `executed` and `called` are history. -/
structure TmsWorker (Task : Type) where
  mRun : Bool
  threadQueue : List (LogicMessage Task)
  phase : SvcPhase Task
  handed : List Task
  executed : List Task
  called : Option (CloseCall Task)
  deriving DecidableEq, Repr

namespace LogicMessage

def task {Task : Type} : LogicMessage Task → Option Task
  | .logicTypeRun func => some func
  | .logicTypeClose => none

end LogicMessage

namespace TmsWorker

variable {Task : Type}

def start : TmsWorker Task := ⟨true, [], .testing, [], [], none⟩

variable (worker : TmsWorker Task)

def waiting : List Task :=
  worker.threadQueue.filterMap LogicMessage.task

def put (message : LogicMessage Task) : TmsWorker Task :=
  { worker with
    threadQueue := worker.threadQueue ++ [message]
    handed := worker.handed ++ message.task.toList }

def testRun : Option (TmsWorker Task) :=
  match worker.phase with
  | .testing => some { worker with phase := if worker.mRun then .popping else .ended }
  | _ => none

def pop : Option (TmsWorker Task) :=
  match worker.phase, worker.threadQueue with
  | .popping, .logicTypeRun func :: rest =>
      some { worker with threadQueue := rest, phase := .running func }
  | .popping, .logicTypeClose :: rest => some { worker with threadQueue := rest, phase := .ended }
  | _, _ => none

def finish : Option (TmsWorker Task) :=
  match worker.phase with
  | .running func =>
      some { worker with phase := .testing, executed := worker.executed ++ [func] }
  | _ => none

def clearRun : TmsWorker Task :=
  { worker with
    mRun := false
    called := some ⟨worker.handed, worker.waiting.length,
      match worker.phase with
      | .popping => true
      | _ => false⟩ }

end TmsWorker

inductive WorkerTask (Task : Type) where
  | posted (task : Task)
  | closeSessions (workThreadId : UInt16)
  deriving DecidableEq, Repr

inductive TmsClosePhase where
  | serving
  | queueing (modules : List UInt16)
  | closing (logicIds : List UInt32)
  | putting (logicId : UInt32) (logicIds : List UInt32)
  | joining (logicId : UInt32) (logicIds : List UInt32)
  deriving DecidableEq, Repr

/-- `returned` is history: the workers whose `Close` has returned. -/
structure TmsShutdown (Task : Type) where
  threadModuleList : List UInt16
  logicIds : List UInt32
  workers : UInt32 → Option (TmsWorker (WorkerTask Task))
  phase : TmsClosePhase
  returned : List UInt32

inductive ShutdownAction (Task : Type) where
  | addMessage (logicId : UInt32) (task : Task)
  | close
  | queueClose
  | tmsClose
  | clearRun
  | putClose
  | join
  | testRun (logicId : UInt32)
  | pop (logicId : UInt32)
  | finish (logicId : UInt32)
  deriving DecidableEq, Repr

namespace TmsShutdown

variable {Task : Type}

def started (threadModuleList : List UInt16) (created : List UInt32) : TmsShutdown Task where
  threadModuleList := threadModuleList
  logicIds := created.dedup.insertionSort (· ≤ ·)
  workers := fun logicId => if logicId ∈ created then some TmsWorker.start else none
  phase := .serving
  returned := []

variable (tms : TmsShutdown Task)

variable (logicId : UInt32)

def setWorker (worker : TmsWorker (WorkerTask Task)) : TmsShutdown Task :=
  { tms with workers := Function.update tms.workers logicId (some worker) }

def addMessage (func : WorkerTask Task) : TmsShutdown Task :=
  match tms.workers logicId with
  | some worker => tms.setWorker logicId (worker.put (.logicTypeRun func))
  | none => tms

def workerStep (act : TmsWorker (WorkerTask Task) → Option (TmsWorker (WorkerTask Task))) :
    Option (TmsShutdown Task) :=
  ((tms.workers logicId).bind act).map (tms.setWorker logicId)

def step : ShutdownAction Task → Option (TmsShutdown Task)
  | .addMessage logicId task => some (tms.addMessage logicId (.posted task))
  | .close =>
      match tms.phase with
      | .serving => some { tms with phase := .queueing tms.threadModuleList }
      | _ => none
  | .queueClose =>
      match tms.phase with
      | .queueing (workThreadId :: rest) =>
          let queued := tms.addMessage workThreadId.toUInt32 (.closeSessions workThreadId)
          some { queued with phase := .queueing rest }
      | _ => none
  | .tmsClose =>
      match tms.phase with
      | .queueing [] => some { tms with phase := .closing tms.logicIds }
      | _ => none
  | .clearRun =>
      match tms.phase with
      | .closing (logicId :: rest) =>
          (tms.workers logicId).map fun worker =>
            { tms.setWorker logicId worker.clearRun with phase := .putting logicId rest }
      | _ => none
  | .putClose =>
      match tms.phase with
      | .putting logicId rest =>
          (tms.workers logicId).map fun worker =>
            { tms.setWorker logicId (worker.put .logicTypeClose) with
              phase := .joining logicId rest }
      | _ => none
  | .join =>
      match tms.phase with
      | .joining logicId rest =>
          (tms.workers logicId).bind fun worker =>
            match worker.phase with
            | .ended =>
                some { tms with phase := .closing rest, returned := logicId :: tms.returned }
            | _ => none
      | _ => none
  | .testRun logicId => tms.workerStep logicId TmsWorker.testRun
  | .pop logicId => tms.workerStep logicId TmsWorker.pop
  | .finish logicId => tms.workerStep logicId TmsWorker.finish

end TmsShutdown

end PssAsio
