import PssAsio.KeyedQueues
import PssAsio.PacketParseCore

/-!
`CWorkThreadLogic` and the `TMS` it hands its tasks to.
-/

namespace PssAsio

open KeyedQueues

def logicCommandConnect : UInt16 := 0x0001

def logicCommandDisconnect : UInt16 := 0x0002

def logicThreadWriteIoError : UInt16 := 0x0006

def logicIotoioConnectNoExist : UInt16 := 0x0007

def logicIotoioDataError : UInt16 := 0x0008

inductive SessionState where
  | sessionIoLogic
  | sessionIoBridge
  deriving DecidableEq, Repr

inductive LogicTask where
  | doThreadModuleLogic (connectId : UInt32) (workThreadId commandId : UInt16)
  | closeSession (connectId : UInt32)
  | doWorkThreadModuleLogic (connectId : UInt32) (messageList : List MessagePacket)
      (workThreadId : UInt16)
  | doIoMessageDelivery (connectId : UInt32) (sendPacket : MessagePacket) (workThreadId : UInt16)
  | frame (label : Nat)
  deriving DecidableEq

def LogicTask.connectId : LogicTask → Option UInt32
  | .doThreadModuleLogic connectId _ _ => some connectId
  | .closeSession connectId => some connectId
  | .doWorkThreadModuleLogic connectId _ _ => some connectId
  | .doIoMessageDelivery connectId _ _ => some connectId
  | .frame _ => none

structure Tms where
  logicList : Queues UInt32 LogicTask
  tmsIsStart : Bool
  tmsEvents : List (UInt32 × LogicTask)

namespace Tms

def init : Tms := ⟨Queues.empty, false, []⟩

variable (tms : Tms)

def createLogic (logicId : UInt32) : Tms :=
  { tms with logicList := tms.logicList.create logicId }

def addMessage (logicId : UInt32) (task : LogicTask) : Tms × Bool :=
  if tms.tmsIsStart = false then
    ({ tms with tmsEvents := tms.tmsEvents ++ [(logicId, task)] }, true)
  else
    ({ tms with logicList := (tms.logicList.put logicId task).1 },
      (tms.logicList.put logicId task).2)

def start : Tms :=
  tms.tmsEvents.foldl (fun started event => (started.addMessage event.1 event.2).1)
    { tms with tmsIsStart := true }

def svc (logicId : UInt32) : Option Tms :=
  (tms.logicList.pop logicId).map fun popped => { tms with logicList := popped }

end Tms

variable (commandToSessionFunction : List UInt16)

def doSyncMessage (commandId : UInt16) : Bool :=
  commandToSessionFunction.contains commandId

def doSyncMessageList (messageList : List MessagePacket) : List MessagePacket :=
  if commandToSessionFunction.length = 0 then messageList
  else messageList.filter fun packet => !doSyncMessage commandToSessionFunction packet.commandId

structure WorkThreadLogic where
  threadCount : UInt16
  threadModuleList : List UInt16
  commandToSessionFunction : List UInt16
  tms : Tms

inductive WorkAction where
  | addThreadSession (connectId : UInt32)
  | deleteThreadSession (connectId : UInt32)
  | closeSessionEvent (connectId : UInt32)
  | assignationThreadModuleLogic (connectId : UInt32) (messageList : List MessagePacket)
  | assignationIotoioError (connectId : UInt32) (messageList : List MessagePacket)
  | assignationWithEvents (connectId : UInt32) (messageList : List MessagePacket)
  | sendIoMessage (connectId : UInt32) (sendPacket : MessagePacket)
  | postFrame (logicId : UInt32) (label : Nat)
  | svc (logicId : UInt32)
  deriving DecidableEq

/-- What the packet parser makes of the received bytes. -/
structure ReceiveVerdict where
  parsed : Option (List MessagePacket)
  consumed : Nat
  bridgeSent : Bool
  deriving DecidableEq

/-- `sent` says whether `send_io_bridge_message` found the other session. -/
def doIoBridgeData (connectId ioBridgeConnectId : UInt32) (sessionRecvBuffer : SessionBuffer)
    (length : Nat) (sent : Bool) : Option (Nat × List WorkAction × SessionBuffer) :=
  (sessionRecvBuffer.readBytes 0 length).map fun bytes =>
    let fail : WorkAction :=
      .assignationThreadModuleLogic connectId [⟨logicIotoioDataError, bytes⟩]
    if ioBridgeConnectId > 0 then
      if sent then (0, [], sessionRecvBuffer.move length)
      else (1, [fail], sessionRecvBuffer.move length)
    else (2, [fail], sessionRecvBuffer.move length)

namespace WorkThreadLogic

def createLogics (threadCount : Nat) : Tms :=
  (List.range threadCount).foldl (fun tms index => tms.createLogic (UInt32.ofNat index)) Tms.init

def initWorkThreadLogic (threadCount : Nat) (commandToSessionFunction : List UInt16)
    (pluginThreads : List UInt32) : WorkThreadLogic where
  threadCount := UInt16.ofNat threadCount
  threadModuleList := (List.range threadCount).map UInt16.ofNat
  commandToSessionFunction := commandToSessionFunction
  tms := (pluginThreads.foldl Tms.createLogic (createLogics threadCount)).start

variable (logic : WorkThreadLogic)

variable (connectId : UInt32)

def currThreadIndex : Option UInt16 :=
  if logic.threadCount = 0 then none
  else some (connectId % logic.threadCount.toUInt32).toUInt16

def threadModule : Option (UInt16 × UInt16) :=
  (logic.currThreadIndex connectId).bind fun index =>
    (logic.threadModuleList[index.toNat]?).map fun workThreadId => (index, workThreadId)

def addMessage (logic : WorkThreadLogic) (logicId : UInt32) (task : LogicTask) : WorkThreadLogic :=
  { logic with tms := (logic.tms.addMessage logicId task).1 }

def handOver (answered : Bool) (task : UInt16 → LogicTask) : Option WorkThreadLogic :=
  (logic.threadModule connectId).map fun found =>
    if answered then logic else logic.addMessage found.1.toUInt32 (task found.2)

def addThreadSession : Option WorkThreadLogic :=
  logic.handOver connectId (doSyncMessage logic.commandToSessionFunction logicCommandConnect)
    fun workThreadId => .doThreadModuleLogic connectId workThreadId logicCommandConnect

def deleteThreadSession : Option WorkThreadLogic :=
  logic.handOver connectId (doSyncMessage logic.commandToSessionFunction logicCommandDisconnect)
    fun workThreadId => .doThreadModuleLogic connectId workThreadId logicCommandDisconnect

def closeSessionEvent : Option WorkThreadLogic :=
  logic.handOver connectId false fun _ => .closeSession connectId

variable (messageList : List MessagePacket)

def assignationThreadModuleLogic : Option WorkThreadLogic :=
  let remaining := doSyncMessageList logic.commandToSessionFunction messageList
  if remaining.length > 0 then
    logic.handOver connectId false fun workThreadId =>
      .doWorkThreadModuleLogic connectId remaining workThreadId
  else some logic

def assignationIotoioError : Option WorkThreadLogic :=
  let messageListIotoio := messageList.map fun packet =>
    { packet with commandId := logicIotoioConnectNoExist }
  logic.handOver connectId false fun workThreadId =>
    .doWorkThreadModuleLogic connectId messageListIotoio workThreadId

def assignationWithEvents : Option WorkThreadLogic :=
  logic.handOver connectId false fun workThreadId =>
    .doWorkThreadModuleLogic connectId messageList workThreadId

def sendIoMessage (sendPacket : MessagePacket) : Option WorkThreadLogic :=
  logic.handOver connectId false fun workThreadId =>
    .doIoMessageDelivery connectId sendPacket workThreadId

def step : WorkAction → Option WorkThreadLogic
  | .addThreadSession connectId => logic.addThreadSession connectId
  | .deleteThreadSession connectId => logic.deleteThreadSession connectId
  | .closeSessionEvent connectId => logic.closeSessionEvent connectId
  | .assignationThreadModuleLogic connectId messageList =>
      logic.assignationThreadModuleLogic connectId messageList
  | .assignationIotoioError connectId messageList =>
      logic.assignationIotoioError connectId messageList
  | .assignationWithEvents connectId messageList =>
      logic.assignationWithEvents connectId messageList
  | .sendIoMessage connectId sendPacket => logic.sendIoMessage connectId sendPacket
  | .postFrame logicId label => some (logic.addMessage logicId (.frame label))
  | .svc logicId => (logic.tms.svc logicId).map fun tms => { logic with tms := tms }

inductive Stepped (logic : WorkThreadLogic) : WorkAction → WorkThreadLogic → Prop where
  | answered (action : WorkAction) : Stepped logic action logic
  | handed (action : WorkAction) (connectId : UInt32) (index workThreadId : UInt16)
      (task : LogicTask) (found : logic.threadModule connectId = some (index, workThreadId))
      (owner : task.connectId = some connectId) :
      Stepped logic action (logic.addMessage index.toUInt32 task)
  | posted (logicId : UInt32) (label : Nat) :
      Stepped logic (.postFrame logicId label) (logic.addMessage logicId (.frame label))
  | ran (logicId : UInt32) (popped : Queues UInt32 LogicTask)
      (pops : logic.tms.logicList.pop logicId = some popped) :
      Stepped logic (.svc logicId) { logic with tms := { logic.tms with logicList := popped } }

theorem stepped_of_handOver {logic next : WorkThreadLogic} (action : WorkAction)
    {connectId : UInt32} {answered : Bool} {task : UInt16 → LogicTask}
    (stepped : logic.handOver connectId answered task = some next)
    (owner : ∀ workThreadId, (task workThreadId).connectId = some connectId) :
    Stepped logic action next := by
  obtain ⟨⟨index, workThreadId⟩, found, rfl⟩ := Option.map_eq_some_iff.mp stepped
  cases answered with
  | true => exact .answered action
  | false => exact .handed action connectId index workThreadId _ found (owner workThreadId)

theorem stepped_of_step {logic next : WorkThreadLogic} {action : WorkAction}
    (stepped : logic.step action = some next) : Stepped logic action next := by
  cases action with
  | addThreadSession connectId =>
    simp only [step, addThreadSession] at stepped
    exact stepped_of_handOver _ stepped fun _ => rfl
  | deleteThreadSession connectId =>
    simp only [step, deleteThreadSession] at stepped
    exact stepped_of_handOver _ stepped fun _ => rfl
  | closeSessionEvent connectId =>
    simp only [step, closeSessionEvent] at stepped
    exact stepped_of_handOver _ stepped fun _ => rfl
  | assignationThreadModuleLogic connectId messageList =>
    simp only [step, assignationThreadModuleLogic] at stepped
    split at stepped
    · exact stepped_of_handOver _ stepped fun _ => rfl
    · exact Option.some.inj stepped ▸ .answered _
  | assignationIotoioError connectId messageList =>
    simp only [step, assignationIotoioError] at stepped
    exact stepped_of_handOver _ stepped fun _ => rfl
  | assignationWithEvents connectId messageList =>
    simp only [step, assignationWithEvents] at stepped
    exact stepped_of_handOver _ stepped fun _ => rfl
  | sendIoMessage connectId sendPacket =>
    simp only [step, sendIoMessage] at stepped
    exact stepped_of_handOver _ stepped fun _ => rfl
  | postFrame logicId label => exact Option.some.inj stepped ▸ .posted logicId label
  | svc logicId =>
    simp only [step, Tms.svc, Option.map_map, Option.map_eq_some_iff] at stepped
    obtain ⟨popped, pops, rfl⟩ := stepped
    exact .ran logicId popped pops

end WorkThreadLogic

end PssAsio
