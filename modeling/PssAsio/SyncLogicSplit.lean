import PssAsio.CommunicationServiceCore
import PssAsio.InPlaceFilter
import PssAsio.WorkThreadLogicCore

/-!
`CSyncLogic` and the split of a batch in `assignation_thread_module_logic`.
-/

namespace PssAsio

open InPlaceFilter

structure MessageSource where
  workThreadId : UInt16
  connectId : UInt32
  connectMarkId : UInt32
  type : ConnectIoType
  deriving DecidableEq

structure BatchSession where
  getIoType : ConnectIoType
  getMarkId : UInt32 → UInt32

abbrev AppendingFunction (Plugin : Type) : Type :=
  MessageSource → MessagePacket → List UInt8 → Plugin → List UInt8 × Plugin

structure SyncCall where
  source : MessageSource
  packet : MessagePacket
  appended : List UInt8
  deriving DecidableEq

structure SyncState (Plugin : Type) where
  plugin : Plugin
  sendPacket : List UInt8
  called : List SyncCall

structure SyncLogic (Plugin : Type) where
  commandToSessionFunction : List (UInt16 × AppendingFunction Plugin)

variable {Plugin : Type}

def SyncState.call (state : SyncState Plugin) (function : AppendingFunction Plugin)
    (source : MessageSource) (packet : MessagePacket) : SyncState Plugin :=
  let answer := function source packet state.sendPacket state.plugin
  { plugin := answer.2
    sendPacket := state.sendPacket ++ answer.1
    called := state.called ++ [⟨source, packet, answer.1⟩] }

namespace SyncLogic

def find (sync : SyncLogic Plugin) (commandId : UInt16) : Option (AppendingFunction Plugin) :=
  (sync.commandToSessionFunction.find? fun entry => entry.1 = commandId).map Prod.snd

variable (sync : SyncLogic Plugin)

variable (source : MessageSource)

variable (state : SyncState Plugin)

def doSyncMessage (packet : MessagePacket) : Bool × SyncState Plugin :=
  match sync.find packet.commandId with
  | none => (false, state)
  | some function => (true, state.call function source packet)

def doSyncMessageList (messageList : List MessagePacket) :
    Option (SyncState Plugin × List MessagePacket) :=
  if sync.commandToSessionFunction.length = 0 then some (state, messageList)
  else eraseRemoveIf (sync.doSyncMessage source) state messageList

def answers (packet : MessagePacket) : Bool :=
  (sync.find packet.commandId).isSome

/-- The function of each packet is called once, in order, from a plugin and a reply to the last
plugin. -/
inductive Served (sync : SyncLogic Plugin) (source : MessageSource) :
    Plugin → List UInt8 → List MessagePacket → List SyncCall → Plugin → Prop where
  | nothing (plugin : Plugin) (reply : List UInt8) : Served sync source plugin reply [] [] plugin
  | call (plugin last : Plugin) (reply : List UInt8) (packet : MessagePacket)
      (rest : List MessagePacket) (calls : List SyncCall) (function : AppendingFunction Plugin)
      (found : sync.find packet.commandId = some function)
      (later : Served sync source (function source packet reply plugin).2
        (reply ++ (function source packet reply plugin).1) rest calls last) :
      Served sync source plugin reply (packet :: rest)
        (⟨source, packet, (function source packet reply plugin).1⟩ :: calls) last

theorem Served.packets {sync : SyncLogic Plugin} {source : MessageSource} {plugin last : Plugin}
    {reply : List UInt8} {packets : List MessagePacket} {calls : List SyncCall}
    (served : Served sync source plugin reply packets calls last) :
    calls.map SyncCall.packet = packets := by
  induction served with
  | nothing plugin reply => rfl
  | call plugin last reply packet rest calls function found later ih => rw [List.map_cons, ih]

/-- The pass of `remove_if` over the packets: the induction is on the packets still to come. -/
theorem sieve_served (messageList : List MessagePacket) :
    ∃ calls last, Served sync source state.plugin state.sendPacket
        (messageList.filter sync.answers) calls last ∧
      sieve (sync.doSyncMessage source) state messageList =
        (⟨last, state.sendPacket ++ calls.flatMap SyncCall.appended, state.called ++ calls⟩,
          messageList.filter fun packet => !sync.answers packet) := by
  induction messageList generalizing state with
  | nil => exact ⟨[], state.plugin, .nothing _ _, by simp [sieve]⟩
  | cons packet rest ih =>
    cases found : sync.find packet.commandId with
    | none =>
      have stays : sync.answers packet = false := by simp [answers, found]
      obtain ⟨calls, last, served, sieved⟩ := ih state
      refine ⟨calls, last, ?_, ?_⟩
      · rw [List.filter_cons_of_neg (by simp [stays])]
        exact served
      · simp [sieve, doSyncMessage, found, sieved, stays]
    | some function =>
      have taken : sync.answers packet = true := by simp [answers, found]
      obtain ⟨calls, last, served, sieved⟩ := ih (state.call function source packet)
      refine ⟨⟨source, packet,
        (function source packet state.sendPacket state.plugin).1⟩ :: calls, last, ?_, ?_⟩
      · rw [List.filter_cons_of_pos taken]
        exact .call _ last _ packet _ calls function found served
      · simp only [sieve, doSyncMessage, found, sieved]
        simp [taken, SyncState.call]

theorem answers_of_empty {sync : SyncLogic Plugin}
    (empty : sync.commandToSessionFunction.length = 0) (packet : MessagePacket) :
    sync.answers packet = false := by
  simp [answers, find, List.eq_nil_of_length_eq_zero empty]

theorem doSyncMessageList_served (messageList : List MessagePacket) :
    ∃ calls last, Served sync source state.plugin state.sendPacket
        (messageList.filter sync.answers) calls last ∧
      sync.doSyncMessageList source state messageList =
        some (⟨last, state.sendPacket ++ calls.flatMap SyncCall.appended, state.called ++ calls⟩,
          messageList.filter fun packet => !sync.answers packet) := by
  by_cases empty : sync.commandToSessionFunction.length = 0
  · have none : messageList.filter sync.answers = [] := by simp [answers_of_empty empty]
    refine ⟨[], state.plugin, ?_, ?_⟩
    · rw [none]
      exact .nothing _ _
    · simp [doSyncMessageList, empty, answers_of_empty empty]
  · obtain ⟨calls, last, served, sieved⟩ := sieve_served sync source state messageList
    refine ⟨calls, last, served, ?_⟩
    rw [doSyncMessageList, if_neg empty, eraseRemoveIf_eq_sieve, sieved]

end SyncLogic

structure BatchHost (Plugin : Type) where
  sync : SyncLogic Plugin
  plugin : Plugin
  called : List SyncCall
  written : List (UInt32 × List UInt8)
  work : WorkThreadLogic

namespace BatchHost

def messageSource (session : BatchSession) (connectId : UInt32) : MessageSource where
  workThreadId := 0
  connectId := connectId
  connectMarkId := session.getMarkId connectId
  type := session.getIoType

def assignationThreadModuleLogic (host : BatchHost Plugin) (connectId : UInt32)
    (messageList : List MessagePacket) (session : BatchSession) : Option (BatchHost Plugin) :=
  (host.sync.doSyncMessageList (messageSource session connectId) ⟨host.plugin, [], host.called⟩
    messageList).bind fun split =>
    let served := { host with
      plugin := split.1.plugin
      called := split.1.called
      written :=
        if split.1.sendPacket.length > 0 then host.written ++ [(connectId, split.1.sendPacket)]
        else host.written }
    if split.2.length > 0 then
      (host.work.handOver connectId false fun workThreadId =>
        .doWorkThreadModuleLogic connectId split.2 workThreadId).map fun work =>
          { served with work := work }
    else some served

def writesFor (connectId : UInt32) (reply : List UInt8) : List (UInt32 × List UInt8) :=
  if reply = [] then [] else [(connectId, reply)]

theorem written_reply (written : List (UInt32 × List UInt8)) (connectId : UInt32)
    (reply : List UInt8) :
    (if reply.length > 0 then written ++ [(connectId, reply)] else written) =
      written ++ writesFor connectId reply := by
  cases reply with
  | nil => simp [writesFor]
  | cons byte rest => simp [writesFor]

def handedOver (work : WorkThreadLogic) (connectId : UInt32) (index workThreadId : UInt16)
    (remaining : List MessagePacket) : WorkThreadLogic :=
  if remaining = [] then work
  else work.addMessage index.toUInt32
    (.doWorkThreadModuleLogic connectId remaining workThreadId)

/-- Synchronous packets are answered once, in order; the others go to the worker in one task. -/
theorem assignation_splits_batch (host : BatchHost Plugin) (connectId : UInt32)
    (messageList : List MessagePacket) (session : BatchSession) {index workThreadId : UInt16}
    (worker : host.work.threadModule connectId = some (index, workThreadId)) :
    ∃ after calls,
      host.assignationThreadModuleLogic connectId messageList session = some after ∧
      SyncLogic.Served host.sync (messageSource session connectId) host.plugin []
        (messageList.filter host.sync.answers) calls after.plugin ∧
      calls.map SyncCall.packet = messageList.filter host.sync.answers ∧
      after.called = host.called ++ calls ∧
      after.written = host.written ++ writesFor connectId (calls.flatMap SyncCall.appended) ∧
      after.work = handedOver host.work connectId index workThreadId
        (messageList.filter fun packet => !host.sync.answers packet) := by
  obtain ⟨calls, last, served, split⟩ := host.sync.doSyncMessageList_served
    (messageSource session connectId) ⟨host.plugin, [], host.called⟩ messageList
  simp only [assignationThreadModuleLogic, split, Option.bind_some, List.nil_append,
    WorkThreadLogic.handOver, worker, Option.map_some, Bool.false_eq_true, if_false, written_reply]
  by_cases rest : (messageList.filter fun packet => !host.sync.answers packet) = []
  · simp only [rest, List.length_nil, gt_iff_lt, Nat.lt_irrefl, if_false]
    exact ⟨_, calls, rfl, served, served.packets, rfl, rfl, (if_pos rfl).symm⟩
  · simp only [gt_iff_lt, List.length_pos_iff.mpr rest, if_true]
    exact ⟨_, calls, rfl, served, served.packets, rfl, rfl, (if_neg rest).symm⟩

/-- The worker's side of the split, where the table is only the list of its commands. -/
theorem assignation_work (host : BatchHost Plugin) (connectId : UInt32)
    (messageList : List MessagePacket) (session : BatchSession)
    (sameTable : host.work.commandToSessionFunction =
      host.sync.commandToSessionFunction.map Prod.fst) :
    (host.assignationThreadModuleLogic connectId messageList session).map BatchHost.work =
      host.work.assignationThreadModuleLogic connectId messageList := by
  have known : ∀ packet : MessagePacket,
      PssAsio.doSyncMessage host.work.commandToSessionFunction packet.commandId =
        host.sync.answers packet := by
    intro packet
    rw [PssAsio.doSyncMessage, sameTable, SyncLogic.answers, SyncLogic.find, Option.isSome_map,
      Bool.eq_iff_iff, List.find?_isSome]
    simp
  have remaining : PssAsio.doSyncMessageList host.work.commandToSessionFunction messageList =
      messageList.filter fun packet => !host.sync.answers packet := by
    simp only [PssAsio.doSyncMessageList, known]
    split
    · rename_i empty
      rw [sameTable, List.length_map] at empty
      simp [SyncLogic.answers_of_empty empty]
    · rfl
  obtain ⟨calls, last, -, split⟩ := host.sync.doSyncMessageList_served
    (messageSource session connectId) ⟨host.plugin, [], host.called⟩ messageList
  simp only [assignationThreadModuleLogic, split, Option.bind_some,
    WorkThreadLogic.assignationThreadModuleLogic, remaining]
  split
  · rw [Option.map_map]
    exact Option.map_id'
  · rfl

end BatchHost

/-- A plugin that counts its calls and answers with the count and the data of the packet. -/
def countingHost : BatchHost Nat where
  sync := ⟨[(5, fun _ packet _ count => (UInt8.ofNat count :: packet.buffer, count + 1))]⟩
  plugin := 1
  called := []
  written := []
  work := WorkThreadLogic.initWorkThreadLogic 2 [5] []

def tcpBatchSession : BatchSession := ⟨.connectIoTcp, fun _ => 0⟩

/-- Hits and misses in turn: the second hit is asked about after a miss has been moved down. -/
theorem mixed_batch_split :
    countingHost.work.threadModule 3 = some (1, 1) ∧
      ∃ after calls, countingHost.assignationThreadModuleLogic 3
          [⟨7, [1]⟩, ⟨5, [2]⟩, ⟨8, [3]⟩, ⟨5, [4]⟩, ⟨7, [5]⟩] tcpBatchSession = some after ∧
        calls.map SyncCall.packet = [⟨5, [2]⟩, ⟨5, [4]⟩] ∧
        after.called = calls ∧
        after.work.tms.logicList.queue 1 = some
          [.doWorkThreadModuleLogic 3 [⟨7, [1]⟩, ⟨8, [3]⟩, ⟨7, [5]⟩] 1] := by
  have worker : countingHost.work.threadModule 3 = some (1, 1) := by decide
  obtain ⟨after, calls, done, -, packets, called, -, handed⟩ :=
    BatchHost.assignation_splits_batch countingHost 3
      [⟨7, [1]⟩, ⟨5, [2]⟩, ⟨8, [3]⟩, ⟨5, [4]⟩, ⟨7, [5]⟩] tcpBatchSession worker
  refine ⟨worker, after, calls, done, packets, called, ?_⟩
  rw [handed]
  decide

end PssAsio
