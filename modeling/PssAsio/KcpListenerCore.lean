import PssAsio.KcpServerCore
import PssAsio.WorkThreadLogicCore

/-!
The receiving half of `CKcpServer`. A control block is the queue of its complete messages.
-/

namespace PssAsio

open Function

structure KcpChannel (Peer : Type) where
  sendEndpoint : Peer
  udpState : KcpValid
  kcpcb : Option (List (List UInt8))
  deriving DecidableEq, Repr

structure KcpParserCall where
  connectId : UInt32
  received : List (List UInt8)
  seen : List UInt8
  deriving DecidableEq, Repr

structure KcpListener (Peer : Type) where
  udpEndpoint2IdList : Peer → Option UInt32
  udpId2EndpointList : UInt32 → Option (KcpChannel Peer)
  countIndex : UInt32
  sessionRecvBuffer : SessionBuffer
  sessionRecvDataBuffer : SessionBuffer
  ioState : SessionState
  ioBridgeConnectId : UInt32
  receives : Nat
  parserCalls : List KcpParserCall
  calls : List WorkAction

inductive KcpListenerAction (Peer : Type) where
  | receive (recvEndpoint : Peer) (data : List UInt8) (initKcp : Bool)
      (completed : List (List UInt8))
  | close (connectId : UInt32)
  | setIoBridgeConnectId (toConnectId : UInt32)
  | createCounter
  deriving DecidableEq, Repr

def kcpKeyIdCreate : List UInt8 :=
  "kcp key id create".toList.map fun letter => UInt8.ofNat letter.toNat

def isKcpIdCreate (kcpData : List UInt8) : Bool :=
  if 24 ≤ kcpData.length then false else kcpData = kcpKeyIdCreate

def SessionBuffer.storeAtRead (session : SessionBuffer) (data : List UInt8) :
    Option SessionBuffer :=
  if fits : data.length ≤ session.maxBuffSize then
    some { session with
      buffer := ByteMemory.patch session.buffer 0 data
      allocated := by
        rw [ByteMemory.patch_length _ _ _ (by rw [session.allocated]; omega), session.allocated] }
  else none

structure KcpReceived where
  received : List (List UInt8)
  queue : List (List UInt8)
  buffer : SessionBuffer

def ikcpRecvLoop (length : Nat) :
    (queue : List (List UInt8)) → (buffer : SessionBuffer) → Option KcpReceived
  | [], buffer => some ⟨[], [], buffer⟩
  | message :: queue, buffer =>
      if message.length ≤ length then
        (buffer.storeAtRead message).bind fun stored =>
          (ikcpRecvLoop length queue (stored.setWriteData message.length).1).map fun rest =>
            { rest with received := message :: rest.received }
      else some ⟨[], message :: queue, buffer⟩

def logicDataLength (received : List (List UInt8)) : Nat := received.flatten.length

namespace KcpListener

variable {Peer : Type}

def started (maxRecvSize : UInt32) (fresh : Nat → UInt8) (countIndex : UInt32) :
    KcpListener Peer where
  udpEndpoint2IdList := fun _ => none
  udpId2EndpointList := fun _ => none
  countIndex := countIndex
  sessionRecvBuffer := SessionBuffer.init maxRecvSize.toUInt64 fresh
  sessionRecvDataBuffer := SessionBuffer.init maxRecvSize.toUInt64 fresh
  ioState := .sessionIoLogic
  ioBridgeConnectId := 0
  receives := 1
  parserCalls := []
  calls := []

variable (server : KcpListener Peer)

def doReceive : KcpListener Peer :=
  { server with receives := server.receives + 1 }

def call (action : WorkAction) : KcpListener Peer :=
  { server with calls := server.calls ++ [action] }

variable (connectId : UInt32)

variable (channel : KcpChannel Peer)

def setChannel : KcpListener Peer :=
  { server with
    udpId2EndpointList := update server.udpId2EndpointList connectId (some channel) }

def parseData (received : List (List UInt8)) : Option (KcpListener Peer) :=
  let recorded : KcpListener Peer := { server with
    parserCalls := server.parserCalls ++
      [⟨connectId, received, server.sessionRecvDataBuffer.content⟩] }
  match (parsePacketFromRecvBufferSingle server.sessionRecvDataBuffer).outcome with
  | .returned false buffer _ =>
      some ({ recorded with
        sessionRecvDataBuffer := buffer.move (logicDataLength received) }.call
          (.closeSessionEvent connectId))
  | .returned true buffer messageList =>
      some ({ recorded with sessionRecvDataBuffer := buffer }.call
        (.assignationThreadModuleLogic connectId messageList))
  | _ => none

def inputData (queue : List (List UInt8)) (length : Nat) (completed : List (List UInt8)) :
    Option (KcpListener Peer) :=
  (ikcpRecvLoop length (queue ++ completed) server.sessionRecvDataBuffer).bind fun taken =>
    let input := { server.setChannel connectId { channel with kcpcb := some taken.queue } with
      sessionRecvDataBuffer := taken.buffer
      sessionRecvBuffer := server.sessionRecvBuffer.move length }
    if logicDataLength taken.received = 0 then some input.doReceive
    else if input.ioState = .sessionIoBridge ∧ input.ioBridgeConnectId > 0 then
      some { input with sessionRecvBuffer := input.sessionRecvBuffer.move length }.doReceive
    else (input.parseData connectId taken.received).map doReceive

def receiveData (length : Nat) (completed : List (List UInt8)) : Option (KcpListener Peer) :=
  if server.sessionRecvBuffer.getBufferSize = 0 then
    some ({ server with sessionRecvBuffer := server.sessionRecvBuffer.move length }.call
      (.closeSessionEvent connectId)).doReceive
  else
    let written := { server with
      sessionRecvBuffer := (server.sessionRecvBuffer.setWriteData length).1 }
    (written.sessionRecvBuffer.readBytes 0 length).bind fun kcpData =>
      if isKcpIdCreate kcpData then
        some ({ written with
          sessionRecvBuffer := written.sessionRecvBuffer.move length }.setChannel connectId
            { channel with udpState := .kcpIdValid }).doReceive
      else
        match channel.kcpcb with
        | some queue => written.inputData connectId channel queue length completed
        | none => none

variable [DecidableEq Peer]

variable (server : KcpListener Peer)

def addUdpEndpoint (recvEndpoint : Peer) (initKcp : Bool) : KcpListener Peer × UInt32 :=
  match server.udpEndpoint2IdList recvEndpoint with
  | some connectId => (server, connectId)
  | none =>
      let connectId := server.countIndex + 1
      let created := { server with
        countIndex := connectId
        udpEndpoint2IdList :=
          update server.udpEndpoint2IdList recvEndpoint (some connectId)
        udpId2EndpointList := update server.udpId2EndpointList connectId
          (some ⟨recvEndpoint, .kcpValud, if initKcp then some [] else none⟩) }
      if initKcp then (created.call (.addThreadSession connectId), connectId) else (created, 0)

def doReceiveFrom (recvEndpoint : Peer) (length : Nat) (initKcp : Bool)
    (completed : List (List UInt8)) : Option (KcpListener Peer) :=
  let added := (server.addUdpEndpoint recvEndpoint initKcp).1
  let connectId := (server.addUdpEndpoint recvEndpoint initKcp).2
  -- A session that could not be created leaves the handler here, without another receive.
  if connectId = 0 then some added
  else
    match added.udpId2EndpointList connectId with
    | some channel =>
        if 0 < length then added.receiveData connectId channel length completed
        else some added.doReceive
    | none => some added.doReceive

def closeUdpEndpointById (connectId : UInt32) (channel : KcpChannel Peer) : KcpListener Peer :=
  { server with
    udpId2EndpointList := update server.udpId2EndpointList connectId none
    udpEndpoint2IdList :=
      update server.udpEndpoint2IdList channel.sendEndpoint none }.call
    (.deleteThreadSession connectId)

def setIoBridgeConnectId (toConnectId : UInt32) : KcpListener Peer :=
  if toConnectId > 0 then
    { server with ioState := .sessionIoBridge, ioBridgeConnectId := toConnectId }
  else { server with ioState := .sessionIoLogic, ioBridgeConnectId := 0 }

def step :
    KcpListenerAction Peer → Option (KcpListener Peer)
  | .receive recvEndpoint data initKcp completed =>
      if 0 < server.receives then
        (server.sessionRecvBuffer.store data).bind fun filled =>
          { server with
            receives := server.receives - 1
            sessionRecvBuffer := filled }.doReceiveFrom recvEndpoint data.length initKcp completed
      else none
  | .close connectId =>
      (server.udpId2EndpointList connectId).map (server.closeUdpEndpointById connectId)
  | .setIoBridgeConnectId toConnectId => some (server.setIoBridgeConnectId toConnectId)
  | .createCounter => some { server with countIndex := server.countIndex + 1 }

variable {connectId : UInt32} {next server : KcpListener Peer} {completed : List (List UInt8)}

omit [DecidableEq Peer]

theorem parseData_eq_some {received : List (List UInt8)}
    (parsed : server.parseData connectId received = some next) :
    ∃ buffer action, (action = .closeSessionEvent connectId ∨
        ∃ messageList, action = .assignationThreadModuleLogic connectId messageList) ∧
      next = { server with
        parserCalls := server.parserCalls ++
          [⟨connectId, received, server.sessionRecvDataBuffer.content⟩]
        sessionRecvDataBuffer := buffer
        calls := server.calls ++ [action] } := by
  unfold parseData at parsed
  split at parsed
  · exact ⟨_, _, .inl rfl, (Option.some.inj parsed).symm⟩
  · exact ⟨_, _, .inr ⟨_, rfl⟩, (Option.some.inj parsed).symm⟩
  · cases parsed

def inputTaken (server : KcpListener Peer) (connectId : UInt32) (channel : KcpChannel Peer)
    (buffer : SessionBuffer) (taken : KcpReceived) : KcpListener Peer :=
  { server.setChannel connectId { channel with kcpcb := some taken.queue } with
    sessionRecvDataBuffer := taken.buffer
    sessionRecvBuffer := buffer }

inductive Received (server : KcpListener Peer) (connectId : UInt32)
    (channel : KcpChannel Peer) (length : Nat) (completed : List (List UInt8)) :
    KcpListener Peer → Prop where
  | full (buffer : SessionBuffer) :
      Received server connectId channel length completed
        ({ server with sessionRecvBuffer := buffer }.call
          (.closeSessionEvent connectId)).doReceive
  | created (buffer : SessionBuffer) :
      Received server connectId channel length completed
        ({ server with sessionRecvBuffer := buffer }.setChannel connectId
          { channel with udpState := .kcpIdValid }).doReceive
  | unparsed (queue : List (List UInt8)) (taken : KcpReceived) (buffer : SessionBuffer)
      (block : channel.kcpcb = some queue)
      (ran : ikcpRecvLoop length (queue ++ completed) server.sessionRecvDataBuffer = some taken) :
      Received server connectId channel length completed
        (server.inputTaken connectId channel buffer taken).doReceive
  | parsed (queue : List (List UInt8)) (taken : KcpReceived) (buffer : SessionBuffer)
      (next : KcpListener Peer) (block : channel.kcpcb = some queue)
      (ran : ikcpRecvLoop length (queue ++ completed) server.sessionRecvDataBuffer = some taken)
      (bytes : logicDataLength taken.received ≠ 0)
      (unbridged : ¬(server.ioState = .sessionIoBridge ∧ server.ioBridgeConnectId > 0))
      (parses : (server.inputTaken connectId channel buffer taken).parseData connectId
        taken.received = some next) :
      Received server connectId channel length completed next.doReceive

theorem received_of_inputData {channel : KcpChannel Peer} {queue : List (List UInt8)}
    {length : Nat} {before : SessionBuffer} (block : channel.kcpcb = some queue)
    (handled : { server with sessionRecvBuffer := before }.inputData connectId channel queue length
      completed = some next) : Received server connectId channel length completed next := by
  obtain ⟨taken, ran, rest⟩ := Option.bind_eq_some_iff.mp handled
  simp only at rest
  split at rest
  · cases rest
    exact .unparsed queue taken (before.move length) block ran
  · rename_i bytes
    split at rest
    · cases rest
      exact .unparsed queue taken ((before.move length).move length) block ran
    · rename_i unbridged
      obtain ⟨parsed, parses, rfl⟩ := Option.map_eq_some_iff.mp rest
      exact .parsed queue taken (before.move length) parsed block ran bytes unbridged parses

theorem received_of_receiveData {channel : KcpChannel Peer} {length : Nat}
    (handled : server.receiveData connectId channel length completed = some next) :
    Received server connectId channel length completed next := by
  unfold receiveData at handled
  split at handled
  · cases handled
    exact .full _
  · obtain ⟨kcpData, -, rest⟩ := Option.bind_eq_some_iff.mp handled
    split at rest
    · cases rest
      exact .created _
    · split at rest
      · rename_i queue block
        exact received_of_inputData block rest
      · cases rest

variable [DecidableEq Peer]

theorem doReceiveFrom_cases {recvEndpoint : Peer} {length : Nat} {initKcp : Bool}
    (handled : server.doReceiveFrom recvEndpoint length initKcp completed = some next) :
    (server.addUdpEndpoint recvEndpoint initKcp).2 = 0 ∧
        next = (server.addUdpEndpoint recvEndpoint initKcp).1 ∨
      (server.addUdpEndpoint recvEndpoint initKcp).2 ≠ 0 ∧
        (next = (server.addUdpEndpoint recvEndpoint initKcp).1.doReceive ∨
          ∃ channel, (server.addUdpEndpoint recvEndpoint initKcp).1.udpId2EndpointList
              (server.addUdpEndpoint recvEndpoint initKcp).2 = some channel ∧
            Received (server.addUdpEndpoint recvEndpoint initKcp).1
              (server.addUdpEndpoint recvEndpoint initKcp).2 channel length completed next) := by
  unfold doReceiveFrom at handled
  simp only at handled
  split at handled
  · rename_i failed
    exact .inl ⟨failed, (Option.some.inj handled).symm⟩
  · rename_i succeeded
    refine .inr ⟨succeeded, ?_⟩
    split at handled
    · rename_i channel found
      split at handled
      · exact .inr ⟨channel, found, received_of_receiveData handled⟩
      · exact .inl (Option.some.inj handled).symm
    · exact .inl (Option.some.inj handled).symm

variable {Packet : Type}

/-- The listener lists the sessions that the model of the sending half lists. -/
structure SameSessions (listener : KcpListener Peer) (server : KcpServer Peer Packet) : Prop where
  ids : ∀ endpoint, server.udpEndpoint2IdList endpoint =
    (listener.udpEndpoint2IdList endpoint).map UInt32.toNat
  sessions : ∀ connectId : UInt32, server.udpId2EndpointList connectId.toNat =
    (listener.udpId2EndpointList connectId).map fun channel =>
      ⟨channel.sendEndpoint, channel.udpState⟩

theorem addUdpEndpoint_sameSessions {listener : KcpListener Peer}
    {server next : KcpServer Peer Packet} (same : listener.SameSessions server)
    {recvEndpoint : Peer} {initKcp : Bool}
    (received : server.addUdpEndpoint recvEndpoint (listener.countIndex + 1).toNat initKcp =
      some next) : (listener.addUdpEndpoint recvEndpoint initKcp).1.SameSessions next := by
  have known := same.ids recvEndpoint
  unfold KcpServer.addUdpEndpoint at received
  unfold addUdpEndpoint
  cases found : listener.udpEndpoint2IdList recvEndpoint with
  | some connectId =>
    rw [known, found] at received
    cases received
    exact ⟨same.ids, same.sessions⟩
  | none =>
    rw [known, found] at received
    simp only [Option.map_none, Option.ite_none_left_eq_some] at received
    obtain ⟨-, ⟨⟩⟩ := received
    constructor
    · intro endpoint
      by_cases new : endpoint = recvEndpoint <;>
        cases initKcp <;> simp [KcpServer.createSession, call, new, same.ids]
    · intro connectId
      by_cases new : connectId = listener.countIndex + 1
      · cases initKcp <;> simp [KcpServer.createSession, call, new]
      · have apart : connectId.toNat ≠ (listener.countIndex + 1).toNat :=
          fun equal => new (UInt32.toNat_inj.mp equal)
        refine ((update_of_ne apart _ _).trans (same.sessions connectId)).trans ?_
        cases initKcp <;> simp [call, new]

end KcpListener

end PssAsio
