import PssAsio.TcpSessionCore
import PssAsio.WorkThreadLogicCore

/-!
The sending half of the classes with a `CSessionBuffer`. `handed` and `submitted` are history.
-/

namespace PssAsio

inductive SendBufferClass where
  | tcpClientSession
  | tcpSslClientSession
  | ttyServer
  | udpServer
  | kcpServer
  deriving DecidableEq, Repr

structure OutgoingWrite where
  data : List UInt8
  immediately : Bool
  deriving DecidableEq, Repr

inductive SendHandler where
  | write (outgoing : OutgoingWrite)
  | close
  deriving DecidableEq, Repr

def SendHandler.data : SendHandler → Option (List UInt8)
  | .write outgoing => some outgoing.data
  | .close => none

structure SendSession where
  sessionSendBuffer : SessionBuffer
  connected : Bool
  isActiveClose : Bool
  sendBufferSize : UInt64
  sendDataSize : UInt64
  ioQueue : List SendHandler
  inFlight : List OutgoingWrite
  handed : List (List UInt8)
  submitted : List (List UInt8)
  events : List SessionEvent

inductive SendAction where
  | setWriteBuffer (data : List UInt8)
  | doWrite (onIoThread : Bool)
  | doWriteImmediately (data : List UInt8) (onIoThread : Bool)
  | runHandler (index : Nat)
  | writeFinished (index length : Nat)
  | writeFailed (index length : Nat)
  | close
  deriving DecidableEq, Repr

def SessionEvent.writeError : SessionEvent → Option (List UInt8)
  | .logicThreadWriteIoError buffer => some buffer
  | _ => none

/-! `ikcp_send` on a control block as `ikcp_create` makes it, without streaming. -/

def ikcpMss : Nat := 1400 - 24

def ikcpWndRcv : Nat := 128

def ikcpCount (len : Nat) : Nat := if len ≤ ikcpMss then 1 else (len + ikcpMss - 1) / ikcpMss

/-- The size arrives in an `int`, where the low 32 bits from `2 ^ 31` on are negative. -/
def ikcpSend (buffer : List UInt8) : Option (List UInt8) :=
  let len := buffer.length % 2 ^ 32
  if 2 ^ 31 ≤ len then none
  else if ikcpWndRcv ≤ ikcpCount len then none
  else some (buffer.take len)

namespace SendSession

def opened (sendSize : UInt32) (fresh : Nat → UInt8) : SendSession where
  sessionSendBuffer := SessionBuffer.init sendSize.toUInt64 fresh
  connected := true
  isActiveClose := false
  sendBufferSize := 0
  sendDataSize := 0
  ioQueue := []
  inFlight := []
  handed := []
  submitted := []
  events := []

variable (session : SendSession)

def sendWriteFailToLogic (writeFailBuffer : List UInt8) (bufferLength : Nat) : SendSession :=
  { session with
    events := session.events ++ [.logicThreadWriteIoError (writeFailBuffer.take bufferLength)] }

def addSendFinishSize (sendLength : Nat) : SendSession :=
  { session with sendDataSize := session.sendDataSize + UInt64.ofNat sendLength }

/-- `set_write_buffer` of the five classes; `none` is a copy that leaves the block. -/
def setWriteBuffer (data : List UInt8) : Option SendSession :=
  if session.sessionSendBuffer.getBufferSize ≤ data.length then some session
  else
    (session.sessionSendBuffer.receive data).map fun filled =>
      { session with sessionSendBuffer := filled }

def clearWriteBuffer : SendSession :=
  { session with
    sessionSendBuffer := session.sessionSendBuffer.move session.sessionSendBuffer.getWriteSize }

theorem clearWriteBuffer_content : session.clearWriteBuffer.sessionSendBuffer.content = [] := by
  simp [clearWriteBuffer, SessionBuffer.move_content, SessionBuffer.getWriteSize]

def asyncWrite (outgoing : OutgoingWrite) : SendSession :=
  { session with
    inFlight := session.inFlight ++ [outgoing]
    submitted := session.submitted ++ [outgoing.data] }

def handOver (data : List UInt8) : SendSession :=
  { session with handed := session.handed ++ [data] }

def closed : SendSession :=
  { session with
    events := session.events ++ [.packetDisconnect, .deleteThreadSession, .logicCommandDisconnect] }

variable (kind : SendBufferClass)

/-- The closure that `CTTyServer` dispatches clears the send buffer as well. -/
def runHandler (session : SendSession) : SendHandler → SendSession
  | .write outgoing =>
      let written := session.asyncWrite outgoing
      if kind = .ttyServer then written.clearWriteBuffer else written
  | .close => session.closed

def dispatch (session : SendSession) (onIoThread : Bool) (handler : SendHandler) : SendSession :=
  if onIoThread then session.runHandler kind handler
  else { session with ioQueue := session.ioQueue ++ [handler] }

/-- `ikcp_send` from the buffer; a refused message is only logged. -/
def kcpSend (buffer : List UInt8) : SendSession :=
  match ikcpSend buffer with
  | some message =>
      { session with
        handed := session.handed ++ [message]
        submitted := session.submitted ++ [message] }
  | none => session

def doWrite (session : SendSession) (onIoThread : Bool) : SendSession :=
  let sendBuffer := session.sessionSendBuffer.content
  match kind with
  | .tcpClientSession =>
      if session.connected = false then session
      else (session.clearWriteBuffer.handOver sendBuffer).asyncWrite ⟨sendBuffer, false⟩
  | .tcpSslClientSession =>
      (session.clearWriteBuffer.handOver sendBuffer).asyncWrite ⟨sendBuffer, false⟩
  | .ttyServer =>
      let counted := { session with
        sendBufferSize := session.sendBufferSize + UInt64.ofNat sendBuffer.length }
      ((counted.clearWriteBuffer.handOver sendBuffer).asyncWrite
        ⟨sendBuffer, false⟩).clearWriteBuffer
  | .udpServer =>
      if session.connected = false then session.clearWriteBuffer
      else (session.clearWriteBuffer.handOver sendBuffer).dispatch kind onIoThread
        (.write ⟨sendBuffer, false⟩)
  | .kcpServer =>
      if session.connected = false then session.clearWriteBuffer
      else (session.kcpSend sendBuffer).clearWriteBuffer

def doWriteImmediately (session : SendSession) (data : List UInt8) (onIoThread : Bool) :
    SendSession :=
  match kind with
  | .tcpClientSession =>
      if session.connected = false then session
      else (session.handOver data).dispatch kind onIoThread (.write ⟨data, true⟩)
  | .tcpSslClientSession | .ttyServer =>
      (session.handOver data).dispatch kind onIoThread (.write ⟨data, true⟩)
  | .udpServer =>
      if session.connected = false then session.clearWriteBuffer
      else (session.clearWriteBuffer.handOver data).asyncWrite ⟨data, true⟩
  | .kcpServer =>
      if session.connected = false then session.clearWriteBuffer
      else (session.kcpSend data).clearWriteBuffer

def writeFinished (session : SendSession) (outgoing : OutgoingWrite) (length : Nat) : SendSession :=
  let added := session.addSendFinishSize length
  match kind with
  | .ttyServer =>
      if outgoing.immediately = false ∧ added.isActiveClose = true ∧
          added.sendBufferSize = added.sendDataSize then added.closed
      else added
  | _ => added

/-- The completion of a write with an error after `length` bytes. -/
def writeFailed (session : SendSession) (outgoing : OutgoingWrite) (length : Nat) : SendSession :=
  match kind with
  | .tcpClientSession | .tcpSslClientSession => session.sendWriteFailToLogic outgoing.data length
  | .ttyServer =>
      if outgoing.immediately then session
      else
        let reported := session.sendWriteFailToLogic outgoing.data length
        if reported.isActiveClose then reported.closed else reported
  | .udpServer | .kcpServer => session

def close : SendSession :=
  if session.sendBufferSize = session.sendDataSize then session.dispatch .ttyServer false .close
  else { session.doWrite .ttyServer false with isActiveClose := true }

def step (session : SendSession) : SendAction → Option SendSession
  | .setWriteBuffer data => session.setWriteBuffer data
  | .doWrite onIoThread => some (session.doWrite kind onIoThread)
  | .doWriteImmediately data onIoThread =>
      some (session.doWriteImmediately kind data onIoThread)
  | .runHandler index =>
      (session.ioQueue[index]?).map fun handler =>
        { session with ioQueue := session.ioQueue.eraseIdx index }.runHandler kind handler
  | .writeFinished index length =>
      (session.inFlight[index]?).map fun outgoing =>
        { session with inFlight := session.inFlight.eraseIdx index }.writeFinished kind outgoing
          length
  | .writeFailed index length =>
      (session.inFlight[index]?).map fun outgoing =>
        { session with inFlight := session.inFlight.eraseIdx index }.writeFailed kind outgoing
          length
  | .close => if kind = .ttyServer then some session.close else none

end SendSession

/-! `do_work_thread_module_logic` sends the answers to a list of packets in one go. -/

/-- What the module and the session make of one packet. -/
structure PacketAnswer where
  sendPacket : List UInt8
  sessionFound : Bool
  isNeedSendFormat : Bool
  formatSendPacket : Option (List UInt8)
  deriving DecidableEq, Repr

def PacketAnswer.appended (answer : PacketAnswer) : List UInt8 :=
  if answer.sendPacket.length = 0 then []
  else if answer.sessionFound = false then []
  else if answer.isNeedSendFormat then answer.formatSendPacket.getD []
  else answer.sendPacket

def sendPacketBuffer (answers : List PacketAnswer) : List UInt8 :=
  answers.foldl (fun buffer answer => buffer ++ answer.appended) []

namespace SendSession

def sendReply (kind : SendBufferClass) (session : SendSession) (data : List UInt8) :
    Option SendSession :=
  (session.setWriteBuffer data).map fun filled => filled.doWrite kind false

def doWorkThreadModuleLogic (kind : SendBufferClass) (session : SendSession)
    (answers : List PacketAnswer) : Option SendSession :=
  if (sendPacketBuffer answers).length > 0 then session.sendReply kind (sendPacketBuffer answers)
  else some session

end SendSession

end PssAsio
