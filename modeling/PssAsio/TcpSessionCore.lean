import Mathlib.Data.List.Basic

/-!
`CTcpSession` as the machine its threads drive. Its socket completes on the context of the acceptor,
which need not be `io_context_`. `closeReturned`, `closeInvoked`, `lost`, `accepted` and `written`
are history.
-/

namespace PssAsio

inductive IoHandler where
  | write (data : List UInt8)
  | close
  deriving DecidableEq, Repr

inductive SessionEvent where
  | packetConnect
  | addThreadSession
  | packetDisconnect
  | deleteThreadSession
  | logicCommandDisconnect
  | logicConnectServerError
  | logicThreadWriteIoError (buffer : List UInt8)
  deriving DecidableEq, Repr

inductive CloseCause where
  | readError
  | parseFailure
  | recvBufferFull
  | idleTimeout
  | closeIoSession
  deriving DecidableEq, Repr

inductive ClosePhase where
  | idle
  | writing
  | flagging
  deriving DecidableEq, Repr

structure TcpSession where
  sharesContext : Bool := false
  sessionSendBuffer : List UInt8 := []
  sendBufferSize : UInt64 := 0
  sendDataSize : UInt64 := 0
  isActiveClose : Bool := false
  socketOpen : Bool := true
  registered : Bool := false
  reading : Bool := false
  ioQueue : List IoHandler := []
  inFlight : List (List UInt8) := []
  finishing : Bool := false
  closeTasks : Nat := 0
  closePhase : ClosePhase := .idle
  closeReturned : Bool := false
  closeInvoked : Bool := false
  lost : UInt64 := 0
  accepted : List UInt8 := []
  written : List UInt8 := []
  events : List SessionEvent := []
  deriving DecidableEq, Repr

inductive TcpAction where
  | setWriteBuffer (data : List UInt8)
  | doWrite (onIoThread : Bool)
  | runHandler (index : Nat)
  | addSendFinishSize (index : Nat)
  | testSendFinish
  | writeFailed (index length : Nat)
  | closeSessionEvent (cause : CloseCause)
  | closeTest
  | closeDoWrite
  | closeFlag
  deriving DecidableEq, Repr

namespace TcpSession

variable (session : TcpSession)

def sendWriteFailToLogic (buffer : List UInt8) (length : Nat) : TcpSession :=
  { session with
    events := session.events ++ [.logicThreadWriteIoError (buffer.take length)] }

def addThreadSession : TcpSession :=
  { session with registered := true, events := session.events ++ [.addThreadSession] }

def deleteThreadSession : TcpSession :=
  { session with
    registered := false
    events := session.events ++ [.deleteThreadSession, .logicCommandDisconnect] }

def openSession : TcpSession :=
  let connected : TcpSession := { session with events := session.events ++ [.packetConnect] }
  { connected.addThreadSession with reading := true }

def opened (sharesContext : Bool) : TcpSession :=
  openSession { sharesContext := sharesContext }

def runHandler : IoHandler → TcpSession
  | .write data =>
      { session with
        inFlight := session.inFlight ++ [data]
        written := session.written ++ data }
  | .close =>
      let disconnected : TcpSession :=
        { session with events := session.events ++ [.packetDisconnect] }
      { disconnected.deleteThreadSession with socketOpen := false }

variable (onIoThread : Bool)

def dispatch (handler : IoHandler) : TcpSession :=
  if onIoThread then session.runHandler handler
  else { session with ioQueue := session.ioQueue ++ [handler] }

def closeImmediaterly : TcpSession :=
  let invoked := { session with closeInvoked := true }
  if invoked.socketOpen then invoked.dispatch onIoThread .close else invoked

variable (data : List UInt8)

def setWriteBuffer : TcpSession :=
  { session with
    sessionSendBuffer := session.sessionSendBuffer ++ data
    accepted := session.accepted ++ data }

def doWrite : TcpSession :=
  if session.sessionSendBuffer = [] then session
  else
    let sendBuffer := session.sessionSendBuffer
    let size := UInt64.ofNat sendBuffer.length
    let taken := { session with
      sendBufferSize := session.sendBufferSize + size
      sessionSendBuffer := [] }
    if session.isActiveClose then
      { taken.sendWriteFailToLogic sendBuffer sendBuffer.length with lost := session.lost + size }
    else taken.dispatch onIoThread (.write sendBuffer)

def addSendFinishSize (length : Nat) : TcpSession :=
  { session with sendDataSize := session.sendDataSize + UInt64.ofNat length }

/-! `do_write_finish` tests flag and counters after it left the lock, with `finishing` set. -/

def testSendFinish : TcpSession :=
  let handled := { session with finishing := false }
  if session.isActiveClose ∧ session.sendBufferSize = session.sendDataSize then
    handled.closeImmediaterly session.sharesContext
  else handled

def writeFailed (length : Nat) : TcpSession :=
  let reported := { session.sendWriteFailToLogic data length with
    lost := session.lost + UInt64.ofNat data.length }
  if session.isActiveClose then reported.closeImmediaterly session.sharesContext else reported

def closeSessionEvent : TcpSession :=
  { session with closeTasks := session.closeTasks + 1 }

def raise : CloseCause → Option TcpSession
  | .readError =>
      if session.reading ∧ ¬session.finishing then
        some { session.closeSessionEvent with reading := false }
      else none
  | .parseFailure | .recvBufferFull =>
      if session.reading ∧ ¬session.finishing then some session.closeSessionEvent else none
  | .idleTimeout | .closeIoSession =>
      if session.registered then some session.closeSessionEvent else none

def closeTest : TcpSession :=
  let taken := { session with closeTasks := session.closeTasks - 1 }
  if session.sendBufferSize = session.sendDataSize then
    { taken.closeImmediaterly false with closeReturned := true }
  else { taken with closePhase := .writing }

def closeDoWrite : TcpSession :=
  { session.doWrite false with closePhase := .flagging }

def closeFlag : TcpSession :=
  { session with isActiveClose := true, closePhase := .idle, closeReturned := true }

def step : TcpAction → Option TcpSession
  | .setWriteBuffer data => some (session.setWriteBuffer data)
  | .doWrite onIoThread =>
      if onIoThread ∧ session.sharesContext ∧ session.finishing then none
      else some (session.doWrite onIoThread)
  | .runHandler index =>
      if session.sharesContext ∧ session.finishing then none
      else (session.ioQueue[index]?).map fun handler =>
        { session with ioQueue := session.ioQueue.eraseIdx index }.runHandler handler
  | .addSendFinishSize index =>
      if session.finishing then none
      else (session.inFlight[index]?).map fun data =>
        { session with
          inFlight := session.inFlight.eraseIdx index
          finishing := true }.addSendFinishSize data.length
  | .testSendFinish => if session.finishing then some session.testSendFinish else none
  | .writeFailed index length =>
      if session.finishing then none
      else (session.inFlight[index]?).map fun data =>
        { session with inFlight := session.inFlight.eraseIdx index }.writeFailed data length
  | .closeSessionEvent cause => session.raise cause
  | .closeTest =>
      if session.closePhase = .idle ∧ 0 < session.closeTasks then some session.closeTest else none
  | .closeDoWrite => if session.closePhase = .writing then some session.closeDoWrite else none
  | .closeFlag => if session.closePhase = .flagging then some session.closeFlag else none

/-- `do_write_immediately` takes the lock twice, so it is two actions. -/
def doWriteImmediately (onIoThread : Bool) : List TcpAction :=
  [.setWriteBuffer data, .doWrite onIoThread]

/-! What an accepted step did, with what had to hold for it. -/

inductive Stepped (session : TcpSession) : TcpAction → TcpSession → Prop where
  | setWriteBuffer (data : List UInt8) :
      Stepped session (.setWriteBuffer data) (session.setWriteBuffer data)
  | doWrite (onIoThread : Bool) (free : ¬(onIoThread ∧ session.sharesContext ∧ session.finishing)) :
      Stepped session (.doWrite onIoThread) (session.doWrite onIoThread)
  | runHandler (index : Nat) (handler : IoHandler)
      (free : ¬(session.sharesContext ∧ session.finishing))
      (found : session.ioQueue[index]? = some handler) :
      Stepped session (.runHandler index)
        ({ session with ioQueue := session.ioQueue.eraseIdx index }.runHandler handler)
  | addSendFinishSize (index : Nat) (data : List UInt8) (free : ¬session.finishing)
      (found : session.inFlight[index]? = some data) :
      Stepped session (.addSendFinishSize index)
        ({ session with
          inFlight := session.inFlight.eraseIdx index
          finishing := true }.addSendFinishSize data.length)
  | testSendFinish (busy : session.finishing) :
      Stepped session .testSendFinish session.testSendFinish
  | writeFailed (index length : Nat) (data : List UInt8) (free : ¬session.finishing)
      (found : session.inFlight[index]? = some data) :
      Stepped session (.writeFailed index length)
        ({ session with inFlight := session.inFlight.eraseIdx index }.writeFailed data length)
  | closeSessionEvent (cause : CloseCause) (reading : Bool) :
      Stepped session (.closeSessionEvent cause)
        { session.closeSessionEvent with reading := reading }
  | closeTest (idle : session.closePhase = .idle) (asked : 0 < session.closeTasks) :
      Stepped session .closeTest session.closeTest
  | closeDoWrite (unequal : session.closePhase = .writing) :
      Stepped session .closeDoWrite session.closeDoWrite
  | closeFlag (submitted : session.closePhase = .flagging) :
      Stepped session .closeFlag session.closeFlag

theorem stepped_closeSessionEvent {session next : TcpSession} {cause : CloseCause}
    (raised : session.raise cause = some next) :
    Stepped session (.closeSessionEvent cause) next := by
  cases cause <;>
    simp only [raise, Option.ite_none_right_eq_some, Option.some.injEq] at raised <;>
    obtain ⟨-, rfl⟩ := raised <;>
    exact .closeSessionEvent _ _

theorem stepped_of_step {session next : TcpSession} {action : TcpAction}
    (stepped : session.step action = some next) : Stepped session action next := by
  cases action <;>
    simp only [step, Option.ite_none_left_eq_some, Option.ite_none_right_eq_some,
      Option.map_eq_some_iff, Option.some.injEq] at stepped
  case setWriteBuffer data => exact stepped ▸ .setWriteBuffer data
  case doWrite onIoThread => exact stepped.2 ▸ .doWrite onIoThread stepped.1
  case runHandler index =>
      obtain ⟨free, handler, found, rfl⟩ := stepped
      exact .runHandler index handler free found
  case addSendFinishSize index =>
      obtain ⟨free, data, found, rfl⟩ := stepped
      exact .addSendFinishSize index data free found
  case testSendFinish => exact stepped.2 ▸ .testSendFinish stepped.1
  case writeFailed index length =>
      obtain ⟨free, data, found, rfl⟩ := stepped
      exact .writeFailed index length data free found
  case closeSessionEvent cause => exact stepped_closeSessionEvent stepped
  case closeTest => exact stepped.2 ▸ .closeTest stepped.1.1 stepped.1.2
  case closeDoWrite => exact stepped.2 ▸ .closeDoWrite stepped.1
  case closeFlag => exact stepped.2 ▸ .closeFlag stepped.1

@[simp] theorem runHandler_frame (session : TcpSession) (handler : IoHandler) :
    (session.runHandler handler).sessionSendBuffer = session.sessionSendBuffer ∧
    (session.runHandler handler).sendBufferSize = session.sendBufferSize ∧
    (session.runHandler handler).sendDataSize = session.sendDataSize ∧
    (session.runHandler handler).isActiveClose = session.isActiveClose ∧
    (session.runHandler handler).ioQueue = session.ioQueue ∧
    (session.runHandler handler).finishing = session.finishing ∧
    (session.runHandler handler).closeReturned = session.closeReturned ∧
    (session.runHandler handler).closeInvoked = session.closeInvoked ∧
    (session.runHandler handler).lost = session.lost ∧
    (session.runHandler handler).accepted = session.accepted := by
  cases handler <;> simp [runHandler, deleteThreadSession]

@[simp] theorem dispatch_frame (session : TcpSession) (onIoThread : Bool) (handler : IoHandler) :
    (session.dispatch onIoThread handler).sessionSendBuffer = session.sessionSendBuffer ∧
    (session.dispatch onIoThread handler).sendBufferSize = session.sendBufferSize ∧
    (session.dispatch onIoThread handler).sendDataSize = session.sendDataSize ∧
    (session.dispatch onIoThread handler).isActiveClose = session.isActiveClose ∧
    (session.dispatch onIoThread handler).finishing = session.finishing ∧
    (session.dispatch onIoThread handler).closeReturned = session.closeReturned ∧
    (session.dispatch onIoThread handler).closeInvoked = session.closeInvoked ∧
    (session.dispatch onIoThread handler).lost = session.lost ∧
    (session.dispatch onIoThread handler).accepted = session.accepted := by
  cases onIoThread <;> simp [dispatch]

@[simp] theorem closeImmediaterly_frame (session : TcpSession) (onIoThread : Bool) :
    (session.closeImmediaterly onIoThread).sessionSendBuffer = session.sessionSendBuffer ∧
    (session.closeImmediaterly onIoThread).sendBufferSize = session.sendBufferSize ∧
    (session.closeImmediaterly onIoThread).sendDataSize = session.sendDataSize ∧
    (session.closeImmediaterly onIoThread).isActiveClose = session.isActiveClose ∧
    (session.closeImmediaterly onIoThread).finishing = session.finishing ∧
    (session.closeImmediaterly onIoThread).closeReturned = session.closeReturned ∧
    (session.closeImmediaterly onIoThread).closeInvoked = true ∧
    (session.closeImmediaterly onIoThread).lost = session.lost ∧
    (session.closeImmediaterly onIoThread).accepted = session.accepted := by
  simp only [closeImmediaterly]
  split <;> simp

@[simp] theorem doWrite_frame (session : TcpSession) (onIoThread : Bool) :
    (session.doWrite onIoThread).sendDataSize = session.sendDataSize ∧
    (session.doWrite onIoThread).isActiveClose = session.isActiveClose ∧
    (session.doWrite onIoThread).finishing = session.finishing ∧
    (session.doWrite onIoThread).closeReturned = session.closeReturned ∧
    (session.doWrite onIoThread).closeInvoked = session.closeInvoked ∧
    (session.doWrite onIoThread).accepted = session.accepted := by
  simp only [doWrite]
  split
  · simp
  · split <;> simp [sendWriteFailToLogic]

end TcpSession

end PssAsio
