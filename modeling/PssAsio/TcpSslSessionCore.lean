import Mathlib.Data.List.Basic

/-!
The sending half of `CTcpSSLSession`. `callers` are between `set_write_buffer` and `do_write`.
-/

namespace PssAsio

structure TcpSslSession where
  sessionSendBuffer : List UInt8 := []
  isSendFinish : Bool := true
  sendDataSize : UInt64 := 0
  ioSendCount : UInt32 := 0
  ioQueue : List (List UInt8) := []
  inFlight : List (List UInt8) := []
  completing : List (List UInt8) := []
  resuming : Nat := 0
  callers : List Nat := []
  passed : List (List UInt8) := []
  submitted : List (List UInt8) := []
  deriving DecidableEq, Repr

inductive SslAction where
  | setWriteBuffer (caller : Nat) (data : List UInt8)
  | doWrite (caller : Nat) (onIoThread : Bool)
  | runHandler (index : Nat)
  | writeCompleted (index : Nat)
  | addSendFinishSize (index : Nat)
  | resumeWrite
  deriving DecidableEq, Repr

namespace TcpSslSession

def opened : TcpSslSession := {}

variable (session : TcpSslSession)

def setWriteBuffer (data : List UInt8) : TcpSslSession :=
  { session with
    sessionSendBuffer := session.sessionSendBuffer ++ data
    passed := session.passed ++ [data] }

def clearWriteBuffer : TcpSslSession :=
  { session with sessionSendBuffer := [] }

def asyncWrite (sendBuffer : List UInt8) : TcpSslSession :=
  { session with inFlight := session.inFlight ++ [sendBuffer] }

def dispatch (onIoThread : Bool) (sendBuffer : List UInt8) : TcpSslSession :=
  if onIoThread then session.asyncWrite sendBuffer
  else { session with ioQueue := session.ioQueue ++ [sendBuffer] }

def doWrite (onIoThread : Bool) : TcpSslSession :=
  if session.isSendFinish = false ∨ session.sessionSendBuffer.length = 0 then session
  else
    let sendBuffer := session.sessionSendBuffer
    let taken := { session with
      isSendFinish := false
      submitted := session.submitted ++ [sendBuffer] }
    taken.clearWriteBuffer.dispatch onIoThread sendBuffer

def addSendFinishSize (sendLength : Nat) : TcpSslSession :=
  { session with
    sendDataSize := session.sendDataSize + UInt64.ofNat sendLength
    ioSendCount := session.ioSendCount + 1
    isSendFinish := true }

def step : SslAction → Option TcpSslSession
  | .setWriteBuffer caller data =>
      some { session.setWriteBuffer data with callers := session.callers.insert caller }
  | .doWrite caller onIoThread =>
      some { session.doWrite onIoThread with callers := session.callers.filter (· ≠ caller) }
  | .runHandler index =>
      (session.ioQueue[index]?).map fun sendBuffer =>
        { session with ioQueue := session.ioQueue.eraseIdx index }.asyncWrite sendBuffer
  | .writeCompleted index =>
      (session.inFlight[index]?).map fun sendBuffer =>
        { session with
          inFlight := session.inFlight.eraseIdx index
          completing := session.completing ++ [sendBuffer] }
  | .addSendFinishSize index =>
      (session.completing[index]?).map fun sendBuffer =>
        { session with
          completing := session.completing.eraseIdx index
          resuming := session.resuming + 1 }.addSendFinishSize sendBuffer.length
  | .resumeWrite =>
      if 0 < session.resuming then
        some { session.doWrite true with resuming := session.resuming - 1 }
      else none

/-- `do_write_immediately` takes the lock twice, so it is two actions. -/
def doWriteImmediately (caller : Nat) (data : List UInt8) (onIoThread : Bool) : List SslAction :=
  [.setWriteBuffer caller data, .doWrite caller onIoThread]

inductive Stepped (session : TcpSslSession) : SslAction → TcpSslSession → Prop where
  | setWriteBuffer (caller : Nat) (data : List UInt8) :
      Stepped session (.setWriteBuffer caller data)
        { session.setWriteBuffer data with callers := session.callers.insert caller }
  | doWrite (caller : Nat) (onIoThread : Bool) :
      Stepped session (.doWrite caller onIoThread)
        { session.doWrite onIoThread with callers := session.callers.filter (· ≠ caller) }
  | runHandler (index : Nat) (sendBuffer : List UInt8)
      (found : session.ioQueue[index]? = some sendBuffer) :
      Stepped session (.runHandler index)
        ({ session with ioQueue := session.ioQueue.eraseIdx index }.asyncWrite sendBuffer)
  | writeCompleted (index : Nat) (sendBuffer : List UInt8)
      (found : session.inFlight[index]? = some sendBuffer) :
      Stepped session (.writeCompleted index)
        { session with
          inFlight := session.inFlight.eraseIdx index
          completing := session.completing ++ [sendBuffer] }
  | addSendFinishSize (index : Nat) (sendBuffer : List UInt8)
      (found : session.completing[index]? = some sendBuffer) :
      Stepped session (.addSendFinishSize index)
        ({ session with
          completing := session.completing.eraseIdx index
          resuming := session.resuming + 1 }.addSendFinishSize sendBuffer.length)
  | resumeWrite (resumes : 0 < session.resuming) :
      Stepped session .resumeWrite
        { session.doWrite true with resuming := session.resuming - 1 }

theorem stepped_of_step {session next : TcpSslSession} {action : SslAction}
    (stepped : session.step action = some next) : Stepped session action next := by
  cases action <;>
    simp only [step, Option.map_eq_some_iff, Option.ite_none_right_eq_some,
      Option.some.injEq] at stepped
  case setWriteBuffer caller data => exact stepped ▸ .setWriteBuffer caller data
  case doWrite caller onIoThread => exact stepped ▸ .doWrite caller onIoThread
  case runHandler index =>
      obtain ⟨sendBuffer, found, rfl⟩ := stepped
      exact .runHandler index sendBuffer found
  case writeCompleted index =>
      obtain ⟨sendBuffer, found, rfl⟩ := stepped
      exact .writeCompleted index sendBuffer found
  case addSendFinishSize index =>
      obtain ⟨sendBuffer, found, rfl⟩ := stepped
      exact .addSendFinishSize index sendBuffer found
  case resumeWrite => exact stepped.2 ▸ .resumeWrite stepped.1

end TcpSslSession

end PssAsio
