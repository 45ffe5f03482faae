import PssAsio.TcpSessionCore

/-!
`CTcpClientSession` from `start` on. `close` dispatches its closure without any test.
-/

namespace PssAsio

inductive ConnectPhase where
  | connecting
  | connected
  | failed
  deriving DecidableEq, Repr

structure TcpClientSession where
  connectPhase : ConnectPhase := .connecting
  isConnect : Bool := false
  socketOpen : Bool := true
  registered : Bool := false
  reading : Bool := false
  closeTasks : Nat := 0
  closeClosures : Nat := 0
  events : List SessionEvent := []
  deriving DecidableEq, Repr

inductive TcpClientAction where
  | handleConnect (failed : Bool)
  | closeSessionEvent (cause : CloseCause)
  | close
  | runClosure
  deriving DecidableEq, Repr

namespace TcpClientSession

def started : TcpClientSession := {}

variable (session : TcpClientSession)

def handleConnect (failed : Bool) : TcpClientSession :=
  if failed then
    { session with
      connectPhase := .failed
      isConnect := false
      events := session.events ++ [.logicConnectServerError] }
  else
    { session with
      connectPhase := .connected
      isConnect := true
      registered := true
      reading := true
      events := session.events ++ [.packetConnect, .addThreadSession] }

/-- The idle check passes over the sessions of type `CONNECT_IO_SERVER_TCP`. -/
def raise : CloseCause → Option TcpClientSession
  | .readError =>
      if session.reading then
        some { session with
          reading := false
          isConnect := false
          closeTasks := session.closeTasks + 1 }
      else none
  | .parseFailure | .recvBufferFull =>
      if session.reading then some { session with closeTasks := session.closeTasks + 1 } else none
  | .closeIoSession =>
      if session.registered then some { session with closeTasks := session.closeTasks + 1 }
      else none
  | .idleTimeout => none

def close : TcpClientSession :=
  { session with
    closeTasks := session.closeTasks - 1
    closeClosures := session.closeClosures + 1 }

def runClosure : TcpClientSession :=
  { session with
    closeClosures := session.closeClosures - 1
    registered := false
    socketOpen := false
    events := session.events ++
      [.packetDisconnect, .deleteThreadSession, .logicCommandDisconnect] }

def step : TcpClientAction → Option TcpClientSession
  | .handleConnect failed =>
      if session.connectPhase = .connecting then some (session.handleConnect failed) else none
  | .closeSessionEvent cause => session.raise cause
  | .close => if 0 < session.closeTasks then some session.close else none
  | .runClosure => if 0 < session.closeClosures then some session.runClosure else none

end TcpClientSession

end PssAsio
