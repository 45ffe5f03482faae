import PssAsio.ReentrantLocks
import PssAsio.ServerLinksCore

/-!
The locks of `CWorkThreadLogic` and of `CCommunicationService`, with the calls that take them.
-/

namespace PssAsio

open ReentrantLocks

inductive SessionLock where
  | pluginTimerMutex
  | mutex
  deriving DecidableEq, Repr

inductive LockedCall where
  | addThreadSession (serverId connectId : Nat)
  | deleteThreadSession (serverId : Nat)
  | setConnectId (serverId connectId : Nat)
  | storeConnectId (serverId connectId : Nat)
  | runCheckTask
  | runFirstIoConnect
  | resetConnect (serverId : Nat)
  | eachIoConnect (kind : VisitKind)
  | visit (kind : VisitKind) (serverId : Nat)
  | ioConnect (connectInfo : CommunicationIoInfo)
  | storeConnectInfo (connectInfo : CommunicationIoInfo)
  | testRun (connectInfo : CommunicationIoInfo)
  | markConnecting (connectInfo : CommunicationIoInfo)
  | start (connectInfo : CommunicationIoInfo)
  | storeSession (serverId session : Nat)
  deriving DecidableEq, Repr

structure LinkChoice where
  outcome : Bool
  session : Nat
  connectId : Nat
  isConnect : Bool
  deriving DecidableEq, Repr

abbrev LockedInstr := Instr SessionLock LockedCall

namespace SessionLocks

def guarded (lock : SessionLock) (body : List LockedCall) : List LockedInstr :=
  .acquire lock :: (body.map .call ++ [.release lock])

def startCalls (connectInfo : CommunicationIoInfo) (choice : LinkChoice) : List LockedInstr :=
  let serverId := connectInfo.ioInfo.serverId
  let store := guarded .mutex [.storeSession serverId choice.session]
  match connectInfo.ioType with
  | .connectIoTcp => if choice.outcome then store else []
  | .connectIoUdp | .connectIoTty =>
      -- These two connect before they return and report the session to the workers at once.
      if choice.outcome then .call (.addThreadSession serverId choice.connectId) :: store
      else store
  -- For SSL it is the build that decides.
  | .connectIoSsl => if choice.outcome then store else []
  | _ => []

def expand (service : CommunicationService) (call : LockedCall) (choice : LinkChoice) :
    CommunicationService × List LockedInstr :=
  match call with
  | .addThreadSession serverId connectId =>
      (service, guarded .pluginTimerMutex
        (if 0 < serverId then [.setConnectId serverId connectId] else []))
  | .deleteThreadSession serverId =>
      (service, guarded .pluginTimerMutex
        (if 0 < serverId then [.setConnectId serverId 0] else []))
  | .setConnectId serverId connectId =>
      (service, guarded .mutex [.storeConnectId serverId connectId])
  | .storeConnectId serverId connectId => (service.setConnectId serverId connectId, [])
  | .runCheckTask => (service, guarded .mutex [.eachIoConnect .check])
  | .runFirstIoConnect => (service, guarded .mutex [.eachIoConnect .firstConnect])
  | .resetConnect serverId => (service, guarded .mutex [.visit .firstConnect serverId])
  | .eachIoConnect kind =>
      (service, service.communicationList.keys.map fun serverId => .call (.visit kind serverId))
  | .visit kind serverId =>
      match service.communicationList.lookup serverId with
      | none => (service, [])
      | some connectInfo =>
          if kind = .check ∧ ¬((connectInfo.session = none ∨ choice.isConnect = false) ∧
              connectInfo.ioInfo.isNeedReconnect = true) then
            (service, [])
          else (service, [.call (.ioConnect connectInfo)])
  | .ioConnect connectInfo =>
      (service, guarded .mutex [.storeConnectInfo connectInfo] ++ [.call (.testRun connectInfo)])
  | .storeConnectInfo connectInfo =>
      ({ service with
        communicationList :=
          service.communicationList.insert connectInfo.ioInfo.serverId connectInfo }, [])
  | .testRun connectInfo =>
      if service.communicationIsRun then
        (service, [.acquire .mutex, .call (.markConnecting connectInfo)])
      else (service, [])
  | .markConnecting connectInfo =>
      if connectInfo.ioInfo.serverId ∈ service.serverIsConnectList then
        (service, [.release .mutex])
      else
        ({ service with
          serverIsConnectList :=
            insert connectInfo.ioInfo.serverId service.serverIsConnectList },
          [.release .mutex, .call (.start connectInfo)])
  | .start connectInfo => (service, startCalls connectInfo choice)
  | .storeSession serverId session => (service.setSession serverId session, [])

def isEntry : LockedCall → Bool
  | .addThreadSession serverId _ => decide (0 < serverId)
  | .deleteThreadSession serverId => decide (0 < serverId)
  | .runCheckTask | .runFirstIoConnect | .resetConnect _ => true
  | _ => false

abbrev LockedThreads := Threads Nat SessionLock LockedCall CommunicationService

abbrev LockedMove := Move Nat LockedCall LinkChoice

def step (threads : LockedThreads) (move : LockedMove) : Option LockedThreads :=
  match move with
  | .enter _ call => if isEntry call then threads.step expand move else none
  | .advance _ _ => threads.step expand move

end SessionLocks

end PssAsio
