import Mathlib.Data.List.AList
import PssAsio.CommunicationServiceCore
import PssAsio.SeparatedKeys

/-!
`CNetSvrManager`: the running listeners by protocol.
-/

namespace PssAsio

structure IoNetServer where
  object : Nat
  ip : String
  port : UInt16
  ioType : ConnectIoType
  deriving DecidableEq, Repr

abbrev ServiceList := AList fun _ : String => IoNetServer

structure NetSvrManager where
  tcpServiceList : ServiceList
  udpServiceList : ServiceList
  kcpServiceList : ServiceList
  ttyServiceList : ServiceList
  tcpSslServiceMap : ServiceList

def ioKey (ioIp : String) (ioPort : UInt16) : String := ioIp ++ "_" ++ toString ioPort.toNat

theorem ioKey_inj {ip otherIp : String} {port otherPort : UInt16}
    (same : ioKey ip port = ioKey otherIp otherPort) : ip = otherIp ∧ port = otherPort := by
  obtain ⟨ips, ports⟩ := SeparatedKeys.key_inj rfl (by decide) same
  exact ⟨ips, UInt16.toNat_inj.mp ports⟩

namespace NetSvrManager

def empty : NetSvrManager := ⟨∅, ∅, ∅, ∅, ∅⟩

variable (manager : NetSvrManager)

def services : ConnectIoType → ServiceList
  | .connectIoTcp => manager.tcpServiceList
  | .connectIoUdp => manager.udpServiceList
  | .connectIoKcp => manager.kcpServiceList
  | .connectIoTty => manager.ttyServiceList
  | .connectIoSsl => manager.tcpSslServiceMap
  | _ => ∅

def addAcceptNetIoEvent (ioIp : String) (ioPort : UInt16) (emIoNetType : ConnectIoType)
    (ioNetServer : IoNetServer) : NetSvrManager :=
  match emIoNetType with
  | .connectIoTcp =>
      { manager with
        tcpServiceList := manager.tcpServiceList.insert (ioKey ioIp ioPort) ioNetServer }
  | .connectIoUdp =>
      { manager with
        udpServiceList := manager.udpServiceList.insert (ioKey ioIp ioPort) ioNetServer }
  -- The list of the UDP listeners, not that of the KCP ones.
  | .connectIoKcp =>
      { manager with
        udpServiceList := manager.udpServiceList.insert (ioKey ioIp ioPort) ioNetServer }
  | .connectIoTty =>
      { manager with
        ttyServiceList := manager.ttyServiceList.insert (ioKey ioIp ioPort) ioNetServer }
  | _ => manager

def delAcceptNetIoEvent (ioIp : String) (ioPort : UInt16) (emIoNetType : ConnectIoType) :
    NetSvrManager :=
  match emIoNetType with
  | .connectIoTcp =>
      { manager with tcpServiceList := manager.tcpServiceList.erase (ioKey ioIp ioPort) }
  | .connectIoUdp =>
      { manager with udpServiceList := manager.udpServiceList.erase (ioKey ioIp ioPort) }
  | .connectIoKcp =>
      { manager with kcpServiceList := manager.kcpServiceList.erase (ioKey ioIp ioPort) }
  | .connectIoTty =>
      { manager with ttyServiceList := manager.ttyServiceList.erase (ioKey ioIp ioPort) }
  | _ => manager

def listenList (list : ServiceList) : List IoNetServer := list.entries.map (·.2)

/-- The list of the TTY listeners stays as it was. -/
def closeAllService : List IoNetServer × NetSvrManager :=
  (listenList manager.tcpServiceList ++ listenList manager.tcpSslServiceMap ++
      listenList manager.kcpServiceList ++ listenList manager.udpServiceList ++
      listenList manager.ttyServiceList,
    { manager with
      tcpServiceList := ∅
      kcpServiceList := ∅
      udpServiceList := ∅
      tcpSslServiceMap := ∅ })

def listOf : ConnectIoType → Option ConnectIoType
  | .connectIoTcp => some .connectIoTcp
  | .connectIoUdp | .connectIoKcp => some .connectIoUdp
  | .connectIoTty => some .connectIoTty
  | _ => none

variable (ip : String) (port : UInt16)

theorem addAcceptNetIoEvent_lookup (ioType list : ConnectIoType) (server : IoNetServer)
    (key : String) :
    ((manager.addAcceptNetIoEvent ip port ioType server).services list).lookup key =
      if listOf ioType = some list ∧ key = ioKey ip port then some server
      else (manager.services list).lookup key := by
  by_cases same : key = ioKey ip port
  · subst same
    cases ioType <;> cases list <;> simp [addAcceptNetIoEvent, services, listOf]
  · cases ioType <;> cases list <;>
      simp [addAcceptNetIoEvent, services, listOf, same]

theorem delAcceptNetIoEvent_lookup (ioType list : ConnectIoType) (key : String)
    (noSsl : ioType = .connectIoSsl → manager.tcpSslServiceMap.lookup key = none) :
    ((manager.delAcceptNetIoEvent ip port ioType).services list).lookup key =
      if ioType = list ∧ key = ioKey ip port then none
      else (manager.services list).lookup key := by
  by_cases same : key = ioKey ip port
  · subst same
    cases ioType <;> cases list <;> simp_all [delAcceptNetIoEvent, services]
  · cases ioType <;> cases list <;> simp [delAcceptNetIoEvent, services, same]

end NetSvrManager

structure ConfigNetIo where
  ip : String
  port : UInt16
  protocolType : ConnectIoType
  deriving DecidableEq, Repr

/-- What `start_single_service` and `close_single_service` add to the queue of logic thread 0. -/
inductive ServiceTask where
  | start (netio : ConfigNetIo)
  | close (netio : ConfigNetIo)
  deriving DecidableEq, Repr

structure SingleServices where
  manager : NetSvrManager
  tasks : List ServiceTask
  objects : Nat
  closed : List IoNetServer

namespace SingleServices

variable (state : SingleServices)

variable (netio : ConfigNetIo)

def isFind : Bool :=
  match netio.protocolType with
  | .connectIoTcp => (state.manager.tcpServiceList.lookup (ioKey netio.ip netio.port)).isSome
  | .connectIoUdp => (state.manager.udpServiceList.lookup (ioKey netio.ip netio.port)).isSome
  | _ => false

def addMessage (task : ServiceTask) : SingleServices :=
  { state with tasks := state.tasks ++ [task] }

def startSingleService : SingleServices :=
  if state.isFind netio then state
  else
    match netio.protocolType with
    | .connectIoTcp => state.addMessage (.start netio)
    | .connectIoUdp => state.addMessage (.start netio)
    | _ => state

def closeSingleService : SingleServices :=
  match netio.protocolType with
  | .connectIoTcp => state.addMessage (.close netio)
  | .connectIoUdp => state.addMessage (.close netio)
  | _ => state

def createService : SingleServices :=
  { state with
    manager := state.manager.addAcceptNetIoEvent netio.ip netio.port netio.protocolType
      ⟨state.objects, netio.ip, netio.port, netio.protocolType⟩
    objects := state.objects + 1 }

def closeService : SingleServices :=
  match netio.protocolType with
  | .connectIoTcp =>
      match state.manager.tcpServiceList.lookup (ioKey netio.ip netio.port) with
      | some tcpService =>
          { state with
            manager := { state.manager with
              tcpServiceList := state.manager.tcpServiceList.erase (ioKey netio.ip netio.port) }
            closed := state.closed ++ [tcpService] }
      | none => state
  | .connectIoUdp =>
      match state.manager.udpServiceList.lookup (ioKey netio.ip netio.port) with
      | some udpService =>
          { state with
            manager := { state.manager with
              udpServiceList := state.manager.udpServiceList.erase (ioKey netio.ip netio.port) }
            closed := state.closed ++ [udpService] }
      | none => state
  | _ => state

def runTask : ServiceTask → SingleServices
  | .start netio => state.createService netio
  | .close netio => state.closeService netio

end SingleServices

end PssAsio
