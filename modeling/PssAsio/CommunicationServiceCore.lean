import Mathlib.Data.Finset.Basic
import Mathlib.Data.List.AList

/-!
`CCommunicationService`. `ioConnect` is cut before and after the `start` of the session.
-/

namespace PssAsio

inductive ConnectIoType where
  | connectIoTcp
  | connectIoUdp
  | connectIoKcp
  | connectIoTty
  | connectIoSsl
  | connectIoServerTcp
  | connectIoServerUdp
  | connectIoFrame
  | commandUpdate
  | workthreadClose
  deriving DecidableEq, Repr

structure ConnectIoInfo where
  serverId : Nat
  isNeedReconnect : Bool
  deriving DecidableEq, Repr

structure CommunicationIoInfo where
  session : Option Nat
  connectId : Nat
  ioInfo : ConnectIoInfo
  ioType : ConnectIoType
  deriving DecidableEq, Repr

structure CommunicationService where
  communicationList : AList fun _ : Nat => CommunicationIoInfo
  serverConnectIdList : AList fun _ : Nat => Nat
  serverIsConnectList : Finset Nat
  communicationIsRun : Bool

namespace CommunicationService

def init : CommunicationService where
  communicationList := ∅
  serverConnectIdList := ∅
  serverIsConnectList := ∅
  communicationIsRun := false

variable (service : CommunicationService)

variable (serverId : Nat)

def getConnectId : Nat :=
  match service.communicationList.lookup serverId with
  | some info => info.connectId
  | none => 0

def getServerId (connectId : Nat) : Nat :=
  match service.serverConnectIdList.lookup connectId with
  | some serverId => serverId
  | none => 0

def isExist : Bool :=
  (service.communicationList.lookup serverId).isSome

def setConnectId (connectId : Nat) : CommunicationService :=
  let cleared := { service with
    serverIsConnectList := service.serverIsConnectList.erase serverId }
  match service.communicationList.lookup serverId with
  | none => cleared
  | some info =>
      if connectId = 0 then
        { cleared with
          communicationList := service.communicationList.insert serverId
            { info with connectId := connectId, session := none }
          serverConnectIdList := service.serverConnectIdList.erase connectId }
      else
        { cleared with
          communicationList := service.communicationList.insert serverId
            { info with connectId := connectId }
          serverConnectIdList := service.serverConnectIdList.insert connectId serverId }

variable (connectInfo : CommunicationIoInfo)

def ioConnect : CommunicationService × Bool :=
  let serverId := connectInfo.ioInfo.serverId
  let stored := { service with
    communicationList := service.communicationList.insert serverId connectInfo }
  if ¬service.communicationIsRun then (stored, false)
  else if serverId ∈ service.serverIsConnectList then (stored, false)
  else ({ stored with serverIsConnectList := insert serverId service.serverIsConnectList }, true)

def MayStart : Prop :=
  service.communicationIsRun = true ∧ connectInfo.ioInfo.serverId ∉ service.serverIsConnectList
  deriving Decidable

def setSession (session : Nat) : CommunicationService :=
  match service.communicationList.lookup serverId with
  | none => service
  | some info =>
      { service with
        communicationList := service.communicationList.insert serverId
          { info with session := some session } }

def newConnect (ioInfo : ConnectIoInfo) (ioType : ConnectIoType) : CommunicationIoInfo where
  session := none
  connectId := 0
  ioInfo := ioInfo
  ioType := ioType

def closeConnect : CommunicationService :=
  let erased := { service with
    communicationList := service.communicationList.erase serverId }
  let connectId := erased.getServerId serverId
  if 0 < connectId then
    { erased with serverConnectIdList := service.serverConnectIdList.erase connectId }
  else erased

def close : CommunicationService :=
  { service with serverConnectIdList := ∅, communicationList := ∅ }

theorem ioConnect_lists :
    (service.ioConnect connectInfo).1.communicationList =
        service.communicationList.insert connectInfo.ioInfo.serverId connectInfo ∧
      (service.ioConnect connectInfo).1.serverConnectIdList = service.serverConnectIdList := by
  simp only [ioConnect]
  split
  · exact ⟨rfl, rfl⟩
  · split <;> exact ⟨rfl, rfl⟩

theorem ioConnect_marker :
    (service.ioConnect connectInfo).1.serverIsConnectList =
        (if (service.ioConnect connectInfo).2 then
          insert connectInfo.ioInfo.serverId service.serverIsConnectList
        else service.serverIsConnectList) ∧
      (service.ioConnect connectInfo).1.communicationIsRun = service.communicationIsRun := by
  simp only [ioConnect]
  split
  · exact ⟨rfl, rfl⟩
  · split <;> exact ⟨rfl, rfl⟩

theorem ioConnect_started {service : CommunicationService} {connectInfo : CommunicationIoInfo} :
    (service.ioConnect connectInfo).2 = true ↔ service.MayStart connectInfo := by
  simp only [ioConnect, MayStart]
  split
  · rename_i asleep
    simp [asleep]
  · rename_i running
    split <;> simp_all

theorem setSession_marker (session : Nat) :
    (service.setSession serverId session).serverIsConnectList = service.serverIsConnectList ∧
      (service.setSession serverId session).communicationIsRun = service.communicationIsRun := by
  unfold setSession
  split <;> exact ⟨rfl, rfl⟩

theorem setConnectId_marker (connectId : Nat) :
    (service.setConnectId serverId connectId).serverIsConnectList =
        service.serverIsConnectList.erase serverId ∧
      (service.setConnectId serverId connectId).communicationIsRun =
        service.communicationIsRun := by
  unfold setConnectId
  split
  · exact ⟨rfl, rfl⟩
  · split <;> exact ⟨rfl, rfl⟩

theorem closeConnect_marker :
    (service.closeConnect serverId).serverIsConnectList = service.serverIsConnectList ∧
      (service.closeConnect serverId).communicationIsRun = service.communicationIsRun := by
  simp only [closeConnect]
  split <;> exact ⟨rfl, rfl⟩

end CommunicationService

end PssAsio
