import Mathlib.Data.List.AList
import PssAsio.CommunicationServiceCore

/-!
`CIotoIo`, `CSessionAddrList` and `CIoBridge` over both.
-/

namespace PssAsio

open Function

structure ClientIpInfo where
  clientIp : String := "unset ip"
  port : Nat := 0
  deriving DecidableEq, Repr

structure IoEndpoint where
  io : ClientIpInfo
  ioType : ConnectIoType
  deriving DecidableEq, Repr

inductive IoBridgeType where
  | ioBridgeBath
  | ioBridgeFrom
  | ioBridgeTo
  | ioBridgeNone
  deriving DecidableEq, Repr

structure LiveSession where
  session : Nat
  sessionId : Nat
  deriving DecidableEq, Repr

structure SessionAddrInfo where
  sessionId : Nat
  session : Option Nat
  bound : 0 < sessionId → session.isSome
  deriving DecidableEq

def SessionAddrInfo.unset : SessionAddrInfo := ⟨0, none, fun positive => absurd positive (by simp)⟩

def SessionAddrInfo.ofSession (live : LiveSession) : SessionAddrInfo :=
  ⟨live.sessionId, some live.session, fun _ => rfl⟩

structure IoConnectInfo where
  fromIo : IoEndpoint
  fromSession : SessionAddrInfo := .unset
  toIo : IoEndpoint
  toSession : SessionAddrInfo := .unset
  bridgeType : IoBridgeType := .ioBridgeBath
  deriving DecidableEq

def IoConnectInfo.endpoints (info : IoConnectInfo) : List IoEndpoint := [info.fromIo, info.toIo]

structure IotoIo where
  io2IoList : List IoConnectInfo
  targets : LiveSession → Nat

namespace IotoIo

def init : IotoIo := ⟨[], fun _ => 0⟩

def compareConnectIo (fromIo targetIo : IoEndpoint) : Bool :=
  fromIo.io.clientIp == targetIo.io.clientIp && fromIo.io.port == targetIo.io.port &&
    fromIo.ioType == targetIo.ioType

def checkIoMapping (connectInfo : IoConnectInfo) : List IoConnectInfo → Nat
  | [] => 0
  | stored :: rest =>
      if compareConnectIo connectInfo.fromIo stored.fromIo then 1
      else if (connectInfo.bridgeType = .ioBridgeBath ∨ stored.bridgeType = .ioBridgeBath) ∧
          compareConnectIo connectInfo.toIo stored.fromIo then 2
      else checkIoMapping connectInfo rest

variable (iotoio : IotoIo)

def addSessionIoMapping (fromIo toIo : IoEndpoint) (bridgeType : IoBridgeType) : Bool × IotoIo :=
  let connectInfo : IoConnectInfo := { fromIo, toIo, bridgeType }
  if checkIoMapping connectInfo iotoio.io2IoList ≠ 0 then (false, iotoio)
  else (true, { iotoio with io2IoList := iotoio.io2IoList ++ [connectInfo] })

variable (targets : LiveSession → Nat)

variable (ioConnectInfo : IoConnectInfo)

/-- The targets that the bridge type calls for, set on the two sessions if both are there. -/
def setBridgeTargets (fromTarget toTarget : Nat) : LiveSession → Nat :=
  let source := ioConnectInfo.fromSession
  let sink := ioConnectInfo.toSession
  if both : 0 < source.sessionId ∧ 0 < sink.sessionId then
    let first : LiveSession := ⟨source.session.get (source.bound both.1), source.sessionId⟩
    let second : LiveSession := ⟨sink.session.get (sink.bound both.2), sink.sessionId⟩
    match ioConnectInfo.bridgeType with
    | .ioBridgeBath => update (update targets first fromTarget) second toTarget
    | .ioBridgeFrom => update targets first fromTarget
    | .ioBridgeTo => update targets second toTarget
    | .ioBridgeNone => targets
  else targets

def linkIoBridge : LiveSession → Nat :=
  setBridgeTargets targets ioConnectInfo ioConnectInfo.toSession.sessionId
    ioConnectInfo.fromSession.sessionId

def unlinkIoBridge : LiveSession → Nat :=
  setBridgeTargets targets ioConnectInfo 0 0

variable (fromIo : IoEndpoint)

def deleteSessionIoMapping : Bool × IotoIo :=
  let isFrom := fun ioConnect : IoConnectInfo => compareConnectIo fromIo ioConnect.fromIo
  let isTo := fun ioConnect : IoConnectInfo => compareConnectIo fromIo ioConnect.toIo
  let remaining := iotoio.io2IoList.eraseP isFrom
  let ioConnectInfoList :=
    (iotoio.io2IoList.find? isFrom).toList ++ (remaining.find? isTo).toList
  (true, ⟨remaining.eraseP isTo, ioConnectInfoList.foldl unlinkIoBridge iotoio.targets⟩)

/-- The entry as the loop leaves it, and the copies of it that are to be linked. -/
def regeditEntry (info : SessionAddrInfo) (ioConnect : IoConnectInfo) :
    IoConnectInfo × List IoConnectInfo :=
  let placed :=
    if compareConnectIo ioConnect.fromIo fromIo then { ioConnect with fromSession := info }
    else ioConnect
  let linked := if compareConnectIo ioConnect.fromIo fromIo then [placed] else []
  if compareConnectIo placed.toIo fromIo then
    let both := { placed with toSession := info }
    (both, linked ++ [both])
  else (placed, linked)

def regeditBridgeSessionInfo (info : SessionAddrInfo) : IotoIo :=
  let visited := iotoio.io2IoList.map (regeditEntry fromIo info)
  ⟨visited.map Prod.fst, (visited.flatMap Prod.snd).foldl linkIoBridge iotoio.targets⟩

/-- The copies to be unlinked are taken before the entry is cleared. -/
def unregeditEntry (ioConnect : IoConnectInfo) : IoConnectInfo × List IoConnectInfo :=
  let cleared :=
    if compareConnectIo ioConnect.fromIo fromIo then { ioConnect with fromSession := .unset }
    else ioConnect
  let unlinked := if compareConnectIo ioConnect.fromIo fromIo then [ioConnect] else []
  if compareConnectIo cleared.toIo fromIo then
    ({ cleared with toSession := .unset }, unlinked ++ [cleared])
  else (cleared, unlinked)

def unregeditBridgeSessionInfo (_sessionId : Nat) : IotoIo :=
  let visited := iotoio.io2IoList.map (unregeditEntry fromIo)
  ⟨visited.map Prod.fst, (visited.flatMap Prod.snd).foldl unlinkIoBridge iotoio.targets⟩

@[simp] theorem compareConnectIo_iff (fromIo targetIo : IoEndpoint) :
    compareConnectIo fromIo targetIo = true ↔ fromIo = targetIo := by
  obtain ⟨⟨clientIp, port⟩, ioType⟩ := fromIo
  obtain ⟨⟨otherIp, otherPort⟩, otherType⟩ := targetIo
  simp [compareConnectIo, and_assoc]

end IotoIo

structure SessionAddrList where
  sessionAddrList : AList (fun _ : String => SessionAddrInfo)

namespace SessionAddrList

def setAddrKey (fromIo : IoEndpoint) : String :=
  let address := fromIo.io.clientIp ++ ":" ++ toString fromIo.io.port
  match fromIo.ioType with
  | .connectIoTcp => address ++ " TCP"
  | .connectIoUdp => address ++ " UDP"
  | _ => address ++ " TTY"

variable (list : SessionAddrList)

variable (fromIo : IoEndpoint)

def addSessionAddr (info : SessionAddrInfo) : SessionAddrList :=
  ⟨list.sessionAddrList.insert (setAddrKey fromIo) info⟩

def delSessionAddr : SessionAddrList :=
  ⟨list.sessionAddrList.erase (setAddrKey fromIo)⟩

def getSessionAddrInfo : SessionAddrInfo :=
  (list.sessionAddrList.lookup (setAddrKey fromIo)).getD .unset

end SessionAddrList

structure IoBridge where
  iotoio : IotoIo
  sessionAddrList : SessionAddrList

namespace IoBridge

def init : IoBridge := ⟨.init, ⟨∅⟩⟩

def regeditBridgeSessionInfo (bridge : IoBridge) (fromIo : IoEndpoint) (info : SessionAddrInfo) :
    IoBridge :=
  ⟨bridge.iotoio.regeditBridgeSessionInfo fromIo info,
    bridge.sessionAddrList.addSessionAddr fromIo info⟩

/-- The part of `add_session_io_mapping` that runs once for each end of a new mapping. -/
def regeditKnownSession (bridge : IoBridge) (io : IoEndpoint) : IoBridge :=
  let addrInfo := bridge.sessionAddrList.getSessionAddrInfo io
  if 0 < addrInfo.sessionId ∧ addrInfo.session ≠ none then
    bridge.regeditBridgeSessionInfo io addrInfo
  else bridge

def addSessionIoMapping (bridge : IoBridge) (fromIo toIo : IoEndpoint)
    (bridgeType : IoBridgeType) : Bool × IoBridge :=
  let added := bridge.iotoio.addSessionIoMapping fromIo toIo bridgeType
  let stored := { bridge with iotoio := added.2 }
  if added.1 then (true, (stored.regeditKnownSession fromIo).regeditKnownSession toIo)
  else (false, stored)

def deleteSessionIoMapping (bridge : IoBridge) (fromIo : IoEndpoint) : Bool × IoBridge :=
  (true, { bridge with iotoio := (bridge.iotoio.deleteSessionIoMapping fromIo).2 })

def unregeditBridgeSessionInfo (bridge : IoBridge) (fromIo : IoEndpoint) (sessionId : Nat) :
    IoBridge :=
  ⟨bridge.iotoio.unregeditBridgeSessionInfo fromIo sessionId,
    bridge.sessionAddrList.delSessionAddr fromIo⟩

end IoBridge

end PssAsio
