import Mathlib.Logic.Function.Basic

/-!
`CKcpServer` with its io thread and its writers, which share one `kcp_send_info_`.
-/

namespace PssAsio

open Function

inductive KcpValid where
  | kcpInvalud
  | kcpValud
  | kcpIdValid
  deriving DecidableEq, Repr

structure KcpSendInfo (Peer : Type) where
  connectId : Nat
  sendEndpoint : Peer

structure KcpSessionInfo (Peer : Type) where
  sendEndpoint : Peer
  udpState : KcpValid

inductive KcpReceivePhase where
  | idle
  | creating (connectId : Nat)
  | received (connectId : Nat)
  | replying (connectId : Nat)
  | updating (connectId : Nat)
  | handled (connectId : Nat)
  | confirming (connectId : Nat)
  | stopped
  deriving DecidableEq, Repr

inductive Datagram (Packet : Type) where
  | kcpId (connectId : Nat)
  | output (packet : Packet)
  deriving DecidableEq, Repr

structure KcpServer (Peer Packet : Type) where
  udpId2EndpointList : Nat → Option (KcpSessionInfo Peer)
  udpEndpoint2IdList : Peer → Option Nat
  kcpSendInfo : KcpSendInfo Peer
  recvEndpoint : Peer
  receivePhase : KcpReceivePhase
  writer : Option Nat
  sent : List (Peer × Datagram Packet)
  outputs : List (Nat × Packet)
  spent : Bool

inductive KcpAction (Peer Packet : Type) where
  | receiveFrom (endpoint : Peer) (counter : Nat) (initKcp : Bool)
  | updated
  | discarded
  | kcpIdCreate
  | replyKcpId
  | lockUpdate
  | unlockUpdate (hasData : Bool)
  | lockConfirm
  | unlockConfirm
  | doWrite (connectId : Nat)
  | unlockWrite
  | receiveOutput (packet : Packet)
  | writeOutput (packet : Packet)
  deriving DecidableEq, Repr

namespace KcpServer

variable {Peer Packet : Type}

def init [Inhabited Peer] : KcpServer Peer Packet where
  udpId2EndpointList := fun _ => none
  udpEndpoint2IdList := fun _ => none
  kcpSendInfo := ⟨0, default⟩
  recvEndpoint := default
  receivePhase := .idle
  writer := none
  sent := []
  outputs := []
  spent := false

variable (server : KcpServer Peer Packet)

def setKcpSendInfo (connectId : Nat) (kcpSendEndpoint : Peer) : KcpServer Peer Packet :=
  { server with kcpSendInfo := ⟨connectId, kcpSendEndpoint⟩, spent := false }

def sendIoDataToPoint (data : Datagram Packet) (sendEndpoint : Peer) : KcpServer Peer Packet :=
  if server.kcpSendInfo.connectId = 0 then server
  else { server with
    kcpSendInfo := { server.kcpSendInfo with connectId := 0 }
    sent := server.sent ++ [(sendEndpoint, data)] }

def kcpUdpOutPut (connectId : Nat) (packet : Packet) : KcpServer Peer Packet :=
  { server.sendIoDataToPoint (.output packet) server.kcpSendInfo.sendEndpoint with
    outputs := server.outputs ++ [(connectId, packet)]
    spent := true }

variable [DecidableEq Peer]

variable (server : KcpServer Peer Packet)

def createSession (recvEndpoint : Peer) (connectId : Nat) (initKcp : Bool) :
    KcpServer Peer Packet :=
  { server with
    udpEndpoint2IdList := update server.udpEndpoint2IdList recvEndpoint (some connectId)
    udpId2EndpointList := update server.udpId2EndpointList connectId
      (some ⟨recvEndpoint, .kcpValud⟩)
    receivePhase := if initKcp then .creating connectId else .stopped }

def addUdpEndpoint (recvEndpoint : Peer) (counter : Nat) (initKcp : Bool) :
    Option (KcpServer Peer Packet) :=
  match server.udpEndpoint2IdList recvEndpoint with
  | some connectId => some { server with receivePhase := .received connectId }
  | none =>
      if counter = 0 ∨ (server.udpId2EndpointList counter).isSome then none
      else some (server.createSession recvEndpoint counter initKcp)

def replyKcpId (connectId : Nat) : KcpServer Peer Packet :=
  let replied := server.sendIoDataToPoint (.kcpId connectId) server.recvEndpoint
  { replied with
    udpId2EndpointList := update server.udpId2EndpointList connectId
      ((server.udpId2EndpointList connectId).map fun info => { info with udpState := .kcpIdValid })
    receivePhase := .idle }

def mutexFree : Bool :=
  server.writer.isNone &&
    match server.receivePhase with
    | .updating _ | .confirming _ => false
    | _ => true

def doWrite (connectId : Nat) : Option (KcpServer Peer Packet) :=
  match server.udpId2EndpointList connectId with
  | none => some server
  | some info =>
      if info.udpState ≠ .kcpIdValid then some server
      else if server.mutexFree then
        some { server.setKcpSendInfo connectId info.sendEndpoint with writer := some connectId }
      else none

def step :
    KcpAction Peer Packet → Option (KcpServer Peer Packet)
  | .receiveFrom endpoint counter initKcp =>
      match server.receivePhase with
      | .idle => { server with recvEndpoint := endpoint }.addUdpEndpoint endpoint counter initKcp
      | _ => none
  | .updated =>
      match server.receivePhase with
      | .creating connectId => some { server with receivePhase := .received connectId }
      | _ => none
  | .discarded =>
      match server.receivePhase with
      | .received _ => some { server with receivePhase := .idle }
      | _ => none
  | .kcpIdCreate =>
      match server.receivePhase with
      | .received connectId => some { server with
          kcpSendInfo := { server.kcpSendInfo with connectId := connectId }
          receivePhase := .replying connectId }
      | _ => none
  | .replyKcpId =>
      match server.receivePhase with
      | .replying connectId => some (server.replyKcpId connectId)
      | _ => none
  | .lockUpdate =>
      match server.receivePhase with
      | .received connectId =>
          if server.mutexFree then some { server with receivePhase := .updating connectId }
          else none
      | _ => none
  | .unlockUpdate hasData =>
      match server.receivePhase with
      | .updating connectId =>
          some { server with receivePhase := if hasData then .handled connectId else .idle }
      | _ => none
  | .lockConfirm =>
      match server.receivePhase with
      | .handled connectId =>
          if server.mutexFree then
            some { server.setKcpSendInfo connectId server.recvEndpoint with
              receivePhase := .confirming connectId }
          else none
      | _ => none
  | .unlockConfirm =>
      match server.receivePhase with
      | .confirming _ => some { server with receivePhase := .idle }
      | _ => none
  | .doWrite connectId => server.doWrite connectId
  | .unlockWrite => if server.writer.isSome then some { server with writer := none } else none
  | .receiveOutput packet =>
      match server.receivePhase with
      | .creating connectId | .updating connectId | .confirming connectId =>
          some (server.kcpUdpOutPut connectId packet)
      | _ => none
  | .writeOutput packet => server.writer.map fun connectId => server.kcpUdpOutPut connectId packet

/-! What an accepted step did, with what had to hold for it. -/

inductive Stepped (server : KcpServer Peer Packet) :
    KcpAction Peer Packet → KcpServer Peer Packet → Prop where
  | receiveKnown (endpoint : Peer) (counter : Nat) (initKcp : Bool) (connectId : Nat)
      (phase : server.receivePhase = .idle)
      (found : server.udpEndpoint2IdList endpoint = some connectId) :
      Stepped server (.receiveFrom endpoint counter initKcp)
        { server with recvEndpoint := endpoint, receivePhase := .received connectId }
  | receiveNew (endpoint : Peer) (counter : Nat) (initKcp : Bool)
      (phase : server.receivePhase = .idle)
      (unknown : server.udpEndpoint2IdList endpoint = none) (positive : counter ≠ 0)
      (fresh : server.udpId2EndpointList counter = none) :
      Stepped server (.receiveFrom endpoint counter initKcp)
        ({ server with recvEndpoint := endpoint }.createSession endpoint counter initKcp)
  | updated (connectId : Nat) (phase : server.receivePhase = .creating connectId) :
      Stepped server .updated { server with receivePhase := .received connectId }
  | discarded (connectId : Nat) (phase : server.receivePhase = .received connectId) :
      Stepped server .discarded { server with receivePhase := .idle }
  | kcpIdCreate (connectId : Nat) (phase : server.receivePhase = .received connectId) :
      Stepped server .kcpIdCreate { server with
        kcpSendInfo := { server.kcpSendInfo with connectId := connectId }
        receivePhase := .replying connectId }
  | replyKcpId (connectId : Nat) (phase : server.receivePhase = .replying connectId) :
      Stepped server .replyKcpId (server.replyKcpId connectId)
  | lockUpdate (connectId : Nat) (phase : server.receivePhase = .received connectId)
      (free : server.mutexFree) :
      Stepped server .lockUpdate { server with receivePhase := .updating connectId }
  | unlockUpdate (hasData : Bool) (connectId : Nat)
      (phase : server.receivePhase = .updating connectId) :
      Stepped server (.unlockUpdate hasData)
        { server with receivePhase := if hasData then .handled connectId else .idle }
  | lockConfirm (connectId : Nat) (phase : server.receivePhase = .handled connectId)
      (free : server.mutexFree) :
      Stepped server .lockConfirm { server.setKcpSendInfo connectId server.recvEndpoint with
        receivePhase := .confirming connectId }
  | unlockConfirm (connectId : Nat) (phase : server.receivePhase = .confirming connectId) :
      Stepped server .unlockConfirm { server with receivePhase := .idle }
  | refuseWrite (connectId : Nat) : Stepped server (.doWrite connectId) server
  | doWrite (connectId : Nat) (info : KcpSessionInfo Peer)
      (found : server.udpId2EndpointList connectId = some info) (free : server.mutexFree) :
      Stepped server (.doWrite connectId)
        { server.setKcpSendInfo connectId info.sendEndpoint with writer := some connectId }
  | unlockWrite : Stepped server .unlockWrite { server with writer := none }
  | receiveOutput (packet : Packet) (connectId : Nat)
      (phase : server.receivePhase = .creating connectId ∨
        server.receivePhase = .updating connectId ∨ server.receivePhase = .confirming connectId) :
      Stepped server (.receiveOutput packet) (server.kcpUdpOutPut connectId packet)
  | writeOutput (packet : Packet) (connectId : Nat) (writes : server.writer = some connectId) :
      Stepped server (.writeOutput packet) (server.kcpUdpOutPut connectId packet)

theorem stepped_receiveFrom {server next : KcpServer Peer Packet} {endpoint : Peer}
    {counter : Nat} {initKcp : Bool} (phase : server.receivePhase = .idle)
    (added : { server with recvEndpoint := endpoint }.addUdpEndpoint endpoint counter initKcp =
      some next) : Stepped server (.receiveFrom endpoint counter initKcp) next := by
  simp only [addUdpEndpoint] at added
  split at added
  · rename_i connectId found
    cases added
    exact .receiveKnown endpoint counter initKcp connectId phase found
  · rename_i unknown
    simp only [Option.ite_none_left_eq_some, Option.some.injEq, not_or, Bool.not_eq_true,
      Option.isSome_eq_false_iff, Option.isNone_iff_eq_none] at added
    obtain ⟨⟨positive, fresh⟩, rfl⟩ := added
    exact .receiveNew endpoint counter initKcp phase unknown positive fresh

theorem stepped_doWrite {server next : KcpServer Peer Packet} {connectId : Nat}
    (written : server.doWrite connectId = some next) :
    Stepped server (.doWrite connectId) next := by
  simp only [doWrite] at written
  split at written
  · cases written
    exact .refuseWrite connectId
  · rename_i info found
    split at written
    · cases written
      exact .refuseWrite connectId
    · simp only [Option.ite_none_right_eq_some, Option.some.injEq] at written
      obtain ⟨free, rfl⟩ := written
      exact .doWrite connectId info found free

theorem stepped_of_step {server next : KcpServer Peer Packet}
    {action : KcpAction Peer Packet} (stepped : server.step action = some next) :
    Stepped server action next := by
  cases action with
  | doWrite connectId => exact stepped_doWrite stepped
  | unlockWrite =>
    simp only [step, Option.ite_none_right_eq_some, Option.some.injEq] at stepped
    exact stepped.2 ▸ .unlockWrite
  | writeOutput packet =>
    simp only [step, Option.map_eq_some_iff] at stepped
    obtain ⟨connectId, writes, rfl⟩ := stepped
    exact .writeOutput packet connectId writes
  | receiveOutput packet =>
    simp only [step] at stepped
    split at stepped <;> simp only [Option.some.injEq, reduceCtorEq] at stepped
    all_goals exact stepped ▸ .receiveOutput packet _ (by simp [*])
  | lockUpdate | lockConfirm =>
    simp only [step] at stepped
    split at stepped
    · rename_i connectId phase
      simp only [Option.ite_none_right_eq_some, Option.some.injEq] at stepped
      obtain ⟨free, rfl⟩ := stepped
      constructor <;> assumption
    · cases stepped
  | receiveFrom endpoint counter initKcp =>
    simp only [step] at stepped
    split at stepped
    · rename_i phase
      exact stepped_receiveFrom phase stepped
    · cases stepped
  | updated | discarded | kcpIdCreate | replyKcpId | unlockUpdate | unlockConfirm =>
    simp only [step] at stepped
    split at stepped
    · cases stepped
      constructor
      assumption
    · cases stepped

end KcpServer

end PssAsio
