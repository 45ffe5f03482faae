import PssAsio.KcpListenerCore
import PssAsio.TransitionRuns
import PssAsio.UdpServerCore

/-!
Whether the datagram servers keep listening.
-/

namespace PssAsio

open TransitionRuns

variable {Peer : Type}

namespace UdpServer

variable [DecidableEq Peer]

variable (server : UdpServer Peer)

def Listens : Prop := server.handling = none → server.receives = 1
  deriving Decidable

def ReceivesBytes (_ : UdpServer Peer) : UdpAction Peer → Prop
  | .receive _ data => 0 < data.length
  | _ => True

instance : ∀ action, Decidable (server.ReceivesBytes action)
  | .receive _ data => inferInstanceAs (Decidable (0 < data.length))
  | .findEndpoint | .dispose _ | .setIoBridgeConnectId _ _ | .createCounter | .closeLook _
  | .closeWithdraw _ | .closeErase _ => .isTrue trivial

def Single : Prop :=
  server.receives + (if server.handling.isSome then 1 else 0) ≤ 1

theorem doReceiveFrom_counts (recvEndpoint : Peer) (length : Nat) :
    (length = 0 ∧ (server.doReceiveFrom recvEndpoint length).handling = server.handling ∧
      (server.doReceiveFrom recvEndpoint length).receives = server.receives) ∨
    (0 < length ∧ (server.doReceiveFrom recvEndpoint length).handling = server.handling ∧
      (server.doReceiveFrom recvEndpoint length).receives = server.receives + 1) ∨
    (0 < length ∧ (server.doReceiveFrom recvEndpoint length).handling.isSome = true ∧
      (server.doReceiveFrom recvEndpoint length).receives = server.receives) := by
  obtain ⟨receives, handling, -⟩ := server.addUdpEndpoint_frame recvEndpoint
  simp only [doReceiveFrom]
  split
  · rename_i zero
    exact .inl ⟨zero, handling, receives⟩
  · rename_i nonzero
    split
    · refine .inr (.inl ⟨by omega, handling, ?_⟩)
      simp only [doReceive, call, receives]
    · exact .inr (.inr ⟨by omega, rfl, receives⟩)

theorem step_counts {server next : UdpServer Peer} {action : UdpAction Peer}
    (stepped : server.step action = some next) :
    (∃ recvEndpoint data, action = .receive recvEndpoint data ∧ server.handling = none ∧
      0 < server.receives ∧
      (data.length = 0 ∧ next.handling = none ∧ next.receives + 1 = server.receives ∨
        0 < data.length ∧ next.handling = none ∧ next.receives = server.receives ∨
        0 < data.length ∧ next.handling.isSome = true ∧ next.receives + 1 = server.receives)) ∨
    (server.ReceivesBytes action ∧ server.handling.isSome = true ∧ next.handling = none ∧
      next.receives = server.receives + 1) ∨
    (server.ReceivesBytes action ∧ next.handling.isSome = server.handling.isSome ∧
      next.receives = server.receives) := by
  cases stepped_of_step stepped with
  | receive recvEndpoint data filled idle pending =>
    refine .inl ⟨recvEndpoint, data, rfl, idle, pending, ?_⟩
    rcases doReceiveFrom_counts { server with
        receives := server.receives - 1
        sessionRecvBuffer := filled } recvEndpoint data.length with
      ⟨empty, handling, receives⟩ | ⟨filled, handling, receives⟩ | ⟨filled, handling, receives⟩
    · exact .inl ⟨empty, handling.trans idle, by rw [receives]; exact Nat.sub_add_cancel pending⟩
    · refine .inr (.inl ⟨filled, handling.trans idle, ?_⟩)
      rw [receives]
      exact Nat.sub_add_cancel pending
    · refine .inr (.inr ⟨filled, handling, ?_⟩)
      rw [receives]
      exact Nat.sub_add_cancel pending
  | findEndpoint connectId length handled =>
    exact .inr (.inr ⟨trivial, by simp [handled], rfl⟩)
  | dispose verdict connectId length sessionInfo disposed handled disposes =>
    refine .inr (.inl ⟨trivial, by simp [handled], rfl, ?_⟩)
    simp only [doReceive, (disposeData_disposed disposes).receives]
  | setIoBridgeConnectId | createCounter | closeLook | closeSkip | closeWithdraw =>
    exact .inr (.inr ⟨trivial, rfl, rfl⟩)
  | closeErase index connectId =>
    obtain ⟨receives, -, handling⟩ := server.eraseEndpoint_frame connectId
    exact .inr (.inr ⟨trivial, congrArg Option.isSome handling, receives⟩)

variable (action : UdpAction Peer)

theorem single_step (next : UdpServer Peer) (single : server.Single)
    (stepped : server.step action = some next) : next.Single := by
  unfold Single at *
  rcases step_counts stepped with ⟨_, _, -, idle, pending, received⟩ | ⟨-, busy, done, receives⟩ |
    ⟨-, handling, receives⟩
  · rw [idle] at single
    simp only [Option.isSome_none, Bool.false_eq_true, if_false] at single
    rcases received with ⟨-, handling, receives⟩ | ⟨-, handling, receives⟩ |
        ⟨-, handling, receives⟩ <;>
      simp only [handling, Option.isSome_none, Bool.false_eq_true, if_false, if_true] <;> omega
  · rw [busy, if_pos rfl] at single
    simp only [done, Option.isSome_none, Bool.false_eq_true, if_false]
    omega
  · rw [handling, receives]
    exact single

theorem listens_step (next : UdpServer Peer) (single : server.Single) (listens : server.Listens)
    (stepped : server.step action = some next) : next.Listens ↔ server.ReceivesBytes action := by
  unfold Single at single
  rcases step_counts stepped with ⟨recvEndpoint, data, rfl, idle, pending, received⟩ |
    ⟨bytes, busy, done, receives⟩ | ⟨bytes, handling, receives⟩
  · have one := listens idle
    rcases received with ⟨empty, handling, receives⟩ | ⟨filled, handling, receives⟩ |
      ⟨filled, handling, receives⟩
    · refine iff_of_false ?_ ?_
      · intro still
        have := still handling
        omega
      · intro (filled : 0 < data.length)
        omega
    · exact iff_of_true (fun _ => receives.trans one) filled
    · refine iff_of_true ?_ filled
      intro free
      simp [free] at handling
  · refine iff_of_true ?_ bytes
    intro _
    rw [busy, if_pos rfl] at single
    omega
  · refine iff_of_true ?_ bytes
    intro free
    have before : server.handling = none := by
      rw [free, Option.isSome_none] at handling
      exact Option.not_isSome_iff_eq_none.mp (by rw [← handling]; exact Bool.false_ne_true)
    rw [receives]
    exact listens before

end UdpServer

namespace KcpListener

variable [DecidableEq Peer]

variable (server : KcpListener Peer)

def Listens : Prop := server.receives = 1
  deriving Decidable

def SessionExists : KcpListenerAction Peer → Prop
  | .receive recvEndpoint _ initKcp _ =>
      match server.udpEndpoint2IdList recvEndpoint with
      | some connectId => connectId ≠ 0
      | none => initKcp = true ∧ server.countIndex + 1 ≠ 0
  | _ => True

instance (action : KcpListenerAction Peer) : Decidable (server.SessionExists action) := by
  unfold SessionExists
  (repeat' split) <;> infer_instance

theorem addUdpEndpoint_ne_zero_iff (recvEndpoint : Peer) (data : List UInt8) (initKcp : Bool)
    (completed : List (List UInt8)) :
    (server.addUdpEndpoint recvEndpoint initKcp).2 ≠ 0 ↔
      server.SessionExists (.receive recvEndpoint data initKcp completed) := by
  simp only [addUdpEndpoint, SessionExists]
  cases server.udpEndpoint2IdList recvEndpoint with
  | some connectId => exact Iff.rfl
  | none => cases initKcp <;> simp

theorem addUdpEndpoint_receives (recvEndpoint : Peer) (initKcp : Bool) :
    (server.addUdpEndpoint recvEndpoint initKcp).1.receives = server.receives := by
  unfold addUdpEndpoint
  cases server.udpEndpoint2IdList recvEndpoint with
  | some connectId => rfl
  | none => cases initKcp <;> rfl

omit [DecidableEq Peer] in
theorem Received.receives {server next : KcpListener Peer} {connectId : UInt32}
    {channel : KcpChannel Peer} {length : Nat} {completed : List (List UInt8)}
    (received : Received server connectId channel length completed next) :
    next.receives = server.receives + 1 := by
  cases received with
  | full buffer => rfl
  | created buffer => rfl
  | unparsed queue taken buffer block ran => rfl
  | parsed queue taken buffer next block ran bytes unbridged parses =>
    obtain ⟨_, _, -, rfl⟩ := parseData_eq_some parses
    rfl

theorem doReceiveFrom_receives {server next : KcpListener Peer} {recvEndpoint : Peer}
    {length : Nat} {initKcp : Bool} {completed : List (List UInt8)}
    (handled : server.doReceiveFrom recvEndpoint length initKcp completed = some next) :
    next.receives = server.receives +
      if (server.addUdpEndpoint recvEndpoint initKcp).2 = 0 then 0 else 1 := by
  have added := server.addUdpEndpoint_receives recvEndpoint initKcp
  obtain ⟨failed, rfl⟩ | ⟨created, rfl | ⟨channel, -, received⟩⟩ := doReceiveFrom_cases handled
  · rw [added, if_pos failed, Nat.add_zero]
  · rw [if_neg created, ← added]
    rfl
  · rw [if_neg created, ← added]
    exact received.receives

theorem step_receives {server next : KcpListener Peer} {action : KcpListenerAction Peer}
    (stepped : server.step action = some next) :
    server.SessionExists action ∧ next.receives = server.receives ∨
      ¬server.SessionExists action ∧ next.receives + 1 = server.receives := by
  cases action with
  | receive recvEndpoint data initKcp completed =>
    simp only [step, Option.ite_none_right_eq_some, Option.bind_eq_some_iff] at stepped
    obtain ⟨pending, filled, -, handled⟩ := stepped
    have receives := doReceiveFrom_receives handled
    have created : _ ↔ server.SessionExists (.receive recvEndpoint data initKcp completed) :=
      addUdpEndpoint_ne_zero_iff { server with
        receives := server.receives - 1
        sessionRecvBuffer := filled } recvEndpoint data initKcp completed
    rw [← created]
    split at receives
    · rename_i failed
      refine .inr ⟨not_not.mpr failed, ?_⟩
      rw [receives]
      exact Nat.sub_add_cancel pending
    · rename_i succeeded
      refine .inl ⟨succeeded, ?_⟩
      rw [receives]
      exact Nat.sub_add_cancel pending
  | close connectId =>
    obtain ⟨channel, -, rfl⟩ := Option.map_eq_some_iff.mp stepped
    exact .inl ⟨trivial, rfl⟩
  | setIoBridgeConnectId toConnectId =>
    cases stepped
    refine .inl ⟨trivial, ?_⟩
    unfold setIoBridgeConnectId
    split <;> rfl
  | createCounter => exact .inl ⟨trivial, Option.some.inj stepped ▸ rfl⟩

variable (action : KcpListenerAction Peer)

theorem single_step (next : KcpListener Peer) (single : server.receives ≤ 1)
    (stepped : server.step action = some next) : next.receives ≤ 1 := by
  rcases step_receives stepped with ⟨-, receives⟩ | ⟨-, receives⟩ <;> omega

theorem listens_step (next : KcpListener Peer) (_ : server.receives ≤ 1)
    (listens : server.Listens) (stepped : server.step action = some next) :
    next.Listens ↔ server.SessionExists action := by
  unfold Listens at *
  rcases step_receives stepped with ⟨created, receives⟩ | ⟨failed, receives⟩
  · exact iff_of_true (receives.trans listens) created
  · exact iff_of_false (by omega) failed

end KcpListener

/-- Both servers keep listening exactly if no UDP datagram is empty and no KCP session is missing.
-/
theorem listens_iff_bytes_and_sessions {Peer : Type} [DecidableEq Peer]
    (maxRecvSize : UInt32) (fresh : Nat → UInt8) (countIndex : UInt32)
    {udpActions : List (UdpAction Peer)} {udpFinish : UdpServer Peer}
    {kcpActions : List (KcpListenerAction Peer)} {kcpFinish : KcpListener Peer}
    (udpRan : run UdpServer.step (.started maxRecvSize fresh countIndex) udpActions =
      some udpFinish)
    (kcpRan : run KcpListener.step (.started maxRecvSize fresh countIndex) kcpActions =
      some kcpFinish) :
    (Always UdpServer.step UdpServer.Listens (.started maxRecvSize fresh countIndex) udpActions ↔
      Throughout UdpServer.step UdpServer.ReceivesBytes (.started maxRecvSize fresh countIndex)
        udpActions) ∧
    (Always KcpListener.step KcpListener.Listens (.started maxRecvSize fresh countIndex)
        kcpActions ↔
      Throughout KcpListener.step KcpListener.SessionExists
        (.started maxRecvSize fresh countIndex) kcpActions) :=
  ⟨always_iff_throughout UdpServer.single_step UdpServer.listens_step (Nat.le_refl 1)
      (fun _ => rfl) udpRan,
    always_iff_throughout KcpListener.single_step KcpListener.listens_step (Nat.le_refl 1) rfl
      kcpRan⟩

def udpExchange : List (UdpAction Nat) :=
  [.receive 7 [1, 2], .findEndpoint, .dispose ⟨none, 2, false⟩, .receive 7 [3], .closeLook 1,
    .findEndpoint, .closeWithdraw 0, .dispose ⟨some [], 1, false⟩, .closeErase 0]

def kcpExchange : List (KcpListenerAction Nat) :=
  [.receive 7 kcpKeyIdCreate true [], .receive 7 (List.replicate 24 0) true [[5]],
    .receive 8 [] true []]

theorem listens_exchange :
    Always UdpServer.step UdpServer.Listens (.started 64 (fun _ => 0) 0) udpExchange ∧
    Always KcpListener.step KcpListener.Listens (.started 64 (fun _ => 0) 0) kcpExchange := by
  have both := listens_iff_bytes_and_sessions 64 (fun _ => 0) 0
    (Option.some_get (by decide : (run UdpServer.step (.started 64 (fun _ => 0) 0)
      udpExchange).isSome = true)).symm
    (Option.some_get (by decide : (run KcpListener.step (.started 64 (fun _ => 0) 0)
      kcpExchange).isSome = true)).symm
  exact ⟨both.1.mpr (by decide), both.2.mpr (by decide)⟩

theorem empty_datagram_and_failed_session_stop :
    ¬Always UdpServer.step UdpServer.Listens (.started 64 (fun _ => 0) 0)
      [UdpAction.receive 7 []] ∧
    ¬Always KcpListener.step KcpListener.Listens (.started 64 (fun _ => 0) 0)
      [KcpListenerAction.receive 7 (List.replicate 24 0) false []] := by
  constructor
  · decide
  · decide

end PssAsio
