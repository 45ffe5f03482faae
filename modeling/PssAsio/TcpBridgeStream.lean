import PssAsio.BridgeSessions
import PssAsio.TcpReceiverCore

/-!
The stream of a bridged `CTcpSession`.
-/

namespace PssAsio

open TransitionRuns

def BridgeRouting.bridged : BridgeRouting → List UInt8
  | .packetFromRecvBuffer _ => []
  | .sendIoBridgeMessage _ bytes | .dataError bytes => bytes

structure TcpBridgeRecord where
  held : List UInt8
  received : List UInt8
  forwarded : List UInt8
  reads : Nat
  deriving DecidableEq, Repr

structure TcpForwarder where
  receiver : TcpReceiver
  record : Option TcpBridgeRecord

namespace TcpReceiver

variable {next receiver : TcpReceiver}

theorem drive_frame {action : TcpAction} (driven : receiver.drive action = some next) :
    next.reader = receiver.reader ∧ next.read = receiver.read := by
  unfold drive at driven
  split at driven
  · simp only [Option.ite_none_left_eq_some, Option.map_eq_some_iff] at driven
    obtain ⟨-, session, -, rfl⟩ := driven
    exact ⟨rfl, rfl⟩
  · obtain ⟨session, -, rfl⟩ := Option.map_eq_some_iff.mp driven
    exact ⟨rfl, rfl⟩

theorem doRead_frame (receiver : TcpReceiver) :
    receiver.doRead.reader = receiver.reader ∧ receiver.doRead.read = .pending := by
  unfold doRead
  split <;> exact ⟨rfl, rfl⟩

theorem handOver_frame (handed : receiver.handOver = some next) :
    next.reader.sessionRecvBuffer = receiver.reader.sessionRecvBuffer ∧
      next.reader.ioState = receiver.reader.ioState ∧ next.read = .pending := by
  unfold handOver at handed
  split at handed
  · rw [← Option.some.inj handed, (doRead_frame _).1]
    exact ⟨rfl, rfl, (doRead_frame _).2⟩
  · cases handed

end TcpReceiver

namespace TcpForwarder

def content (forwarder : TcpForwarder) : List UInt8 :=
  forwarder.receiver.reader.sessionRecvBuffer.content

def opened (sharesContext : Bool) (connectId recvSize : UInt32) (fresh : Nat → UInt8) :
    TcpForwarder :=
  ⟨TcpReceiver.opened sharesContext connectId recvSize fresh, none⟩

variable (forwarder : TcpForwarder)

def recordRead (read : TcpRead) : Option TcpBridgeRecord :=
  match read with
  | .handling delivery _ => forwarder.record.map fun record =>
      { record with
        received := record.received ++ delivery.data
        forwarded := record.forwarded ++ delivery.routing.bridged
        reads := record.reads + 1 }
  | _ => forwarder.record

def recordSet (toConnectId : UInt32) : Option TcpBridgeRecord :=
  if toConnectId > 0 then some (forwarder.record.getD ⟨forwarder.content, [], [], 0⟩) else none

def step (forwarder : TcpForwarder) (action : TcpReceiverAction) : Option TcpForwarder :=
  (forwarder.receiver.step action).map fun receiver =>
    match action with
    | .doReadSome _ => ⟨receiver, forwarder.recordRead receiver.read⟩
    | .setIoBridgeConnectId toConnectId => ⟨receiver, forwarder.recordSet toConnectId⟩
    | _ => ⟨receiver, forwarder.record⟩

def Forwards : Prop :=
  match forwarder.record with
  | some record => 0 < record.reads → record.forwarded = record.held ++ record.received ∧
      forwarder.content = []
  | none => True

def EnteredEmpty : TcpReceiverAction → Prop
  | .doReadSome _ =>
      match forwarder.receiver.read, forwarder.record with
      | .completed _, some record => record.held = []
      | _, _ => True
  | _ => True

instance : Decidable forwarder.Forwards := by
  unfold Forwards
  split <;> infer_instance

instance (action : TcpReceiverAction) : Decidable (forwarder.EnteredEmpty action) := by
  unfold EnteredEmpty
  (repeat' split) <;> infer_instance

structure Tracked : Prop where
  arrived : ∀ data, forwarder.receiver.read = .completed data →
    (forwarder.receiver.reader.sessionRecvBuffer.setWriteData data.length).1.content =
      forwarder.content ++ data
  bridged : forwarder.receiver.reader.ioState = .sessionIoBridge ↔ forwarder.record ≠ none
  sized : ∀ record, forwarder.record = some record →
    forwarder.content.length = record.held.length
  unread : ∀ record, forwarder.record = some record → record.reads = 0 →
    record.received = [] ∧ record.forwarded = []

theorem opened_tracked (sharesContext : Bool) (connectId recvSize : UInt32)
    (fresh : Nat → UInt8) : (opened sharesContext connectId recvSize fresh).Tracked := by
  refine ⟨?_, ?_, ?_, ?_⟩ <;> simp [opened, TcpReceiver.opened, BridgeSession.opened]

variable {forwarder} {receiver : TcpReceiver}

section Tracked

variable (tracked : forwarder.Tracked)

include tracked

theorem Tracked.quiet (content : receiver.reader.sessionRecvBuffer.content = forwarder.content)
    (state : receiver.reader.ioState = forwarder.receiver.reader.ioState) (arrived : ∀ data,
      receiver.read = .completed data → (receiver.reader.sessionRecvBuffer.setWriteData
      data.length).1.content = receiver.reader.sessionRecvBuffer.content ++ data) :
    Tracked ⟨receiver, forwarder.record⟩ ∧
      (Forwards ⟨receiver, forwarder.record⟩ ↔ forwarder.Forwards) := by
  refine ⟨⟨arrived, ?_, ?_, tracked.unread⟩, ?_⟩
  · rw [state]
    exact tracked.bridged
  · rw [TcpForwarder.content, content]
    exact tracked.sized
  · simp only [Forwards, TcpForwarder.content] at content ⊢
    rw [content]

theorem Tracked.readCompleted {data : List UInt8} {filled : SessionBuffer}
    (stored : forwarder.receiver.reader.sessionRecvBuffer.store data = some filled) :
    let receiver : TcpReceiver := { forwarder.receiver with
      reader := { forwarder.receiver.reader with sessionRecvBuffer := filled }
      read := .completed data }
    Tracked ⟨receiver, forwarder.record⟩ ∧
      (Forwards ⟨receiver, forwarder.record⟩ ↔ forwarder.Forwards) := by
  have same := SessionBuffer.store_content stored
  refine tracked.quiet same rfl ?_
  intro other completed
  obtain rfl := TcpRead.completed.inj completed
  have received : forwarder.receiver.reader.sessionRecvBuffer.receive data =
      some (filled.setWriteData data.length).1 := by
    simp [SessionBuffer.receive, stored]
  exact same ▸ SessionBuffer.receive_content received

theorem Tracked.setIoBridgeConnectId {toConnectId : UInt32}
    (buffer : receiver.reader.sessionRecvBuffer = forwarder.receiver.reader.sessionRecvBuffer)
    (read : receiver.read = forwarder.receiver.read) (state : receiver.reader.ioState = if
      toConnectId > 0 then .sessionIoBridge else .sessionIoLogic) :
    Tracked ⟨receiver, forwarder.recordSet toConnectId⟩ ∧
      (forwarder.Forwards → Forwards ⟨receiver, forwarder.recordSet toConnectId⟩) := by
  have content : receiver.reader.sessionRecvBuffer.content = forwarder.content :=
    congrArg SessionBuffer.content buffer
  have arrived : ∀ data, receiver.read = .completed data →
      (receiver.reader.sessionRecvBuffer.setWriteData data.length).1.content =
        receiver.reader.sessionRecvBuffer.content ++ data := by
    rw [buffer, read]
    exact tracked.arrived
  unfold recordSet
  split
  · rename_i bridge
    rw [if_pos bridge] at state
    refine ⟨⟨arrived, by simp [state], ?_, ?_⟩, ?_⟩
    · intro record found
      rw [TcpForwarder.content, content]
      cases before : forwarder.record with
      | none => simp [before] at found; rw [← found]
      | some earlier =>
        rw [before, Option.getD_some, Option.some.injEq] at found
        exact found ▸ tracked.sized earlier before
    · intro record found
      cases before : forwarder.record with
      | none => simp [before] at found; simp [← found]
      | some earlier =>
        rw [before, Option.getD_some, Option.some.injEq] at found
        exact found ▸ tracked.unread earlier before
    · intro forwards
      cases before : forwarder.record with
      | none => simp [Forwards]
      | some earlier =>
        simpa [Forwards, before, TcpForwarder.content, buffer] using forwards
  · rename_i logic
    rw [if_neg logic] at state
    exact ⟨⟨arrived, by simp [state], by simp, by simp⟩, fun _ => trivial⟩

theorem Tracked.bridgedRead_forwards (forwards : forwarder.Forwards) {record : TcpBridgeRecord}
    (found : forwarder.record = some record) {data : List UInt8} (entered : record.held = []) :
    record.forwarded ++ (forwarder.content ++ data).take data.length =
      record.held ++ (record.received ++ data) := by
  have nothing : forwarder.content = [] := by
    have sized := tracked.sized record found
    rw [entered] at sized
    exact List.eq_nil_of_length_eq_zero sized
  have before : record.forwarded = record.held ++ record.received := by
    simp only [Forwards, found] at forwards
    cases reads : record.reads with
    | zero =>
      obtain ⟨received, forwarded⟩ := tracked.unread record found reads
      simp [received, forwarded, entered]
    | succ earlier => exact (forwards (by omega)).1
  rw [nothing, List.nil_append, List.take_length, before, List.append_assoc]

theorem Tracked.routed {data : List UInt8} {reader : BridgeSession} {delivery : BridgeDelivery}
    {verdict answer : ReceiveVerdict} {target : UInt32}
    (completed : forwarder.receiver.read = .completed data) (spec
      : forwarder.receiver.reader.Routed (forwarder.receiver.reader.sessionRecvBuffer.setWriteData
      data.length).1 data reader delivery) : let next : TcpForwarder := ⟨{ forwarder.receiver with
      reader := { reader with ioBridgeConnectId := target }, read := .handling delivery answer },
      forwarder.recordRead (.handling delivery answer)⟩
    next.Tracked ∧ (forwarder.Forwards →
      (next.Forwards ↔ forwarder.EnteredEmpty (.doReadSome verdict))) := by
  have content := tracked.arrived data completed
  by_cases bridge : forwarder.receiver.reader.ioState = .sessionIoBridge
  · obtain ⟨record, found⟩ := Option.ne_none_iff_exists'.mp (tracked.bridged.mp bridge)
    obtain ⟨routing, moved⟩ := spec.bridges bridge
    have passed : delivery.routing.bridged = (forwarder.content ++ data).take data.length := by
      rw [routing, ioBridgeRouting]
      split <;> rfl
    have kept : reader.sessionRecvBuffer.content.length = record.held.length := by
      have sized := tracked.sized record found
      rw [moved, SessionBuffer.move_content, content, List.length_drop, List.length_append]
      omega
    simp only [recordRead, found, Option.map_some, EnteredEmpty, completed, spec.received, passed]
    refine ⟨⟨by simp, by simp [spec.ioState, bridge], ?_, ?_⟩, ?_⟩
    · intro after same
      cases same
      exact kept
    · intro after same unread
      rw [← Option.some.inj same] at unread
      cases unread
    · intro forwards
      simp only [Forwards, TcpForwarder.content, Nat.zero_lt_succ, forall_const]
      constructor
      · rintro ⟨-, emptied⟩
        rw [emptied] at kept
        exact List.eq_nil_of_length_eq_zero kept.symm
      · intro entered
        refine ⟨tracked.bridgedRead_forwards forwards found entered, ?_⟩
        rw [entered] at kept
        exact List.eq_nil_of_length_eq_zero kept
  · have absent : forwarder.record = none := by
      by_contra present
      exact bridge (tracked.bridged.mpr present)
    simp only [recordRead, absent, Option.map_none]
    refine ⟨⟨by simp, by simp [spec.ioState, bridge], by simp, by simp⟩, ?_⟩
    intro _
    simp only [Forwards, EnteredEmpty, completed, absent]

theorem Tracked.doReadSome {next : TcpReceiver} {verdict : ReceiveVerdict}
    (read : forwarder.receiver.doReadSome verdict = some next) :
    Tracked ⟨next, forwarder.recordRead next.read⟩ ∧
      (forwarder.Forwards → (Forwards ⟨next, forwarder.recordRead next.read⟩ ↔
        forwarder.EnteredEmpty (.doReadSome verdict))) := by
  unfold TcpReceiver.doReadSome at read
  split at read
  · rename_i data completed
    obtain ⟨reader, delivery, routes, spec, -⟩ :=
      forwarder.receiver.reader.routeData_routed verdict id (tracked.arrived data completed)
    simp only [routes, Option.map_some, Option.some.injEq] at read
    subst read
    exact tracked.routed completed spec
  · rename_i failure
    obtain ⟨reader, stopped⟩ : next.reader = forwarder.receiver.reader ∧ next.read = .stopped :=
      Option.some.inj read ▸ ⟨rfl, rfl⟩
    have unread : ∀ data, next.read = .completed data →
        (next.reader.sessionRecvBuffer.setWriteData data.length).1.content =
          next.reader.sessionRecvBuffer.content ++ data := by simp [stopped]
    obtain ⟨still, same⟩ := tracked.quiet (by rw [reader]; rfl) (by rw [reader]) unread
    rw [stopped]
    refine ⟨still, fun forwards => ?_⟩
    simp only [EnteredEmpty, failure, iff_true]
    exact same.mpr forwards
  · cases read

end Tracked

theorem step_tracked {next : TcpForwarder} {action : TcpReceiverAction}
    (tracked : forwarder.Tracked) (stepped : forwarder.step action = some next) :
    next.Tracked ∧ (forwarder.Forwards → (next.Forwards ↔ forwarder.EnteredEmpty action)) := by
  obtain ⟨receiver, moved, rfl⟩ := Option.map_eq_some_iff.mp stepped
  have unread : ∀ {read : TcpRead}, (∀ data, read ≠ .completed data) → ∀ data,
      read = .completed data →
        (receiver.reader.sessionRecvBuffer.setWriteData data.length).1.content =
          receiver.reader.sessionRecvBuffer.content ++ data :=
    fun never data completed => absurd completed (never data)
  have quiet : Tracked ⟨receiver, forwarder.record⟩ ∧
      (Forwards ⟨receiver, forwarder.record⟩ ↔ forwarder.Forwards) →
      Tracked ⟨receiver, forwarder.record⟩ ∧ (forwarder.Forwards →
        (Forwards ⟨receiver, forwarder.record⟩ ↔ True)) :=
    fun ⟨still, same⟩ => ⟨still, fun forwards => iff_of_true (same.mpr forwards) trivial⟩
  cases action with
  | drive action =>
    simp only [TcpReceiver.step, Option.ite_none_left_eq_some] at moved
    obtain ⟨reader, read⟩ := TcpReceiver.drive_frame moved.2
    refine quiet (tracked.quiet (by rw [reader]; rfl) (by rw [reader]) ?_)
    rw [reader, read]
    exact tracked.arrived
  | readCompleted data =>
    simp only [TcpReceiver.step, Option.ite_none_right_eq_some,
      Option.map_eq_some_iff] at moved
    obtain ⟨-, filled, stored, rfl⟩ := moved
    exact quiet (tracked.readCompleted stored)
  | readFailed =>
    simp only [TcpReceiver.step, Option.ite_none_right_eq_some, Option.some.injEq] at moved
    obtain ⟨-, rfl⟩ := moved
    exact quiet (tracked.quiet rfl rfl (unread (by simp)))
  | doReadSome verdict =>
    simp only [TcpReceiver.step, Option.ite_none_left_eq_some] at moved
    exact tracked.doReadSome moved.2
  | handOver =>
    obtain ⟨buffer, state, pending⟩ := TcpReceiver.handOver_frame moved
    refine quiet (tracked.quiet (by rw [buffer]; rfl) state (unread ?_))
    simp [pending]
  | setIoBridgeConnectId toConnectId =>
    obtain ⟨buffer, read, state⟩ : receiver.reader.sessionRecvBuffer =
          forwarder.receiver.reader.sessionRecvBuffer ∧
        receiver.read = forwarder.receiver.read ∧ receiver.reader.ioState =
          if toConnectId > 0 then .sessionIoBridge else .sessionIoLogic := by
      rw [← Option.some.inj moved, BridgeSession.setIoBridge]
      split <;> exact ⟨rfl, rfl, rfl⟩
    obtain ⟨still, kept⟩ := tracked.setIoBridgeConnectId buffer read state
    exact ⟨still, fun forwards => iff_of_true (kept forwards) trivial⟩

/-- A bridged stream is forwarded completely exactly in the runs that enter the bridge state with an
empty receive buffer. -/
theorem forwards_iff_enteredEmpty {sharesContext : Bool} {connectId recvSize : UInt32}
    {fresh : Nat → UInt8} {actions : List TcpReceiverAction} {finish : TcpForwarder}
    (ran : run step (opened sharesContext connectId recvSize fresh) actions = some finish) :
    Always step Forwards (opened sharesContext connectId recvSize fresh) actions ↔
      Throughout step EnteredEmpty (opened sharesContext connectId recvSize fresh) actions :=
  always_iff_throughout
    (fun _ _ _ tracked stepped => (step_tracked tracked stepped).1)
    (fun _ _ _ tracked forwards stepped => (step_tracked tracked stepped).2 forwards)
    (opened_tracked sharesContext connectId recvSize fresh) trivial ran

def bridgedBetweenPackets : List TcpReceiverAction :=
  [.readCompleted [1, 2], .doReadSome ⟨some [], 2, true⟩, .handOver, .setIoBridgeConnectId 5,
    .readCompleted [3, 4, 5], .doReadSome ⟨none, 0, true⟩, .handOver,
    .readCompleted [6], .doReadSome ⟨none, 0, false⟩]

theorem forwards_bridgedBetweenPackets :
    Always step Forwards (opened false 1 8 fun _ => 0) bridgedBetweenPackets :=
  (forwards_iff_enteredEmpty (Option.some_get
    (show (run step (opened false 1 8 fun _ => 0) bridgedBetweenPackets).isSome = true by
      decide)).symm).mpr (by decide)

/-- The bridge sends a kept byte for the byte that is read. -/
theorem bridge_keeps_bytes_back :
    ∃ finish, run step (opened false 1 8 fun _ => 0)
        [.readCompleted [1, 2], .doReadSome ⟨some [], 0, true⟩, .handOver,
          .setIoBridgeConnectId 5, .readCompleted [3], .doReadSome ⟨none, 0, true⟩] = some finish ∧
      finish.record = some ⟨[1, 2], [3], [1], 1⟩ ∧
      finish.content = [2, 3] ∧ ¬finish.Forwards := by
  obtain ⟨finish, ran, holds⟩ := (Option.any_eq_true _ _).mp
    (show (run step (opened false 1 8 fun _ => 0)
        [.readCompleted [1, 2], .doReadSome ⟨some [], 0, true⟩, .handOver,
          .setIoBridgeConnectId 5, .readCompleted [3], .doReadSome ⟨none, 0, true⟩]).any (fun
      finish => decide (finish.record = some ⟨[1, 2], [3], [1], 1⟩ ∧
        finish.content = [2, 3] ∧ ¬finish.Forwards)) = true by decide)
  exact ⟨finish, ran, of_decide_eq_true holds⟩

end TcpForwarder

end PssAsio
