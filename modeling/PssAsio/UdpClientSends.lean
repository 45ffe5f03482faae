import PssAsio.BridgeSessions

/-!
What `CUdpClientSession` sends. A copy that leaves the block is refused.
-/

namespace PssAsio

open TransitionRuns

structure UdpClientSends where
  session : BridgeSession
  socketOpen : Bool
  asked : List UInt8
  sent : List (List UInt8)

inductive UdpClientAction where
  | setWriteBuffer (data : List UInt8)
  | doWrite
  | doWriteImmediately (data : List UInt8)
  | doReceiveFrom (data : List UInt8) (verdict : ReceiveVerdict)
  | setIoBridgeConnectId (toConnectId : UInt32)
  deriving DecidableEq

namespace UdpClientSends

def started (connectId recvSize sendSize : UInt32) (fresh : Nat → UInt8) : UdpClientSends where
  session := BridgeSession.opened connectId recvSize sendSize fresh
  socketOpen := true
  asked := []
  sent := []

variable (sends : UdpClientSends)

def sendIoData (sendBuffer : List UInt8) : UdpClientSends :=
  if sends.socketOpen = false then sends
  else
    let cleared := { sends.session with
      sessionSendBuffer := sends.session.sessionSendBuffer.move sendBuffer.length }
    { sends with session := cleared, sent := sends.sent ++ [sendBuffer] }

def doWrite (sends : UdpClientSends) : UdpClientSends :=
  let sendBuffer := sends.session.sessionSendBuffer.content
  { sends with session := sends.session.doWrite, asked := [] }.sendIoData sendBuffer

def doWriteImmediately (data : List UInt8) : UdpClientSends :=
  { sends with session := sends.session.doWrite }.sendIoData data

def step : UdpClientAction → Option UdpClientSends
  | .setWriteBuffer data =>
      (sends.session.setWriteBuffer data).map fun session =>
        { sends with session := session, asked := sends.asked ++ data }
  | .doWrite => some sends.doWrite
  | .doWriteImmediately data => some (sends.doWriteImmediately data)
  | .doReceiveFrom data verdict =>
      if sends.socketOpen = false then some sends
      else
        (BridgeClass.udpClientSession.receive sends.session data verdict).map fun received =>
          { sends with session := received.1 }
  | .setIoBridgeConnectId toConnectId =>
      some { sends with
        session := BridgeClass.udpClientSession.setIoBridgeConnectId sends.session toConnectId }

/-- A `do_write` now would send exactly what was asked for since the last one. -/
def SendsAsked : Prop := sends.doWrite.sent = sends.sent ++ [sends.asked]
  deriving Decidable

def WithinCapacity : UdpClientAction → Prop
  | .setWriteBuffer data => data.length ≤ sends.session.sessionSendBuffer.getBufferSize
  | .doReceiveFrom data _ =>
      data.length ≤ sends.session.sessionRecvBuffer.getBufferSize →
        data.length ≤ sends.session.sessionSendBuffer.getBufferSize
  | _ => True

/-- The data fits, nothing waits for an immediate write, and only empty datagrams are received. -/
def Quiet : UdpClientAction → Prop
  | .setWriteBuffer data => data.length ≤ sends.session.sessionSendBuffer.getBufferSize
  | .doWriteImmediately _ => sends.asked = []
  | .doReceiveFrom data _ =>
      data.length ≤ sends.session.sessionRecvBuffer.getBufferSize → data = []
  | _ => True

instance (action : UdpClientAction) : Decidable (sends.WithinCapacity action) := by
  unfold WithinCapacity
  split <;> infer_instance

variable {sends}

section OpenSocket

variable (socket : sends.socketOpen = true)

include socket

theorem doWrite_open :
    sends.doWrite.sent = sends.sent ++ [sends.session.sessionSendBuffer.content] ∧
      sends.doWrite.session.sessionSendBuffer.content = [] ∧
      sends.doWrite.asked = [] ∧ sends.doWrite.socketOpen = true := by
  simp [doWrite, sendIoData, socket, BridgeSession.doWrite, SessionBuffer.move_content,
    SessionBuffer.getWriteSize]

theorem doWriteImmediately_open (data : List UInt8) :
    (sends.doWriteImmediately data).session.sessionSendBuffer.content = [] ∧
      (sends.doWriteImmediately data).asked = sends.asked ∧
      (sends.doWriteImmediately data).socketOpen = true := by
  simp [doWriteImmediately, sendIoData, socket, BridgeSession.doWrite,
    SessionBuffer.move_content, SessionBuffer.getWriteSize]

theorem sendsAsked_iff :
    sends.SendsAsked ↔ sends.session.sessionSendBuffer.content = sends.asked := by
  rw [SendsAsked, (doWrite_open socket).1]
  simp

theorem socketOpen_step {next : UdpClientSends} {action : UdpClientAction}
    (stepped : sends.step action = some next) : next.socketOpen = true := by
  cases action with
  | setWriteBuffer data =>
    obtain ⟨session, -, rfl⟩ := Option.map_eq_some_iff.mp stepped
    exact socket
  | doWrite =>
    cases stepped
    exact (doWrite_open socket).2.2.2
  | doWriteImmediately data =>
    cases stepped
    exact (doWriteImmediately_open socket data).2.2
  | doReceiveFrom data verdict =>
    rw [step, if_neg (by simp [socket])] at stepped
    obtain ⟨received, -, rfl⟩ := Option.map_eq_some_iff.mp stepped
    exact socket
  | setIoBridgeConnectId toConnectId =>
    cases stepped
    exact socket

theorem setWriteBuffer_decisive (asks : sends.SendsAsked)
    (data : List UInt8) {next : UdpClientSends}
    (stepped : sends.step (.setWriteBuffer data) = some next) : next.SendsAsked := by
  obtain ⟨session, written, rfl⟩ := Option.map_eq_some_iff.mp stepped
  obtain ⟨filled, received, rfl⟩ := Option.map_eq_some_iff.mp written
  rw [sendsAsked_iff socket] at asks
  refine (sendsAsked_iff (by exact socket)).mpr ?_
  simp only [SessionBuffer.receive_content received, asks]

theorem doReceiveFrom_open {data : List UInt8} (verdict : ReceiveVerdict)
    (arrives : data.length ≤ sends.session.sessionRecvBuffer.getBufferSize)
    (fits : data.length ≤ sends.session.sessionSendBuffer.getBufferSize) :
    ∃ session echoed, sends.step (.doReceiveFrom data verdict) =
        some { sends with session := session } ∧
      session.sessionSendBuffer.content = sends.session.sessionSendBuffer.content ++ echoed ∧
      echoed.length = data.length := by
  obtain ⟨written, received⟩ := SessionBuffer.receive_of_room arrives
  have reads := SessionBuffer.readBytes_front (SessionBuffer.receive_content received)
  have size : ((sends.session.sessionRecvBuffer.content ++ data).take data.length).length =
      data.length := by
    rw [List.length_take, List.length_append]
    omega
  obtain ⟨copied, copies⟩ := SessionBuffer.receive_of_room (Nat.le_trans (Nat.le_of_eq size) fits)
  obtain ⟨routed, delivery, handled, kept⟩ :=
    SessionBridge.udpClient_sendBuffer sends.session verdict received reads copies
  refine ⟨routed, _, ?_, ?_, size⟩
  · simp only [step, socket, Bool.true_eq_false, if_false, BridgeClass.receive, handled,
      Option.map_some]
  · rw [kept, SessionBuffer.receive_content copies]

theorem doReceiveFrom_decisive (asks : sends.SendsAsked) (data : List UInt8)
    (verdict : ReceiveVerdict) :
    sends.Quiet (.doReceiveFrom data verdict) ↔
      sends.WithinCapacity (.doReceiveFrom data verdict) ∧
        ∀ next, sends.step (.doReceiveFrom data verdict) = some next → next.SendsAsked := by
  simp only [Quiet, WithinCapacity]
  by_cases arrives : data.length ≤ sends.session.sessionRecvBuffer.getBufferSize
  · simp only [arrives, true_implies]
    by_cases fits : data.length ≤ sends.session.sessionSendBuffer.getBufferSize
    · obtain ⟨session, echoed, stepped, content, size⟩ :=
        doReceiveFrom_open socket verdict arrives fits
      have after : ({ sends with session := session } : UdpClientSends).SendsAsked ↔ data = [] := by
        rw [sendsAsked_iff socket] at asks
        refine (sendsAsked_iff (by exact socket)).trans ?_
        simp only [content, asks, List.append_right_eq_self]
        rw [← List.length_eq_zero_iff, size, List.length_eq_zero_iff]
      simp only [fits, true_and, stepped, Option.some.injEq, forall_eq', after]
    · refine ⟨fun empty => ?_, fun both => absurd both.1 fits⟩
      rw [empty] at fits
      exact absurd (Nat.zero_le _) fits
  · have refused : sends.step (.doReceiveFrom data verdict) = none := by
      simp [step, socket, BridgeClass.receive, BridgeSession.udpClientDoReceiveFrom,
        SessionBuffer.receive_no_room arrives]
    simp [arrives, refused]

theorem quiet_decisive (asks : sends.SendsAsked) (action : UdpClientAction) :
    sends.Quiet action ↔
      sends.WithinCapacity action ∧ ∀ next, sends.step action = some next → next.SendsAsked := by
  cases action with
  | setWriteBuffer data =>
    refine ⟨fun fits => ⟨fits, fun next stepped => ?_⟩, fun both => both.1⟩
    exact setWriteBuffer_decisive socket asks data stepped
  | doWrite =>
    refine ⟨fun _ => ⟨trivial, fun next stepped => ?_⟩, fun _ => trivial⟩
    obtain ⟨-, emptied, nothing, stays⟩ := doWrite_open socket
    rw [← Option.some.inj stepped, sendsAsked_iff stays, emptied, nothing]
  | doWriteImmediately data =>
    obtain ⟨emptied, same, stays⟩ := doWriteImmediately_open socket data
    have after : (sends.doWriteImmediately data).SendsAsked ↔ sends.asked = [] := by
      rw [sendsAsked_iff stays, emptied, same, eq_comm]
    simp only [Quiet, WithinCapacity, step, Option.some.injEq, forall_eq', after, true_and]
  | doReceiveFrom data verdict => exact doReceiveFrom_decisive socket asks data verdict
  | setIoBridgeConnectId toConnectId =>
    refine ⟨fun _ => ⟨trivial, fun next stepped => ?_⟩, fun _ => trivial⟩
    rw [sendsAsked_iff socket] at asks
    cases stepped
    refine (sendsAsked_iff (by exact socket)).mpr ?_
    simp only [BridgeClass.setIoBridgeConnectId, BridgeSession.setIoBridge]
    split <;> exact asks

end OpenSocket

/-- `do_write` sends exactly what was asked for if and only if the run is quiet. -/
theorem sends_asked_iff_quiet (connectId recvSize sendSize : UInt32) (fresh : Nat → UInt8)
    (actions : List UdpClientAction) :
    Always step SendsAsked (started connectId recvSize sendSize fresh) actions ∧
        Throughout step WithinCapacity (started connectId recvSize sendSize fresh) actions ↔
      Throughout step Quiet (started connectId recvSize sendSize fresh) actions := by
  have supported : ∀ (sends : UdpClientSends) (action : UdpClientAction) (next : UdpClientSends),
      sends.socketOpen = true → sends.SendsAsked → next.SendsAsked →
        sends.step action = some next → next.socketOpen = true :=
    fun _ _ _ socket _ _ stepped => socketOpen_step socket stepped
  have initial : (started connectId recvSize sendSize fresh).SendsAsked := by
    rw [sendsAsked_iff rfl]
    exact SessionBuffer.init_content _ _
  exact always_and_throughout_iff supported
    (fun _ action socket asks => quiet_decisive socket asks action) rfl initial

/-- A byte is asked for and a datagram of one byte comes in: `do_write` sends both. -/
theorem received_byte_sent_back :
    ((run step (started 1 8 8 fun _ => 0) [.setWriteBuffer [1],
        .doReceiveFrom [9] ⟨some [], 0, false⟩, .doWrite]).map UdpClientSends.sent =
      some [[1, 9]]) ∧
    ((run step (started 1 8 8 fun _ => 0) [.setWriteBuffer [1], .doWriteImmediately [2],
        .doWrite]).map UdpClientSends.sent =
      some [[2], []]) ∧
    ¬Always step SendsAsked (started 1 8 8 fun _ => 0)
      [.setWriteBuffer [1], .doReceiveFrom [9] ⟨some [], 0, false⟩, .doWrite] ∧
    ¬Throughout step WithinCapacity (started 1 8 2 fun _ => 0)
      [.doReceiveFrom [7, 8, 9] ⟨some [], 3, false⟩] := by
  decide

end UdpClientSends

end PssAsio
