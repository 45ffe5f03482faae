import Mathlib.Data.List.TakeDrop
import PssAsio.SendSessionCore

/-!
What becomes of a reply in a send buffer of fixed size.
-/

namespace PssAsio

def ikcpLimit : Nat := (ikcpWndRcv - 1) * ikcpMss

theorem ikcpLimit_eq : ikcpLimit = 174752 := rfl

theorem ikcpCount_lt_iff (len : Nat) : ikcpCount len < ikcpWndRcv ↔ len ≤ ikcpLimit := by
  have mss : ikcpMss = 1376 := rfl
  rw [ikcpLimit_eq, ikcpCount, mss, ikcpWndRcv]
  split <;> omega

/-- Above the limit an error is returned or, for sizes beyond `int`, a shorter message is queued. -/
theorem ikcpSend_eq_some_iff (buffer : List UInt8) :
    ikcpSend buffer = some buffer ↔ buffer.length ≤ ikcpLimit := by
  simp only [ikcpSend, Option.ite_none_left_eq_some, Option.some.injEq, not_le,
    ikcpCount_lt_iff, List.take_eq_self_iff]
  constructor
  · rintro ⟨-, within, whole⟩
    exact Nat.le_trans whole within
  · intro short
    have small : buffer.length < 2 ^ 31 := by
      rw [ikcpLimit_eq] at short
      omega
    have kept : buffer.length % 2 ^ 32 = buffer.length := by omega
    rw [kept]
    exact ⟨small, short, Nat.le_refl _⟩

theorem ikcpSend_length_le {buffer message : List UInt8} (sent : ikcpSend buffer = some message) :
    message.length ≤ buffer.length := by
  simp only [ikcpSend, Option.ite_none_left_eq_some, Option.some.injEq] at sent
  rw [← sent.2.2]
  exact List.length_take_le' _ _

def SendBufferClass.messages (kind : SendBufferClass) (buffer : List UInt8) : List (List UInt8) :=
  if kind = .kcpServer then (ikcpSend buffer).toList else [buffer]

theorem SendBufferClass.messages_eq_iff (kind : SendBufferClass) (buffer data : List UInt8) :
    kind.messages buffer = [buffer ++ data] ↔
      data = [] ∧ (kind = .kcpServer → buffer.length ≤ ikcpLimit) := by
  unfold messages
  by_cases kcp : kind = .kcpServer
  · rw [if_pos kcp, Option.toList_eq_singleton_iff, ← ikcpSend_eq_some_iff]
    constructor
    · intro sent
      have longer := ikcpSend_length_le sent
      rw [List.length_append] at longer
      have nothing : data = [] := List.eq_nil_of_length_eq_zero (by omega)
      rw [nothing, List.append_nil] at sent
      exact ⟨nothing, fun _ => sent⟩
    · rintro ⟨rfl, sent⟩
      rw [List.append_nil]
      exact sent kcp
  · rw [if_neg kcp]
    simp [kcp]

namespace SendSession

def Delivered (session : SendSession) (data : List UInt8) : Option SendSession → Prop
  | some next =>
      next.handed = session.handed ++ [session.sessionSendBuffer.content ++ data] ∨
        session.sessionSendBuffer.getBufferSize < data.length ∧
          (next.events.drop session.events.length).filterMap SessionEvent.writeError ≠ []
  | none => False

variable (kind : SendBufferClass)

variable (session : SendSession)

def Accepts (data : List UInt8) : Prop :=
  (data = [] ∨ data.length < session.sessionSendBuffer.getBufferSize) ∧
    (kind = .kcpServer →
      session.sessionSendBuffer.content.length + data.length ≤ ikcpLimit)

instance (data : List UInt8) (result : Option SendSession) :
    Decidable (session.Delivered data result) := by
  unfold Delivered
  split <;> infer_instance

theorem doWrite_handed {session : SendSession} (connected : session.connected = true) :
    (session.doWrite kind false).handed =
      session.handed ++ kind.messages session.sessionSendBuffer.content := by
  cases kind with
  | kcpServer =>
    simp only [doWrite, connected, Bool.true_eq_false, if_false, SendBufferClass.messages,
      if_true, clearWriteBuffer, kcpSend]
    cases ikcpSend session.sessionSendBuffer.content <;> simp
  | _ => simp [doWrite, connected, SendBufferClass.messages, clearWriteBuffer, handOver, asyncWrite,
      dispatch]

theorem doWrite_events : (session.doWrite kind false).events = session.events := by
  cases kind with
  | tcpClientSession | udpServer => simp only [doWrite]; split <;> rfl
  | tcpSslClientSession => rfl
  | ttyServer => rfl
  | kcpServer =>
    simp only [doWrite, clearWriteBuffer, kcpSend]
    split
    · rfl
    · split <;> rfl

theorem delivered_doWrite_iff {session filled : SendSession} (data : List UInt8)
    (connected : filled.connected = true) (handed : filled.handed = session.handed)
    (events : filled.events = session.events) :
    session.Delivered data (some (filled.doWrite kind false)) ↔
      kind.messages filled.sessionSendBuffer.content =
        [session.sessionSendBuffer.content ++ data] := by
  have silent : ((filled.doWrite kind false).events.drop session.events.length).filterMap
      SessionEvent.writeError = [] := by
    rw [doWrite_events, events, List.drop_length, List.filterMap_nil]
  simp only [Delivered, silent, ne_eq, not_true_eq_false, and_false, or_false,
    doWrite_handed kind connected, handed, List.append_cancel_left_eq]

theorem setWriteBuffer_of_room {session : SendSession} {data : List UInt8}
    (room : data.length < session.sessionSendBuffer.getBufferSize) :
    ∃ filled, session.setWriteBuffer data = some { session with sessionSendBuffer := filled } ∧
      filled.content = session.sessionSendBuffer.content ++ data := by
  have bounded := session.sessionSendBuffer.bounded
  obtain ⟨filled, received, -, content⟩ := session.sessionSendBuffer.receive_eq_some data (by
    simp only [SessionBuffer.getBufferSize] at room
    omega)
  refine ⟨filled, ?_, content⟩
  rw [setWriteBuffer, if_neg (Nat.not_le.mpr room), received, Option.map_some]

theorem delivered_sendReply_iff {session : SendSession} (data : List UInt8)
    (connected : session.connected = true) :
    session.Delivered data (session.sendReply kind data) ↔ session.Accepts kind data := by
  unfold sendReply Accepts
  by_cases room : data.length < session.sessionSendBuffer.getBufferSize
  · obtain ⟨filled, written, content⟩ := setWriteBuffer_of_room room
    have whole := SendBufferClass.messages_eq_iff kind filled.content []
    rw [List.append_nil, content] at whole
    rw [written, Option.map_some]
    refine Iff.trans (delivered_doWrite_iff kind data ?_ rfl rfl) ?_
    · exact connected
    · simp only [content, whole, true_and, List.length_append, room, or_true]
  · have refused : session.setWriteBuffer data = some session := by
      rw [setWriteBuffer, if_pos (Nat.not_lt.mp room)]
    rw [refused, Option.map_some, delivered_doWrite_iff kind data connected rfl rfl,
      SendBufferClass.messages_eq_iff]
    simp only [room, or_false]
    refine and_congr_right fun nothing => ?_
    rw [nothing, List.length_nil, Nat.add_zero]

/-- A reply is sent whole or reported exactly when it is shorter than the room left (or empty) and,
for `CKcpServer`, within the limit of one `ikcp_send`. -/
theorem replies_delivered_iff (kind : SendBufferClass) (session : SendSession)
    (connected : session.connected = true) :
    (∀ data, session.Delivered data (session.sendReply kind data) ↔
      session.Accepts kind data) ∧
    ∀ answers, sendPacketBuffer answers ≠ [] →
      (session.Delivered (sendPacketBuffer answers)
          (session.doWorkThreadModuleLogic kind answers) ↔
        session.Accepts kind (sendPacketBuffer answers)) := by
  refine ⟨fun data => delivered_sendReply_iff kind data connected, fun answers some => ?_⟩
  rw [doWorkThreadModuleLogic, if_pos (List.length_pos_iff.mpr some)]
  exact delivered_sendReply_iff kind _ connected

def waiting (sendSize : UInt32) : Option SendSession :=
  (opened sendSize fun _ => 0).setWriteBuffer [1]

theorem replies_delivered_with_room :
    ((waiting 4).get (by decide)).Delivered [2, 3]
      (((waiting 4).get (by decide)).sendReply .tcpClientSession [2, 3]) ∧
    ((waiting 4).get (by decide)).Delivered [2, 3]
      (((waiting 4).get (by decide)).doWorkThreadModuleLogic .udpServer
        [⟨[2], true, false, none⟩, ⟨[], true, false, none⟩, ⟨[9], true, true, some [3]⟩]) :=
  ⟨((replies_delivered_iff .tcpClientSession ((waiting 4).get (by decide)) rfl).1 [2, 3]).mpr
      ⟨.inr (by decide), fun kcp => by cases kcp⟩,
    ((replies_delivered_iff .udpServer ((waiting 4).get (by decide)) rfl).2
      [⟨[2], true, false, none⟩, ⟨[], true, false, none⟩, ⟨[9], true, true, some [3]⟩]
      (by decide)).mpr ⟨.inr (by decide), fun kcp => by cases kcp⟩⟩

/-- Three bytes for a room of three: only the byte that waited goes out. -/
theorem exact_fit_lost :
    ((waiting 4).get (by decide)).sessionSendBuffer.getBufferSize = 3 ∧
    (((waiting 4).get (by decide)).sendReply .tcpClientSession [2, 3, 4]).map SendSession.handed =
      some [[1]] ∧
    (((waiting 4).get (by decide)).sendReply .tcpClientSession [2, 3, 4]).map SendSession.events =
      some [] ∧
    ¬((waiting 4).get (by decide)).Delivered [2, 3, 4]
      (((waiting 4).get (by decide)).sendReply .tcpClientSession [2, 3, 4]) ∧
    ¬((waiting 4).get (by decide)).Delivered [2, 3, 4]
      (((waiting 4).get (by decide)).doWorkThreadModuleLogic .kcpServer
        [⟨[2], true, false, none⟩, ⟨[3, 4], true, false, none⟩]) := by
  decide

end SendSession

end PssAsio
