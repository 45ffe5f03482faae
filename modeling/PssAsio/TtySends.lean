import Mathlib.Data.List.InsertIdx
import Mathlib.Data.List.Perm.Basic
import PssAsio.SendReplies
import PssAsio.TransitionRuns

/-!
The bytes that a `CTTyServer` is given and those its port confirms.
-/

namespace PssAsio

open TransitionRuns

structure TtySends where
  session : SendSession
  accepted : List UInt8
  waiting : List UInt8
  confirmed : List UInt8

inductive TtySendAction where
  | setWriteBuffer (data : List UInt8)
  | doWrite
  | doWriteImmediately (data : List UInt8) (onIoThread : Bool)
  | runHandler (index : Nat)
  | writeFinished (length : Nat)
  deriving DecidableEq, Repr

namespace TtySends

def started (maxSendSize : UInt32) (fresh : Nat → UInt8) : TtySends :=
  ⟨SendSession.opened maxSendSize fresh, [], [], []⟩

variable (sends : TtySends)

def room : Nat := sends.session.sessionSendBuffer.getBufferSize

def content (sends : TtySends) : List UInt8 := sends.session.sessionSendBuffer.content

/-- `async_write_some` reports at least a byte unless there is none to write. -/
def step (sends : TtySends) : TtySendAction → Option TtySends
  | .setWriteBuffer data =>
      (sends.session.setWriteBuffer data).map fun session =>
        if data.length ≤ sends.room then
          ⟨session, sends.accepted ++ data, sends.waiting ++ data, sends.confirmed⟩
        else { sends with session := session }
  | .doWrite =>
      some { sends with session := sends.session.doWrite .ttyServer false, waiting := [] }
  | .doWriteImmediately data onIoThread =>
      some { sends with
        session := sends.session.doWriteImmediately .ttyServer data onIoThread
        accepted := sends.accepted ++ data }
  | .runHandler index =>
      (sends.session.step .ttyServer (.runHandler index)).map fun session =>
        { sends with session := session }
  | .writeFinished length =>
      match sends.session.inFlight with
      | [] => none
      | outgoing :: _ =>
          if length ≤ outgoing.data.length ∧ (length = 0 → outgoing.data = []) then
            (sends.session.step .ttyServer (.writeFinished 0 length)).map fun session =>
              { sends with
                session := session
                confirmed := sends.confirmed ++ outgoing.data.take length }
          else none

def Idle : Prop :=
  sends.session.inFlight = [] ∧ sends.session.ioQueue = [] ∧ sends.waiting = []
  deriving Decidable

def Complete : Prop := sends.Idle → sends.confirmed = sends.accepted
  deriving Decidable

def Accounted : Prop :=
  sends.session.sendDataSize ≤ sends.session.sendBufferSize ∧
    sends.session.sendBufferSize.toNat - sends.session.sendDataSize.toNat =
      sends.session.submitted.flatten.length - sends.confirmed.length

/-- The buffer is never full, no immediate byte is written, and writes are completed as a whole. -/
def Orderly : TtySendAction → Prop
  | .setWriteBuffer data => data ≠ [] → data.length ≠ sends.room
  | .doWrite => sends.session.sendBufferSize.toNat + sends.content.length < 2 ^ 64
  | .doWriteImmediately data onIoThread =>
      onIoThread = true → data = [] ∧ sends.content = []
  | .runHandler index =>
      ∀ handler ∈ sends.session.ioQueue[index]?, ∀ data ∈ handler.data,
        data = [] ∧ sends.content = []
  | .writeFinished length =>
      ∀ outgoing ∈ sends.session.inFlight.head?, length = outgoing.data.length

instance : Decidable sends.Accounted := inferInstanceAs (Decidable (_ ∧ _))

instance (action : TtySendAction) : Decidable (sends.Orderly action) := by
  unfold Orderly
  split <;> infer_instance

end TtySends

structure TtyLedger where
  accepted : List UInt8
  waiting : List UInt8
  confirmed : List UInt8
  content : List UInt8
  inFlight : List (List UInt8)
  queue : List (Option (List UInt8))
  submitted : List (List UInt8)
  sendBufferSize : UInt64
  sendDataSize : UInt64

namespace TtySends

def ledger (sends : TtySends) : TtyLedger where
  accepted := sends.accepted
  waiting := sends.waiting
  confirmed := sends.confirmed
  content := sends.content
  inFlight := sends.session.inFlight.map OutgoingWrite.data
  queue := sends.session.ioQueue.map SendHandler.data
  submitted := sends.session.submitted
  sendBufferSize := sends.session.sendBufferSize
  sendDataSize := sends.session.sendDataSize

end TtySends

namespace TtyLedger

inductive Booked (room : Nat) (books : TtyLedger) : TtySendAction → TtyLedger → Prop where
  | stored {data : List UInt8} : data.length < room →
      Booked room books (.setWriteBuffer data) { books with
        accepted := books.accepted ++ data
        waiting := books.waiting ++ data
        content := books.content ++ data }
  | refusedFit {data : List UInt8} : data.length = room →
      Booked room books (.setWriteBuffer data) { books with
        accepted := books.accepted ++ data
        waiting := books.waiting ++ data }
  | refused {data : List UInt8} : room < data.length →
      Booked room books (.setWriteBuffer data) books
  | written :
      Booked room books .doWrite { books with
        waiting := []
        content := []
        inFlight := books.inFlight ++ [books.content]
        submitted := books.submitted ++ [books.content]
        sendBufferSize := books.sendBufferSize + UInt64.ofNat books.content.length }
  | immediate {data : List UInt8} :
      Booked room books (.doWriteImmediately data true) { books with
        accepted := books.accepted ++ data
        content := []
        inFlight := books.inFlight ++ [data]
        submitted := books.submitted ++ [data] }
  | queued {data : List UInt8} :
      Booked room books (.doWriteImmediately data false) { books with
        accepted := books.accepted ++ data
        queue := books.queue ++ [some data] }
  | ran {index : Nat} {data : List UInt8} : books.queue[index]? = some (some data) →
      Booked room books (.runHandler index) { books with
        content := []
        queue := books.queue.eraseIdx index
        inFlight := books.inFlight ++ [data]
        submitted := books.submitted ++ [data] }
  | ranClose {index : Nat} : books.queue[index]? = some none →
      Booked room books (.runHandler index) { books with queue := books.queue.eraseIdx index }
  | finished {data : List UInt8} {rest : List (List UInt8)} {length : Nat} :
      books.inFlight = data :: rest → length ≤ data.length →
      Booked room books (.writeFinished length) { books with
        inFlight := rest
        confirmed := books.confirmed ++ data.take length
        sendDataSize := books.sendDataSize + UInt64.ofNat length }

end TtyLedger

namespace TtySends

variable {next sends : TtySends}

theorem booked_setWriteBuffer {data : List UInt8}
    (stepped : sends.step (.setWriteBuffer data) = some next) :
    TtyLedger.Booked sends.room sends.ledger (.setWriteBuffer data) next.ledger := by
  simp only [step, Option.map_eq_some_iff] at stepped
  obtain ⟨session, written, rfl⟩ := stepped
  by_cases fits : data.length < sends.room
  · obtain ⟨filled, stored, appended⟩ := SendSession.setWriteBuffer_of_room fits
    obtain rfl := Option.some.inj (written.symm.trans stored)
    rw [if_pos (Nat.le_of_lt fits)]
    simp only [ledger, content, appended]
    exact .stored fits
  · have same : session = sends.session := by
      have full : sends.session.sessionSendBuffer.getBufferSize ≤ data.length :=
        Nat.le_of_not_lt fits
      rw [SendSession.setWriteBuffer, if_pos full] at written
      exact (Option.some.inj written).symm
    subst same
    by_cases exactly : data.length = sends.room
    · rw [if_pos (Nat.le_of_eq exactly)]
      exact .refusedFit exactly
    · have longer : sends.room < data.length := by omega
      rw [if_neg (Nat.not_le.mpr longer)]
      exact .refused longer

variable (session : SendSession)

theorem doWrite_content : (session.doWrite .ttyServer false).sessionSendBuffer.content = [] := by
  rw [SendSession.doWrite, SendSession.clearWriteBuffer_content]

theorem booked_doWrite (sends : TtySends) :
    TtyLedger.Booked sends.room sends.ledger .doWrite
      { sends with
        session := sends.session.doWrite .ttyServer false, waiting := [] : TtySends }.ledger := by
  simp only [ledger, content, doWrite_content]
  simp only [SendSession.doWrite, SendSession.clearWriteBuffer, SendSession.handOver,
    SendSession.asyncWrite, List.map_append, List.map_cons, List.map_nil]
  exact .written

theorem runHandler_write_content (outgoing : OutgoingWrite) :
    (session.runHandler .ttyServer (.write outgoing)).sessionSendBuffer.content = [] := by
  rw [SendSession.runHandler, if_pos rfl, SendSession.clearWriteBuffer_content]

theorem booked_doWriteImmediately (sends : TtySends) (data : List UInt8) (onIoThread : Bool) :
    TtyLedger.Booked sends.room sends.ledger (.doWriteImmediately data onIoThread)
      { sends with
        session := sends.session.doWriteImmediately .ttyServer data onIoThread
        accepted := sends.accepted ++ data : TtySends }.ledger := by
  cases onIoThread with
  | true =>
    simp only [ledger, content, SendSession.doWriteImmediately, SendSession.dispatch, if_true,
      runHandler_write_content]
    simp only [SendSession.runHandler, SendSession.handOver, SendSession.asyncWrite,
      SendSession.clearWriteBuffer, if_true, List.map_append, List.map_cons, List.map_nil]
    exact .immediate
  | false =>
    simp only [ledger, content, SendSession.doWriteImmediately, SendSession.dispatch,
      SendSession.handOver, Bool.false_eq_true, if_false, List.map_append, List.map_cons,
      List.map_nil, SendHandler.data]
    exact .queued

theorem booked_runHandler {index : Nat} (stepped : sends.step (.runHandler index) = some next) :
    TtyLedger.Booked sends.room sends.ledger (.runHandler index) next.ledger := by
  simp only [step, SendSession.step, Option.map_eq_some_iff] at stepped
  obtain ⟨-, ⟨handler, waiting, rfl⟩, rfl⟩ := stepped
  have found : sends.ledger.queue[index]? = some handler.data := by
    simp [ledger, waiting]
  cases handler with
  | write outgoing =>
    simp only [ledger, content, runHandler_write_content]
    simp only [SendSession.runHandler, SendSession.asyncWrite, SendSession.clearWriteBuffer,
      if_true, List.map_append, List.map_cons, List.map_nil, ← List.eraseIdx_map]
    exact .ran found
  | close =>
    simp only [ledger, content, SendSession.runHandler, SendSession.closed, ← List.eraseIdx_map]
    exact .ranClose found

theorem writeFinished_cases (outgoing : OutgoingWrite) (length : Nat) :
    session.writeFinished .ttyServer outgoing length = session.addSendFinishSize length ∨
      session.writeFinished .ttyServer outgoing length =
        (session.addSendFinishSize length).closed := by
  simp only [SendSession.writeFinished]
  split
  · exact .inr rfl
  · exact .inl rfl

theorem booked_writeFinished {length : Nat}
    (stepped : sends.step (.writeFinished length) = some next) :
    TtyLedger.Booked sends.room sends.ledger (.writeFinished length) next.ledger := by
  simp only [step] at stepped
  split at stepped
  · contradiction
  · rename_i outgoing rest inFlight
    simp only [Option.ite_none_right_eq_some, SendSession.step, inFlight, List.getElem?_cons_zero,
      Option.map_some, List.eraseIdx_cons_zero, Option.some.injEq] at stepped
    obtain ⟨⟨within, -⟩, rfl⟩ := stepped
    have first : sends.ledger.inFlight = outgoing.data :: rest.map OutgoingWrite.data := by
      simp [ledger, inFlight]
    have books : TtyLedger.Booked sends.room sends.ledger (.writeFinished length) _ :=
      .finished first within
    rcases writeFinished_cases { sends.session with inFlight := rest } outgoing length with
      same | same
    · rw [same]
      exact books
    · rw [same]
      exact books

theorem booked_of_step {action : TtySendAction} (stepped : sends.step action = some next) :
    TtyLedger.Booked sends.room sends.ledger action next.ledger := by
  cases action with
  | setWriteBuffer data => exact booked_setWriteBuffer stepped
  | doWrite =>
    cases stepped
    exact sends.booked_doWrite
  | doWriteImmediately data onIoThread =>
    cases stepped
    exact sends.booked_doWriteImmediately data onIoThread
  | runHandler index => exact booked_runHandler stepped
  | writeFinished length => exact booked_writeFinished stepped

end TtySends

namespace TtyLedger

variable (books : TtyLedger)

def flying : List UInt8 := books.inFlight.flatten

def queued : List UInt8 := (books.queue.filterMap id).flatten

def sent : List UInt8 := books.submitted.flatten

theorem queued_length {queue : List (Option (List UInt8))} {index : Nat}
    {entry : Option (List UInt8)} (found : queue[index]? = some entry) :
    (queue.filterMap id).flatten.length =
      ((queue.eraseIdx index).filterMap id).flatten.length + (entry.getD []).length := by
  obtain ⟨bound, rfl⟩ := List.getElem?_eq_some_iff.mp found
  have moved := ((List.getElem_cons_eraseIdx_perm bound).filterMap id).flatten.length_eq
  rw [← moved]
  cases queue[index] with
  | none => simp
  | some data => simp [Nat.add_comm]

theorem queued_snoc (queue : List (Option (List UInt8))) (data : List UInt8) :
    ((queue ++ [some data]).filterMap id).flatten = (queue.filterMap id).flatten ++ data := by
  simp

def missing : Int :=
  books.accepted.length - books.confirmed.length - books.flying.length - books.queued.length -
    books.content.length

end TtyLedger

namespace TtySends

variable (sends : TtySends)

def Kept : TtySendAction → Prop
  | .setWriteBuffer data => data ≠ [] → data.length ≠ sends.room
  | .doWrite => True
  | .doWriteImmediately _ onIoThread => onIoThread = true → sends.content = []
  | .runHandler index =>
      ∀ handler ∈ sends.session.ioQueue[index]?, ∀ data ∈ handler.data, sends.content = []
  | .writeFinished length =>
      ∀ outgoing ∈ sends.session.inFlight.head?, length = outgoing.data.length

def Counted : TtySendAction → Prop
  | .doWrite => sends.session.sendBufferSize.toNat + sends.content.length < 2 ^ 64
  | .doWriteImmediately data onIoThread => onIoThread = true → data = []
  | .runHandler index =>
      ∀ handler ∈ sends.session.ioQueue[index]?, ∀ data ∈ handler.data, data = []
  | _ => True

theorem orderly_iff (action : TtySendAction) :
    sends.Orderly action ↔ sends.Counted action ∧ sends.Kept action := by
  cases action with
  | setWriteBuffer data | doWrite | writeFinished length => simp [Orderly, Counted, Kept]
  | doWriteImmediately data onIoThread => simp [Orderly, Counted, Kept, imp_and]
  | runHandler index => simp [Orderly, Counted, Kept, imp_and, forall_and]

variable {index : Nat} {sends : TtySends}

theorem handler_found {entry : Option (List UInt8)}
    (found : sends.ledger.queue[index]? = some entry) :
    ∃ handler, sends.session.ioQueue[index]? = some handler ∧ handler.data = entry := by
  simpa [ledger] using found

theorem handler_data {entry : Option (List UInt8)}
    (found : sends.ledger.queue[index]? = some entry) :
    ∀ handler ∈ sends.session.ioQueue[index]?, handler.data = entry := by
  obtain ⟨handler, waiting, same⟩ := handler_found found
  simp [waiting, same]

theorem outgoing_found {data : List UInt8} {rest : List (List UInt8)}
    (first : sends.ledger.inFlight = data :: rest) :
    ∃ outgoing, sends.session.inFlight.head? = some outgoing ∧ outgoing.data = data := by
  obtain ⟨outgoing, later, flight, same, -⟩ := List.map_eq_cons_iff.mp first
  exact ⟨outgoing, by rw [flight, List.head?_cons], same⟩

theorem missing_step {next : TtySends} {action : TtySendAction}
    (stepped : sends.step action = some next) :
    sends.ledger.missing ≤ next.ledger.missing ∧
      (next.ledger.missing ≤ sends.ledger.missing → sends.Kept action) := by
  have booked := booked_of_step stepped
  have inBuffer : sends.ledger.content = sends.content := rfl
  generalize next.ledger = after at booked
  cases booked with
  | stored fits =>
    refine ⟨?_, fun _ _ => Nat.ne_of_lt fits⟩
    simp only [TtyLedger.missing, TtyLedger.flying, TtyLedger.queued, List.length_append]
    omega
  | refusedFit fits =>
    simp only [TtyLedger.missing, TtyLedger.flying, TtyLedger.queued, List.length_append, Kept]
    refine ⟨by omega, fun unraised filled _ => filled ?_⟩
    exact List.eq_nil_of_length_eq_zero (by omega)
  | refused longer => exact ⟨Int.le_refl _, fun _ _ => Nat.ne_of_gt longer⟩
  | written =>
    refine ⟨?_, fun _ => trivial⟩
    simp only [TtyLedger.missing, TtyLedger.flying, TtyLedger.queued, List.flatten_append,
      List.length_append, List.flatten_singleton, List.length_nil]
    omega
  | immediate =>
    simp only [TtyLedger.missing, TtyLedger.flying, TtyLedger.queued, List.flatten_append,
      List.length_append, List.flatten_singleton, List.length_nil, inBuffer]
    refine ⟨by omega, fun unraised _ => ?_⟩
    exact List.eq_nil_of_length_eq_zero (by omega)
  | queued =>
    refine ⟨?_, fun _ onIoThread => Bool.noConfusion onIoThread⟩
    simp only [TtyLedger.missing, TtyLedger.flying, TtyLedger.queued, TtyLedger.queued_snoc,
      List.length_append]
    omega
  | ran found =>
    have moved := TtyLedger.queued_length found
    simp only [TtyLedger.missing, TtyLedger.flying, TtyLedger.queued, moved, Option.getD_some,
      List.flatten_append, List.length_append, List.flatten_singleton, List.length_nil, inBuffer]
    refine ⟨by omega, fun unraised handler _ data _ => ?_⟩
    exact List.eq_nil_of_length_eq_zero (by omega)
  | ranClose found =>
    have moved := TtyLedger.queued_length found
    simp only [TtyLedger.missing, TtyLedger.flying, TtyLedger.queued, moved, Option.getD_none,
      List.length_nil]
    refine ⟨by omega, fun _ handler waiting data written => ?_⟩
    rw [handler_data found handler waiting] at written
    exact absurd written (Option.not_mem_none data)
  | finished first within =>
    simp only [TtyLedger.missing, TtyLedger.flying, TtyLedger.queued, first, List.flatten_cons,
      List.length_append, List.length_take_of_le within]
    refine ⟨by omega, fun unraised outgoing ahead => ?_⟩
    obtain ⟨other, head, rfl⟩ := outgoing_found first
    rw [head, Option.mem_some] at ahead
    subst ahead
    omega

theorem counted_runHandler_iff {data : List UInt8}
    (found : sends.ledger.queue[index]? = some (some data)) :
    sends.Counted (.runHandler index) ↔ data = [] := by
  constructor
  · intro counted
    obtain ⟨handler, waiting, written⟩ := handler_found found
    exact counted handler waiting data written
  · rintro rfl handler waiting other written
    rw [handler_data found handler waiting] at written
    exact (Option.some.inj written).symm

theorem counted_runHandler_of_close (found : sends.ledger.queue[index]? = some none) :
    sends.Counted (.runHandler index) := by
  intro handler waiting data written
  rw [handler_data found handler waiting] at written
  exact absurd written (Option.not_mem_none data)

end TtySends

namespace TtyLedger

def Supported (books : TtyLedger) : Prop :=
  books.confirmed.length + books.flying.length ≤ books.sent.length

theorem Booked.supported {room : Nat} {books after : TtyLedger} {action : TtySendAction}
    (booked : Booked room books action after) (supported : books.Supported) : after.Supported := by
  unfold Supported at supported ⊢
  cases booked with
  | stored | refusedFit | refused | queued | ranClose => exact supported
  | written | immediate | ran =>
    simp only [flying, sent, List.flatten_append, List.length_append] at supported ⊢
    omega
  | finished first within =>
    simp only [flying, first, List.flatten_cons, List.length_append, sent,
      List.length_take_of_le within] at supported ⊢
    omega

def Agrees (books : TtyLedger) : Prop :=
  books.sendDataSize.toNat ≤ books.sendBufferSize.toNat ∧
    books.sendBufferSize.toNat - books.sendDataSize.toNat =
      books.sent.length - books.confirmed.length

theorem toNat_add_ofNat (size : UInt64) (length : Nat) :
    (size + UInt64.ofNat length).toNat = (size.toNat + length) % 2 ^ 64 := by
  simp

end TtyLedger

namespace TtySends

theorem agrees_step {sends next : TtySends} {action : TtySendAction}
    (supported : sends.ledger.Supported) (agrees : sends.ledger.Agrees)
    (stepped : sends.step action = some next) : next.ledger.Agrees ↔ sends.Counted action := by
  have booked := booked_of_step stepped
  have below := sends.ledger.sendBufferSize.toNat_lt
  unfold TtyLedger.Supported at supported
  generalize next.ledger = after at booked
  cases booked with
  | stored | refusedFit | refused => exact iff_of_true agrees trivial
  | queued => exact iff_of_true agrees (fun onIoThread => Bool.noConfusion onIoThread)
  | ranClose found => exact iff_of_true agrees (counted_runHandler_of_close found)
  | written =>
    have counted : sends.Counted .doWrite ↔
        sends.ledger.sendBufferSize.toNat + sends.ledger.content.length < 2 ^ 64 := Iff.rfl
    simp only [TtyLedger.Agrees, TtyLedger.sent, TtyLedger.toNat_add_ofNat,
      List.flatten_append, List.flatten_singleton, List.length_append, counted]
      at agrees supported ⊢
    omega
  | immediate =>
    simp only [TtyLedger.Agrees, TtyLedger.sent, List.flatten_append, List.flatten_singleton,
      List.length_append, Counted, true_imp_iff, ← List.length_eq_zero_iff]
      at agrees supported ⊢
    omega
  | ran found =>
    simp only [TtyLedger.Agrees, TtyLedger.sent, List.flatten_append, List.flatten_singleton,
      List.length_append, counted_runHandler_iff found, ← List.length_eq_zero_iff]
      at agrees supported ⊢
    omega
  | finished first within =>
    refine iff_of_true ?_ trivial
    simp only [TtyLedger.Agrees, TtyLedger.sent, TtyLedger.flying, first,
      TtyLedger.toNat_add_ofNat, List.flatten_cons, List.length_append,
      List.length_take_of_le within] at agrees supported ⊢
    omega

end TtySends

structure TtyLedger.InOrder (books : TtyLedger) : Prop where
  pending : books.content = books.waiting
  ordered : books.queued.length = 0 →
    books.accepted = books.confirmed ++ books.flying ++ books.content

namespace TtySends

variable {sends : TtySends}

theorem inOrder_step {next : TtySends} {action : TtySendAction} (inOrder : sends.ledger.InOrder)
    (orderly : sends.Orderly action) (stepped : sends.step action = some next) :
    next.ledger.InOrder := by
  have booked := booked_of_step stepped
  obtain ⟨counted, kept⟩ := (sends.orderly_iff action).mp orderly
  obtain ⟨pending, ordered⟩ := inOrder
  generalize next.ledger = after at booked
  cases booked with
  | stored fits =>
    refine ⟨congrArg (· ++ _) pending, fun noneQueued => ?_⟩
    simp [ordered noneQueued, TtyLedger.flying]
  | @refusedFit data fits =>
    have nothing : data = [] := by
      by_contra filled
      exact kept filled fits
    subst nothing
    refine ⟨by simpa using pending, fun noneQueued => ?_⟩
    simpa using ordered noneQueued
  | refused longer => exact ⟨pending, ordered⟩
  | written =>
    refine ⟨rfl, fun noneQueued => ?_⟩
    simp [ordered noneQueued, TtyLedger.flying]
  | immediate =>
    have nothing := counted rfl
    have empty : sends.ledger.content = [] := kept rfl
    subst nothing
    refine ⟨empty.symm.trans pending, fun noneQueued => ?_⟩
    simp [ordered noneQueued, TtyLedger.flying, empty]
  | @queued data =>
    refine ⟨pending, fun noneQueued => ?_⟩
    rw [TtyLedger.queued, TtyLedger.queued_snoc, List.length_append] at noneQueued
    have nothing : data = [] := List.eq_nil_of_length_eq_zero (by omega)
    subst nothing
    simpa [TtyLedger.flying] using ordered (by rw [TtyLedger.queued]; omega)
  | ran found =>
    have nothing := (counted_runHandler_iff found).mp counted
    obtain ⟨handler, waiting, written⟩ := handler_found found
    have empty : sends.ledger.content = [] := kept handler waiting _ written
    subst nothing
    refine ⟨empty.symm.trans pending, fun noneQueued => ?_⟩
    have before : sends.ledger.queued.length = 0 := by
      rw [TtyLedger.queued, TtyLedger.queued_length found]
      exact noneQueued
    simp [ordered before, TtyLedger.flying, empty]
  | ranClose found =>
    refine ⟨pending, fun noneQueued => ordered ?_⟩
    rw [TtyLedger.queued, TtyLedger.queued_length found]
    exact noneQueued
  | finished first within =>
    refine ⟨pending, fun noneQueued => ?_⟩
    obtain ⟨outgoing, head, rfl⟩ := outgoing_found first
    have whole := kept outgoing head
    subst whole
    simp [ordered noneQueued, TtyLedger.flying, first]

theorem complete_of_inOrder (inOrder : sends.ledger.InOrder) : sends.Complete := by
  rintro ⟨landed, handled, written⟩
  have noneQueued : sends.ledger.queued = [] := by
    simp [TtyLedger.queued, ledger, handled]
  have accepted := inOrder.ordered (by rw [noneQueued, List.length_nil])
  have empty : sends.ledger.content = [] := inOrder.pending.trans written
  have none : sends.ledger.flying = [] := by
    simp [TtyLedger.flying, ledger, landed]
  rw [empty, none, List.append_nil, List.append_nil] at accepted
  exact accepted.symm

theorem missing_le_of_complete (idle : sends.Idle) (complete : sends.Complete) :
    sends.ledger.missing ≤ 0 := by
  have same : sends.ledger.accepted = sends.ledger.confirmed := (complete idle).symm
  rw [TtyLedger.missing, same]
  omega

section Started

variable (maxSendSize : UInt32) (fresh : Nat → UInt8)

theorem started_content : (started maxSendSize fresh).content = [] :=
  SessionBuffer.init_content _ _

theorem started_inOrder : (started maxSendSize fresh).ledger.InOrder :=
  ⟨started_content maxSendSize fresh, fun _ => (started_content maxSendSize fresh).symm⟩

theorem started_missing : (started maxSendSize fresh).ledger.missing = 0 := by
  have empty : (started maxSendSize fresh).ledger.content = [] := started_content maxSendSize fresh
  rw [TtyLedger.missing, empty]
  rfl

end Started

theorem always_accounted_iff {maxSendSize : UInt32} {fresh : Nat → UInt8}
    {actions : List TtySendAction} {finish : TtySends}
    (ran : run step (started maxSendSize fresh) actions = some finish) :
    Always step Accounted (started maxSendSize fresh) actions ↔
      Throughout step Counted (started maxSendSize fresh) actions := by
  have kept : ∀ (sends : TtySends) action next, sends.ledger.Supported →
      sends.step action = some next → next.ledger.Supported :=
    fun _ _ _ supported stepped => (booked_of_step stepped).supported supported
  exact always_iff_throughout kept
    (fun _ _ _ supported agrees stepped => agrees_step supported agrees stepped)
    (Nat.le_refl _) ⟨Nat.le_refl _, rfl⟩ ran

/-- Orderly runs are complete and accounted for, and runs at rest show each step that was not. -/
theorem complete_and_accounted_iff_orderly {maxSendSize : UInt32} {fresh : Nat → UInt8}
    {actions : List TtySendAction} {finish : TtySends}
    (ran : run step (started maxSendSize fresh) actions = some finish) :
    (Throughout step Orderly (started maxSendSize fresh) actions →
      Always step Complete (started maxSendSize fresh) actions ∧
        Always step Accounted (started maxSendSize fresh) actions) ∧
    (finish.Idle →
      Always step Complete (started maxSendSize fresh) actions →
      Always step Accounted (started maxSendSize fresh) actions →
      Throughout step Orderly (started maxSendSize fresh) actions) := by
  constructor
  · intro orderly
    refine ⟨?_, ?_⟩
    · have preserved : ∀ (sends : TtySends) action next, sends.ledger.InOrder →
          sends.Orderly action → sends.step action = some next → next.ledger.InOrder :=
        fun _ _ _ inOrder allowed stepped => inOrder_step inOrder allowed stepped
      exact always_of_invariant preserved (fun _ inOrder => complete_of_inOrder inOrder)
        (started_inOrder maxSendSize fresh) orderly
    · refine (always_accounted_iff ran).mpr ?_
      exact throughout_of_invariant (fun _ _ _ _ _ _ => trivial)
        (fun sends action _ allowed => ((sends.orderly_iff action).mp allowed).1) trivial orderly
  · intro idle complete accounted
    have counted := (always_accounted_iff ran).mp accounted
    have ended : finish.ledger.missing ≤ (started maxSendSize fresh).ledger.missing := by
      rw [started_missing]
      exact missing_le_of_complete idle (always_finish complete ran)
    have kept : Throughout step Kept (started maxSendSize fresh) actions :=
      throughout_of_level (fun _ _ _ _ _ => trivial)
        (fun _ _ _ _ stepped => missing_step stepped) trivial ran ended
    exact throughout_of_invariant (fun _ _ _ _ _ _ => trivial)
      (fun sends action _ both => (sends.orderly_iff action).mpr both) trivial
      (throughout_and counted kept)

theorem whole_write_complete :
    Always step Complete (started 8 fun _ => 0)
        [.setWriteBuffer [1, 2], .doWrite, .doWriteImmediately [] true, .writeFinished 2,
          .writeFinished 0] ∧
      Always step Accounted (started 8 fun _ => 0)
        [.setWriteBuffer [1, 2], .doWrite, .doWriteImmediately [] true, .writeFinished 2,
          .writeFinished 0] :=
  (complete_and_accounted_iff_orderly (Option.some_get (by decide)).symm).1 (by decide)

theorem cut_write_incomplete :
    ¬ Always step Complete (started 8 fun _ => 0)
        [.setWriteBuffer [1, 2], .doWrite, .writeFinished 1] ∧
      ¬ Always step Accounted (started 8 fun _ => 0)
        [.doWriteImmediately [1] true, .writeFinished 1] := by
  decide

end TtySends

end PssAsio
