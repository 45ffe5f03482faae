import Mathlib.Algebra.BigOperators.Group.List.Basic
import Mathlib.Algebra.GroupWithZero.Nat
import PssAsio.TcpSessionCore
import PssAsio.TransitionRuns

/-!
Whether a `CTcpSession` that was asked to close comes to `close_immediaterly`.
-/

namespace PssAsio

open TransitionRuns

theorem cons_eraseIdx_perm {α : Type} {items : List α} {index : Nat} {item : α}
    (found : items[index]? = some item) : (item :: items.eraseIdx index).Perm items := by
  obtain ⟨bound, rfl⟩ := List.getElem?_eq_some_iff.mp found
  exact List.getElem_cons_eraseIdx_perm bound

theorem sum_map_eraseIdx {α : Type} (measure : α → Nat) {items : List α} {index : Nat} {item : α}
    (found : items[index]? = some item) :
    (items.map measure).sum = measure item + ((items.eraseIdx index).map measure).sum := by
  rw [← ((cons_eraseIdx_perm found).map measure).sum_eq, List.map_cons, List.sum_cons]

namespace IoHandler

def isWrite : IoHandler → Bool
  | .write _ => true
  | .close => false

def size : IoHandler → Nat
  | .write data => data.length
  | .close => 0

end IoHandler

namespace TcpSession

variable (session : TcpSession)

def pendingBytes : Nat :=
  (session.ioQueue.map IoHandler.size).sum + (session.inFlight.map List.length).sum

def Pending : Prop :=
  session.inFlight ≠ [] ∨ ∃ handler ∈ session.ioQueue, handler.isWrite
  deriving Decidable

def Outstanding : Prop :=
  session.finishing ∨ session.Pending
  deriving Decidable

variable {session : TcpSession}

theorem pendingBytes_of_not_pending (quiet : ¬session.Pending) : session.pendingBytes = 0 := by
  simp only [Pending, not_or, not_exists, not_and, ne_eq, not_not] at quiet
  obtain ⟨landed, unqueued⟩ := quiet
  have closes : ∀ handler ∈ session.ioQueue, handler.size = 0 := by
    intro handler queued
    cases handler with
    | write data => exact absurd rfl (unqueued _ queued)
    | close => rfl
  simp only [pendingBytes, landed, List.map_nil, List.sum_nil, Nat.add_zero]
  exact List.sum_eq_zero (by simpa using closes)

@[simp] theorem runHandler_pendingBytes (session : TcpSession) (handler : IoHandler) :
    (session.runHandler handler).pendingBytes = session.pendingBytes + handler.size := by
  cases handler <;>
    simp [pendingBytes, runHandler, deleteThreadSession, IoHandler.size, Nat.add_assoc]

@[simp] theorem dispatch_pendingBytes (session : TcpSession) (onIoThread : Bool)
    (handler : IoHandler) :
    (session.dispatch onIoThread handler).pendingBytes = session.pendingBytes + handler.size := by
  cases onIoThread with
  | true => simp [dispatch]
  | false =>
    simp only [dispatch, pendingBytes, Bool.false_eq_true, if_false, List.map_append,
      List.sum_append, List.map_cons, List.map_nil, List.sum_singleton]
    omega

@[simp] theorem closeImmediaterly_pendingBytes (session : TcpSession) (onIoThread : Bool) :
    (session.closeImmediaterly onIoThread).pendingBytes = session.pendingBytes := by
  simp only [closeImmediaterly]
  split
  · rw [dispatch_pendingBytes]
    rfl
  · rfl

theorem outstanding_runHandler (session : TcpSession) (handler : IoHandler) :
    (session.runHandler handler).Outstanding ↔ session.Outstanding ∨ handler.isWrite := by
  cases handler <;> simp [Outstanding, Pending, runHandler, deleteThreadSession, IoHandler.isWrite]

theorem outstanding_dispatch (session : TcpSession) (onIoThread : Bool) (handler : IoHandler) :
    (session.dispatch onIoThread handler).Outstanding ↔
      session.Outstanding ∨ handler.isWrite := by
  cases onIoThread with
  | true => exact outstanding_runHandler session handler
  | false => simp [dispatch, Outstanding, Pending, or_and_right, exists_or, or_assoc]

theorem outstanding_doWrite (onIoThread : Bool) (busy : session.Outstanding) :
    (session.doWrite onIoThread).Outstanding := by
  simp only [doWrite]
  split
  · exact busy
  · split
    · exact busy
    · exact (outstanding_dispatch _ _ _).mpr (.inl busy)

theorem outstanding_ran {index : Nat} {handler : IoHandler}
    (found : session.ioQueue[index]? = some handler) (busy : session.Outstanding) :
    ({ session with
      ioQueue := session.ioQueue.eraseIdx index }.runHandler handler).Outstanding := by
  rw [outstanding_runHandler]
  rcases busy with finishing | flying | ⟨other, queued, writes⟩
  · exact .inl (.inl finishing)
  · exact .inl (.inr (.inl flying))
  · rcases List.mem_cons.mp ((cons_eraseIdx_perm found).mem_iff.mpr queued) with rfl | left
    · exact .inr writes
    · exact .inl (.inr (.inr ⟨other, left, writes⟩))

structure CloseAccounts (session : TcpSession) : Prop where
  counted : session.sendBufferSize =
    session.sendDataSize + UInt64.ofNat session.pendingBytes + session.lost
  flagged : session.closeReturned → session.isActiveClose ∨ session.closeInvoked

theorem doWrite_counted (holds : CloseAccounts session) (onIoThread : Bool) :
    CloseAccounts (session.doWrite onIoThread) := by
  refine ⟨?_, by simpa using holds.flagged⟩
  have counted := holds.counted
  simp only [doWrite]
  split
  · exact counted
  · split
    · simp only [sendWriteFailToLogic, counted]
      simp only [pendingBytes, UInt64.add_assoc]
    · simp only [dispatch_frame, dispatch_pendingBytes, counted, IoHandler.size, UInt64.ofNat_add]
      simp only [pendingBytes]
      grind

theorem closeImmediaterly_counted (holds : CloseAccounts session) (onIoThread : Bool) :
    CloseAccounts (session.closeImmediaterly onIoThread) := by
  refine ⟨?_, by simp⟩
  simpa using holds.counted

theorem closeAccounts_step {next : TcpSession} {action : TcpAction} (holds : CloseAccounts session)
    (stepped : session.step action = some next) : CloseAccounts next := by
  have counted := holds.counted
  have flagged := holds.flagged
  cases stepped_of_step stepped with
  | setWriteBuffer data | closeSessionEvent cause reading => exact ⟨counted, flagged⟩
  | doWrite onIoThread => exact doWrite_counted holds onIoThread
  | runHandler index handler _ found =>
    refine ⟨?_, by simpa using flagged⟩
    have moved := sum_map_eraseIdx IoHandler.size found
    simp only [runHandler_frame, runHandler_pendingBytes, counted]
    simp only [pendingBytes, moved]
    congr 3
    omega
  | addSendFinishSize index data _ found =>
    refine ⟨?_, flagged⟩
    have moved := sum_map_eraseIdx List.length found
    simp only [addSendFinishSize, counted, pendingBytes, moved, UInt64.ofNat_add]
    grind
  | testSendFinish =>
    have handled : CloseAccounts { session with finishing := false } := ⟨counted, flagged⟩
    simp only [testSendFinish]
    split
    · exact closeImmediaterly_counted handled _
    · exact handled
  | writeFailed index length data _ found =>
    have moved := sum_map_eraseIdx List.length found
    have reported : CloseAccounts { sendWriteFailToLogic
        { session with inFlight := session.inFlight.eraseIdx index } data length with
        lost := session.lost + UInt64.ofNat data.length } := by
      refine ⟨?_, flagged⟩
      simp only [sendWriteFailToLogic, counted, pendingBytes, moved, UInt64.ofNat_add]
      grind
    simp only [writeFailed]
    split
    · exact closeImmediaterly_counted reported _
    · exact reported
  | closeTest =>
    have taken : CloseAccounts { session with closeTasks := session.closeTasks - 1 } :=
      ⟨counted, flagged⟩
    simp only [closeTest]
    split
    · refine ⟨(closeImmediaterly_counted taken false).counted, ?_⟩
      simp
    · exact ⟨counted, flagged⟩
  | closeDoWrite =>
    have submitted := doWrite_counted holds false
    exact ⟨submitted.counted, submitted.flagged⟩
  | closeFlag => exact ⟨counted, fun _ => .inl rfl⟩

def ClosesWhenAsked (session : TcpSession) : Prop :=
  session.closeReturned → ¬session.Outstanding → session.closeInvoked
  deriving Decidable

/-- Until `close_immediaterly` is called, no write fails before the flag of `close` is set, no bytes
are refused after it, and the last completion does not fall between the test of `close` and its
flag. -/
def CloseUndisturbed (session : TcpSession) (action : TcpAction) : Prop :=
  session.closeInvoked ∨
    match action with
    | .writeFailed _ _ => session.isActiveClose
    | .doWrite _ | .closeDoWrite => session.isActiveClose → session.sessionSendBuffer = []
    | .testSendFinish => session.closePhase = .idle ∨ session.Pending
    | _ => True

instance (session : TcpSession) (action : TcpAction) :
    Decidable (session.CloseUndisturbed action) := by
  unfold CloseUndisturbed
  split <;> infer_instance

/-- Nothing was lost, and a close that was begun has a completion to wait for. -/
structure Waits (session : TcpSession) : Prop where
  kept : session.lost = 0
  awaited : session.closeReturned ∨ session.closePhase ≠ .idle → session.Outstanding

def CloseServed (session : TcpSession) : Prop :=
  session.CloseAccounts ∧ (session.closeInvoked ∨ session.Waits)

theorem pending_of_unequal (accounts : CloseAccounts session) (kept : session.lost = 0)
    (unequal : session.sendBufferSize ≠ session.sendDataSize) : session.Pending := by
  by_contra quiet
  apply unequal
  rw [accounts.counted, pendingBytes_of_not_pending quiet, kept]
  simp

theorem doWrite_waits (waits : session.Waits)
    (accepted : session.isActiveClose → session.sessionSendBuffer = []) (onIoThread : Bool) :
    (session.doWrite onIoThread).Waits := by
  have kept : (session.doWrite onIoThread).lost = 0 := by
    simp only [doWrite]
    split
    · exact waits.kept
    · rename_i filled
      rw [if_neg fun flagged => filled (accepted flagged)]
      simpa using waits.kept
  have phase : (session.doWrite onIoThread).closePhase = session.closePhase := by
    simp only [doWrite]
    split
    · rfl
    · split
      · rfl
      · cases onIoThread <;> rfl
  refine ⟨kept, fun begun => outstanding_doWrite onIoThread (waits.awaited ?_)⟩
  simpa only [doWrite_frame, phase] using begun

theorem testSendFinish_waits (accounts : CloseAccounts session) (waits : session.Waits)
    (between : session.closePhase = .idle ∨ session.Pending) :
    session.testSendFinish.closeInvoked ∨ session.testSendFinish.Waits := by
  have flagged := accounts.flagged
  have pending := pending_of_unequal accounts waits.kept
  simp only [testSendFinish]
  split
  · exact .inl (by simp)
  · rename_i waiting
    by_cases invoked : session.closeInvoked
    · exact .inl invoked
    · refine .inr ⟨waits.kept, ?_⟩
      rintro (returned | begun)
      · have active := (flagged returned).resolve_right invoked
        exact .inr (pending fun equal => waiting ⟨active, equal⟩)
      · exact .inr (between.resolve_left begun)

theorem waits_step {next : TcpSession} {action : TcpAction} (accounts : CloseAccounts session)
    (holds : session.closeInvoked ∨ session.Waits) (undisturbed : session.CloseUndisturbed action)
    (stepped : session.step action = some next) : next.closeInvoked ∨ next.Waits := by
  by_cases invoked : session.closeInvoked
  · left
    cases stepped_of_step stepped with
    | setWriteBuffer | closeSessionEvent | addSendFinishSize | closeFlag => exact invoked
    | doWrite | runHandler => simpa using invoked
    | testSendFinish =>
      simp only [testSendFinish]
      split <;> simp [invoked]
    | writeFailed =>
      simp only [writeFailed]
      split <;> simp [sendWriteFailToLogic, invoked]
    | closeTest =>
      simp only [closeTest]
      split <;> simp [invoked]
    | closeDoWrite => simpa [closeDoWrite] using invoked
  have waits := holds.resolve_left invoked
  have calm := undisturbed.resolve_left invoked
  cases stepped_of_step stepped with
  | setWriteBuffer | closeSessionEvent => exact .inr ⟨waits.kept, waits.awaited⟩
  | doWrite onIoThread => exact .inr (doWrite_waits waits calm onIoThread)
  | runHandler index handler _ found =>
    refine .inr ⟨by simpa using waits.kept, fun begun => outstanding_ran found (waits.awaited ?_)⟩
    cases handler <;> exact begun
  | addSendFinishSize => exact .inr ⟨waits.kept, fun _ => .inl rfl⟩
  | testSendFinish => exact testSendFinish_waits accounts waits calm
  | writeFailed =>
    left
    simp only at calm
    simp [writeFailed, calm]
  | closeTest =>
    simp only [closeTest]
    split
    · exact .inl (by simp)
    · rename_i unequal
      have pending := pending_of_unequal accounts waits.kept unequal
      exact .inr ⟨waits.kept, fun _ => .inr pending⟩
  | closeDoWrite unequal =>
    obtain ⟨kept, awaited⟩ := doWrite_waits waits calm false
    refine .inr ⟨kept, fun _ => outstanding_doWrite false (waits.awaited (.inr ?_))⟩
    simp [unequal]
  | closeFlag submitted =>
    refine .inr ⟨waits.kept, fun _ => waits.awaited (.inr ?_)⟩
    simp [submitted]

/-- `close_immediaterly` follows every close that writes leave undisturbed. -/
theorem closesWhenAsked_of_undisturbed (sharesContext : Bool) {actions : List TcpAction}
    (undisturbed : Throughout step CloseUndisturbed (opened sharesContext) actions) :
    Always step ClosesWhenAsked (opened sharesContext) actions := by
  have grounded : (opened sharesContext).CloseServed := by
    cases sharesContext <;> exact ⟨⟨rfl, by decide⟩, .inr ⟨rfl, by decide⟩⟩
  refine always_of_invariant ?_ ?_ grounded undisturbed
  · intro session action next served calm stepped
    exact ⟨closeAccounts_step served.1 stepped, waits_step served.1 served.2 calm stepped⟩
  · rintro session ⟨-, invoked | waits⟩ returned quiet
    · exact invoked
    · exact absurd (waits.awaited (.inl returned)) quiet

def echoThenClose : List TcpAction :=
  doWriteImmediately [7] false ++ [.closeSessionEvent .closeIoSession, .closeTest, .closeDoWrite,
    .closeFlag, .runHandler 0, .addSendFinishSize 0, .testSendFinish]

theorem closesWhenAsked_echoThenClose :
    Always step ClosesWhenAsked (opened false) echoThenClose ∧
      (run step (opened false) echoThenClose).map (fun session =>
        (session.isActiveClose, session.closeInvoked, session.ioQueue)) =
          some (true, true, [.close]) :=
  ⟨closesWhenAsked_of_undisturbed false (by decide), by decide⟩

def failedWriteThenClose : List TcpAction :=
  doWriteImmediately [7] false ++ [.runHandler 0, .writeFailed 0 0,
    .closeSessionEvent .readError, .closeTest, .closeDoWrite, .closeFlag]

theorem never_closes_failedWriteThenClose :
    ∃ stuck, run step (opened false) failedWriteThenClose = some stuck ∧ stuck.closeReturned ∧
      ¬stuck.Outstanding ∧ ¬stuck.closeInvoked :=
  ⟨_, rfl, by decide⟩

end TcpSession

end PssAsio
