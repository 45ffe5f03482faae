import PssAsio.TcpSessionCore
import PssAsio.TransitionRuns

/-!
The order in which a `CTcpSession` puts bytes on the wire.
-/

namespace PssAsio

open TransitionRuns

def IoHandler.payload : IoHandler → List UInt8
  | .write data => data
  | .close => []

def TcpAction.sends : TcpAction → Bool
  | .setWriteBuffer _ | .doWrite _ | .runHandler 0 | .addSendFinishSize _ | .testSendFinish => true
  | _ => false

namespace TcpSession

variable (session : TcpSession)

def sendStep (action : TcpAction) : Option TcpSession :=
  if action.sends then session.step action else none

def queued : List UInt8 := session.ioQueue.flatMap IoHandler.payload

def InOrder : Prop :=
  session.written ++ session.queued ++ session.sessionSendBuffer = session.accepted
  deriving Decidable

def OvertakesNothing : TcpAction → Prop
  | .doWrite true => session.sessionSendBuffer ++ session.queued =
      session.queued ++ session.sessionSendBuffer
  | _ => True

instance (action : TcpAction) : Decidable (session.OvertakesNothing action) := by
  unfold OvertakesNothing
  split <;> infer_instance

variable {action : TcpAction} {next session : TcpSession}

theorem sendStep_eq_some :
    session.sendStep action = some next ↔ action.sends ∧ session.step action = some next := by
  simp [sendStep]

theorem doWrite_inline (passive : session.isActiveClose = false) :
    (session.doWrite true).written = session.written ++ session.sessionSendBuffer ∧
      (session.doWrite true).queued = session.queued ∧
      (session.doWrite true).sessionSendBuffer = [] := by
  simp only [doWrite, passive]
  split
  · rename_i empty
    simp [empty]
  · exact ⟨rfl, rfl, rfl⟩

theorem doWrite_queued (passive : session.isActiveClose = false) :
    (session.doWrite false).written = session.written ∧
      (session.doWrite false).queued = session.queued ++ session.sessionSendBuffer ∧
      (session.doWrite false).sessionSendBuffer = [] := by
  simp only [doWrite, passive]
  split
  · rename_i empty
    simp [empty]
  · refine ⟨rfl, ?_, rfl⟩
    simp [dispatch, queued, IoHandler.payload]

theorem queued_of_head {handler : IoHandler} (found : session.ioQueue[0]? = some handler) :
    session.queued =
      handler.payload ++ (session.ioQueue.eraseIdx 0).flatMap IoHandler.payload := by
  cases queue : session.ioQueue with
  | nil => simp [queue] at found
  | cons first rest =>
    simp only [queue, List.getElem?_cons_zero, Option.some.injEq] at found
    simp [queued, queue, found]

theorem runHandler_written (session : TcpSession) (handler : IoHandler) :
    (session.runHandler handler).written = session.written ++ handler.payload := by
  cases handler <;> simp [runHandler, deleteThreadSession, IoHandler.payload]

theorem testSendFinish_passive (passive : session.isActiveClose = false) :
    session.testSendFinish = { session with finishing := false } := by
  simp [testSendFinish, passive]

theorem passive_sendStep (passive : session.isActiveClose = false)
    (stepped : session.sendStep action = some next) : next.isActiveClose = false := by
  obtain ⟨sends, stepped⟩ := sendStep_eq_some.mp stepped
  cases stepped_of_step stepped with
  | setWriteBuffer data => exact passive
  | doWrite onIoThread | runHandler index handler => simpa using passive
  | addSendFinishSize index data => exact passive
  | testSendFinish =>
    rw [testSendFinish_passive passive]
    exact passive
  | writeFailed | closeSessionEvent | closeTest | closeDoWrite | closeFlag =>
    simp [TcpAction.sends] at sends

theorem inOrder_sendStep (passive : session.isActiveClose = false) (holds : session.InOrder)
    (stepped : session.sendStep action = some next) :
    next.InOrder ↔ session.OvertakesNothing action := by
  obtain ⟨sends, stepped⟩ := sendStep_eq_some.mp stepped
  unfold InOrder at holds
  cases stepped_of_step stepped with
  | setWriteBuffer data =>
    refine iff_of_true ?_ trivial
    simp only [InOrder, setWriteBuffer, ← holds, List.append_assoc]
    rfl
  | doWrite onIoThread =>
    cases onIoThread with
    | true =>
      obtain ⟨written, queued, taken⟩ := doWrite_inline passive
      simp only [InOrder, written, queued, taken, doWrite_frame, ← holds, List.append_nil,
        List.append_assoc, List.append_cancel_left_eq]
      rfl
    | false =>
      refine iff_of_true ?_ trivial
      obtain ⟨written, queued, taken⟩ := doWrite_queued passive
      simp only [InOrder, written, queued, taken, doWrite_frame, ← holds, List.append_nil,
        List.append_assoc]
  | runHandler index handler _ found =>
    cases index with
    | succ index => simp [TcpAction.sends] at sends
    | zero =>
      refine iff_of_true ?_ trivial
      rw [queued_of_head found] at holds
      simp only [InOrder, runHandler_written, runHandler_frame, ← holds, queued,
        List.append_assoc]
  | addSendFinishSize index data => exact iff_of_true holds trivial
  | testSendFinish =>
    rw [testSendFinish_passive passive]
    exact iff_of_true holds trivial
  | writeFailed | closeSessionEvent | closeTest | closeDoWrite | closeFlag =>
    simp [TcpAction.sends] at sends

/-- Bytes leave in order exactly when no `do_write` on the io thread overtakes a queued one. -/
theorem inOrder_iff_overtakes_nothing {sharesContext : Bool} {finish : TcpSession}
    {actions : List TcpAction} (ran : run sendStep (opened sharesContext) actions = some finish) :
    Always sendStep InOrder (opened sharesContext) actions ↔
      Throughout sendStep OvertakesNothing (opened sharesContext) actions := by
  have grounded : (opened sharesContext).isActiveClose = false := rfl
  have initial : (opened sharesContext).InOrder := rfl
  apply always_iff_throughout (fun _ _ _ => passive_sendStep) _ grounded initial ran
  intro session action next passive holds stepped
  exact inOrder_sendStep passive holds stepped

theorem inOrder_worker_then_bridge :
    Always sendStep InOrder (opened false)
      (doWriteImmediately [1] false ++ [.runHandler 0] ++ doWriteImmediately [2] true) :=
  (inOrder_iff_overtakes_nothing (Option.some_get (by decide)).symm).mpr (by decide)

theorem bridged_byte_overtakes :
    (run sendStep (opened false)
      (doWriteImmediately [1] false ++ doWriteImmediately [2] true ++ [.runHandler 0])).map
        (fun session => (session.accepted, session.written, session.queued,
          session.sessionSendBuffer)) = some ([1, 2], [2, 1], [], []) := by
  decide

end TcpSession

end PssAsio
