import Mathlib.Data.List.Perm.Basic
import PssAsio.TcpClientSessionCore
import PssAsio.TransitionRuns

/-!
How often a TCP connection is announced to the workers and withdrawn from them.
-/

namespace PssAsio

open TransitionRuns

def withdrawal : List SessionEvent :=
  [.packetDisconnect, .deleteThreadSession, .logicCommandDisconnect]

def WithdrawnOnce (announced : Nat) (events : List SessionEvent) : Prop :=
  events.count .addThreadSession = announced ∧ announced ≤ 1 ∧
    ∀ event ∈ withdrawal, events.count event ≤ announced
  deriving Decidable

def Unrelated (events : List SessionEvent) : Prop :=
  ∀ event ∈ .addThreadSession :: withdrawal, events.count event = 0
  deriving Decidable

structure Recorded (announced : Nat) (events : List SessionEvent) : Prop where
  added : events.count .addThreadSession = announced
  single : announced ≤ 1
  together : ∀ event ∈ withdrawal, events.count event = events.count .deleteThreadSession

namespace Recorded

variable {announced : Nat} {events : List SessionEvent}

theorem append_unrelated {others : List SessionEvent} (holds : Recorded announced events)
    (unrelated : Unrelated others) : Recorded announced (events ++ others) := by
  have unchanged : ∀ event ∈ .addThreadSession :: withdrawal,
      (events ++ others).count event = events.count event := by
    intro event relevant
    rw [List.count_append, unrelated event relevant, Nat.add_zero]
  refine ⟨?_, holds.single, ?_⟩
  · rw [unchanged _ (List.mem_cons_self ..)]
    exact holds.added
  · intro event relevant
    rw [unchanged event (List.mem_cons_of_mem _ relevant), unchanged _ (by decide)]
    exact holds.together event relevant

theorem append_withdrawal (holds : Recorded announced events) :
    Recorded announced (events ++ withdrawal) := by
  refine ⟨?_, holds.single, ?_⟩
  · rw [List.count_append, holds.added]
    rfl
  · intro event relevant
    have once : withdrawal.count event = withdrawal.count .deleteThreadSession := by
      revert event
      decide
    rw [List.count_append, List.count_append, holds.together event relevant, once]

theorem withdrawnOnce_iff (holds : Recorded announced events) :
    WithdrawnOnce announced events ↔ events.count .deleteThreadSession ≤ announced := by
  constructor
  · rintro ⟨_, _, bounded⟩
    exact bounded _ (by decide)
  · intro bounded
    refine ⟨holds.added, holds.single, ?_⟩
    intro event relevant
    rw [holds.together event relevant]
    exact bounded

end Recorded

namespace TcpSession

variable (session : TcpSession)

def closesImmediaterly : TcpAction → Bool
  | .closeTest => session.sendBufferSize = session.sendDataSize
  | .testSendFinish =>
      session.isActiveClose && decide (session.sendBufferSize = session.sendDataSize)
  | .writeFailed _ _ => session.isActiveClose
  | _ => false

/-- `dispatch` runs the closure at once on the thread of `io_context_` only. -/
def runsClosure : TcpAction → Bool
  | .runHandler index => session.ioQueue[index]? = some .close
  | .closeTest => false
  | action => session.sharesContext && session.closesImmediaterly action && session.socketOpen

def withdrawals : Nat := session.events.count .deleteThreadSession

def dispatched : Nat := session.withdrawals + session.ioQueue.count .close

/-- `close_immediaterly` is not called again before its closure has run. -/
def CloseUnrepeated (action : TcpAction) : Prop :=
  session.closesImmediaterly action → .close ∉ session.ioQueue
  deriving Decidable

/-! What a step adds to the events, and to the closures that ran or are to run. -/

structure Adds (next : TcpSession) (ran asked : Bool) : Prop where
  events : ∃ others, Unrelated others ∧
    next.events = session.events ++ others ++ if ran then withdrawal else []
  socketOpen : next.socketOpen = (session.socketOpen && !ran)
  dispatched : next.dispatched = session.dispatched + if asked then 1 else 0

variable {next session : TcpSession} {action : TcpAction}

theorem adds_of_same (events : next.events = session.events)
    (socketOpen : next.socketOpen = session.socketOpen)
    (closures : next.ioQueue.count .close = session.ioQueue.count .close) :
    session.Adds next false false :=
  ⟨⟨[], by decide, by simp [events]⟩, by simp [socketOpen],
    by simp [dispatched, withdrawals, events, closures]⟩

theorem Adds.after_report {buffer : List UInt8} {length : Nat} {ran asked : Bool}
    (adds : (session.sendWriteFailToLogic buffer length).Adds next ran asked) :
    session.Adds next ran asked := by
  obtain ⟨⟨others, unrelated, events⟩, socketOpen, counted⟩ := adds
  have apart : Unrelated [.logicThreadWriteIoError (buffer.take length)] := by
    intro event relevant
    apply List.count_eq_zero.mpr
    intro member
    cases List.mem_singleton.mp member
    simp [withdrawal] at relevant
  refine ⟨⟨[.logicThreadWriteIoError (buffer.take length)] ++ others, ?_, ?_⟩, socketOpen, ?_⟩
  · intro event relevant
    rw [List.count_append, apart event relevant, unrelated event relevant]
  · simp [events, sendWriteFailToLogic]
  · rw [counted]
    simp [TcpSession.dispatched, withdrawals, sendWriteFailToLogic]

theorem doWrite_adds (session : TcpSession) (onIoThread : Bool) :
    session.Adds (session.doWrite onIoThread) false false := by
  simp only [doWrite]
  split
  · exact adds_of_same rfl rfl rfl
  · split
    · exact Adds.after_report (adds_of_same rfl rfl rfl)
    · cases onIoThread with
      | true => exact adds_of_same rfl rfl rfl
      | false => exact adds_of_same rfl rfl (by simp [dispatch])

theorem closeImmediaterly_adds (session : TcpSession) (onIoThread : Bool) :
    session.Adds (session.closeImmediaterly onIoThread) (onIoThread && session.socketOpen)
      session.socketOpen := by
  unfold closeImmediaterly
  cases stillOpen : session.socketOpen with
  | false =>
    rw [Bool.and_false]
    exact adds_of_same rfl stillOpen.symm rfl
  | true =>
    cases onIoThread with
    | true =>
      refine ⟨⟨[], by decide, by simp [dispatch, runHandler, deleteThreadSession, withdrawal]⟩,
        by simp [dispatch, runHandler], ?_⟩
      simp [dispatch, runHandler, deleteThreadSession, dispatched, withdrawals]
      omega
    | false =>
      refine ⟨⟨[], by decide, by simp [dispatch]⟩, by simp [dispatch, stillOpen], ?_⟩
      simp [dispatch, dispatched, withdrawals]
      omega

theorem runHandler_adds {index : Nat} {handler : IoHandler}
    (found : session.ioQueue[index]? = some handler) :
    session.Adds ({ session with ioQueue := session.ioQueue.eraseIdx index }.runHandler handler)
      (handler = .close) false := by
  obtain ⟨bound, rfl⟩ := List.getElem?_eq_some_iff.mp found
  have counted := (List.getElem_cons_eraseIdx_perm bound).count_eq IoHandler.close
  cases taken : session.ioQueue[index] with
  | write data =>
    rw [taken, List.count_cons_of_ne (by simp)] at counted
    exact adds_of_same rfl rfl counted
  | close =>
    rw [taken, List.count_cons_self] at counted
    refine ⟨⟨[], by decide, by simp [runHandler, deleteThreadSession, withdrawal]⟩,
      by simp [runHandler], ?_⟩
    simp [runHandler, deleteThreadSession, dispatched, withdrawals, ← counted]
    omega

theorem step_adds (stepped : session.step action = some next) :
    session.Adds next (session.runsClosure action)
      (session.closesImmediaterly action && session.socketOpen) := by
  cases stepped_of_step stepped with
  | setWriteBuffer | addSendFinishSize | closeSessionEvent | closeFlag =>
    simp only [runsClosure, closesImmediaterly, Bool.and_false, Bool.false_and]
    exact adds_of_same rfl rfl rfl
  | doWrite onIoThread =>
    simp only [runsClosure, closesImmediaterly, Bool.and_false, Bool.false_and]
    exact doWrite_adds session onIoThread
  | runHandler index handler _ found =>
    simp only [runsClosure, closesImmediaterly, Bool.false_and, found, Option.some.injEq]
    exact runHandler_adds found
  | testSendFinish =>
    change session.Adds session.testSendFinish (session.sharesContext &&
      session.closesImmediaterly .testSendFinish && session.socketOpen) _
    by_cases closing : session.isActiveClose ∧ session.sendBufferSize = session.sendDataSize
    · have closes : session.closesImmediaterly .testSendFinish = true := by
        simp [closesImmediaterly, closing]
      have closed :=
        closeImmediaterly_adds { session with finishing := false } session.sharesContext
      simp only [closes, Bool.and_true, Bool.true_and, testSendFinish, if_pos closing]
      exact ⟨closed.events, closed.socketOpen, closed.dispatched⟩
    · have waits : session.closesImmediaterly .testSendFinish = false := by
        simpa [closesImmediaterly] using closing
      simp only [waits, Bool.and_false, Bool.false_and, testSendFinish, if_neg closing]
      exact adds_of_same rfl rfl rfl
  | writeFailed index length data =>
    change session.Adds _ (session.sharesContext && session.isActiveClose && session.socketOpen)
      (session.isActiveClose && session.socketOpen)
    by_cases active : session.isActiveClose
    · have closed := closeImmediaterly_adds { sendWriteFailToLogic
        { session with inFlight := session.inFlight.eraseIdx index } data length with
        lost := session.lost + UInt64.ofNat data.length } session.sharesContext
      have asked : (session.isActiveClose && session.socketOpen) = session.socketOpen := by
        rw [active, Bool.true_and]
      rw [Bool.and_assoc, asked]
      simp only [writeFailed, if_pos active]
      exact Adds.after_report ⟨closed.events, closed.socketOpen, closed.dispatched⟩
    · have unasked : (session.isActiveClose && session.socketOpen) = false := by simp [active]
      rw [Bool.and_assoc, unasked, Bool.and_false]
      simp only [writeFailed, if_neg active]
      exact Adds.after_report (adds_of_same rfl rfl rfl)
  | closeTest =>
    change session.Adds session.closeTest false
      (decide (session.sendBufferSize = session.sendDataSize) && session.socketOpen)
    by_cases equal : session.sendBufferSize = session.sendDataSize
    · have closed := closeImmediaterly_adds
        { session with closeTasks := session.closeTasks - 1 } false
      simp only [closeTest, if_pos equal, decide_eq_true equal, Bool.true_and]
      exact ⟨closed.events, closed.socketOpen, closed.dispatched⟩
    · simp only [closeTest, if_neg equal, decide_eq_false equal, Bool.false_and]
      exact adds_of_same rfl rfl rfl
  | closeDoWrite =>
    simp only [runsClosure, closesImmediaterly, Bool.and_false, Bool.false_and]
    obtain ⟨events, socketOpen, counted⟩ := doWrite_adds session false
    exact ⟨events, socketOpen, counted⟩

structure Tracked (session : TcpSession) : Prop where
  recorded : Recorded 1 session.events
  connected : session.socketOpen = decide (session.withdrawals = 0)

section Tracked

variable (tracked : session.Tracked) (stepped : session.step action = some next)

include tracked stepped

theorem tracked_step : next.Tracked := by
  obtain ⟨⟨others, unrelated, events⟩, socketOpen, -⟩ := step_adds stepped
  have before := tracked.recorded.append_unrelated unrelated
  have same := unrelated .deleteThreadSession (by decide)
  have connected := tracked.connected
  cases ran : session.runsClosure action with
  | false =>
    simp only [ran, Bool.false_eq_true, if_false, List.append_nil, Bool.not_false,
      Bool.and_true] at events socketOpen
    refine ⟨events ▸ before, ?_⟩
    rw [socketOpen, connected, withdrawals, withdrawals, events, List.count_append, same,
      Nat.add_zero]
  | true =>
    simp only [ran, if_true, Bool.not_true, Bool.and_false] at events socketOpen
    refine ⟨events ▸ before.append_withdrawal, ?_⟩
    have once : withdrawal.count .deleteThreadSession = 1 := by decide
    simp [socketOpen, withdrawals, events, once]

theorem unrepeated_step (few : session.dispatched ≤ 1)
    (unrepeated : session.CloseUnrepeated action) : next.dispatched ≤ 1 := by
  rw [(step_adds stepped).dispatched]
  split
  · rename_i asked
    obtain ⟨closes, stillOpen⟩ := Bool.and_eq_true_iff.mp asked
    have waiting := List.count_eq_zero.mpr (unrepeated closes)
    have none : session.withdrawals = 0 := by simpa [stillOpen] using tracked.connected
    simp [dispatched, none, waiting]
  · exact few

theorem repeated_step : session.CloseUnrepeated action ∨ 2 ≤ next.dispatched := by
  by_cases unrepeated : session.CloseUnrepeated action
  · exact .inl unrepeated
  · right
    simp only [CloseUnrepeated, Classical.not_imp, not_not] at unrepeated
    obtain ⟨closes, queued⟩ := unrepeated
    have waiting := List.count_pos_iff.mpr queued
    have connected := tracked.connected
    rw [(step_adds stepped).dispatched, closes, Bool.true_and, dispatched]
    cases stillOpen : session.socketOpen with
    | true => simp; omega
    | false =>
      rw [stillOpen] at connected
      have gone : session.withdrawals ≠ 0 := by simpa using connected.symm
      simp; omega

end Tracked

theorem dispatched_step (stepped : session.step action = some next) :
    session.dispatched ≤ next.dispatched := by
  rw [(step_adds stepped).dispatched]
  exact Nat.le_add_right ..

theorem opened_tracked (sharesContext : Bool) : (opened sharesContext).Tracked := by
  cases sharesContext <;> exact ⟨⟨rfl, by decide, by decide⟩, by decide⟩

theorem withdrawnOnce_of_unrepeated {sharesContext : Bool} {actions : List TcpAction}
    (unrepeated : Throughout step CloseUnrepeated (opened sharesContext) actions) :
    Always step (fun session => WithdrawnOnce 1 session.events) (opened sharesContext) actions := by
  refine always_of_invariant (fun session action next (held : session.Tracked ∧ session.dispatched ≤
    1) kept stepped => ?_) (fun session held => ?_) ?_ unrepeated
  · exact ⟨tracked_step held.1 stepped, unrepeated_step held.1 stepped held.2 kept⟩
  · exact held.1.recorded.withdrawnOnce_iff.mpr (Nat.le_trans (Nat.le_add_right ..) held.2)
  · exact ⟨opened_tracked sharesContext, by cases sharesContext <;> decide⟩

theorem unrepeated_of_withdrawnOnce {sharesContext : Bool} {finish : TcpSession}
    {actions : List TcpAction} (ran : run step (opened sharesContext) actions = some finish)
    (drained : .close ∉ finish.ioQueue)
    (once : Always step (fun session => WithdrawnOnce 1 session.events) (opened sharesContext)
      actions) : Throughout step CloseUnrepeated (opened sharesContext) actions := by
  refine throughout_of_escaped
    (fun _ _ _ => tracked_step) (fun _ _ _ => repeated_step)
    (fun _ _ _ _ stepped lost => Nat.le_trans lost (dispatched_step stepped))
    (opened_tracked sharesContext) ran ?_
  have bounded := (always_finish once ran).2.2 .deleteThreadSession (by decide)
  rw [dispatched, List.count_eq_zero.mpr drained]
  simp only [withdrawals]
  omega

end TcpSession

namespace TcpClientSession

variable (session : TcpClientSession)

def announced : Nat :=
  if session.connectPhase = .connected then 1 else 0

def withdrawals : Nat := session.events.count .deleteThreadSession

structure Tracked : Prop where
  recorded : Recorded session.announced session.events
  known : session.registered ∨ session.reading ∨ 0 < session.closeTasks ∨
    0 < session.closeClosures ∨ 0 < session.withdrawals → session.connectPhase = .connected

variable {next session : TcpClientSession} {action : TcpClientAction}

theorem raise_eq_some {cause : CloseCause} (tracked : Tracked session)
    (raised : session.raise cause = some next) :
    session.connectPhase = .connected ∧ next.connectPhase = .connected ∧
      next.closeClosures = session.closeClosures ∧ next.events = session.events := by
  have known := tracked.known
  cases cause <;>
    simp only [raise, Option.ite_none_right_eq_some, Option.some.injEq, reduceCtorEq] at raised <;>
    obtain ⟨source, rfl⟩ := raised <;>
    exact ⟨known (by simp [source]), known (by simp [source]), rfl, rfl⟩

theorem handleConnect_tracked (failed : Bool) (waiting : session.connectPhase = .connecting)
    (tracked : session.Tracked) :
    (session.handleConnect failed).Tracked ∧
      (session.handleConnect failed).withdrawals = session.withdrawals ∧
      (session.handleConnect failed).closeClosures = session.closeClosures := by
  have none : session.announced = 0 := by simp [announced, waiting]
  have recorded := none ▸ tracked.recorded
  cases failed with
  | true =>
    refine ⟨⟨?_, fun source => ?_⟩, by simp [withdrawals, handleConnect], rfl⟩
    · simp only [handleConnect, announced, if_true, reduceCtorEq, if_false]
      exact recorded.append_unrelated (by decide)
    · have before := tracked.known (by simpa [withdrawals, handleConnect] using source)
      simp [waiting] at before
  | false =>
    refine ⟨⟨⟨?_, Nat.le_refl 1, ?_⟩, fun _ => rfl⟩, by simp [withdrawals, handleConnect], rfl⟩
    · simp [handleConnect, announced, recorded.added]
    · intro event relevant
      have fresh : [SessionEvent.packetConnect, .addThreadSession].count event = 0 := by
        revert event
        decide
      simp [handleConnect, fresh, recorded.together event relevant]

theorem step_counts (tracked : session.Tracked) (stepped : session.step action = some next) :
    next.Tracked ∧ next.withdrawals + next.closeClosures =
      session.withdrawals + session.closeClosures + if action = .close then 1 else 0 := by
  have known := tracked.known
  cases action with
  | handleConnect failed =>
    simp only [step, Option.ite_none_right_eq_some, Option.some.injEq] at stepped
    obtain ⟨waiting, rfl⟩ := stepped
    obtain ⟨kept, withdrawals, closures⟩ := handleConnect_tracked failed waiting tracked
    exact ⟨kept, by simp [withdrawals, closures]⟩
  | closeSessionEvent cause =>
    obtain ⟨before, after, closures, events⟩ := raise_eq_some tracked stepped
    refine ⟨⟨?_, fun _ => after⟩, by simp [withdrawals, closures, events]⟩
    simpa [announced, before, after, events] using tracked.recorded
  | close =>
    simp only [step, Option.ite_none_right_eq_some, Option.some.injEq] at stepped
    obtain ⟨asked, rfl⟩ := stepped
    exact ⟨⟨tracked.recorded, fun _ => known (by simp [asked])⟩, rfl⟩
  | runClosure =>
    simp only [step, Option.ite_none_right_eq_some, Option.some.injEq] at stepped
    obtain ⟨queued, rfl⟩ := stepped
    refine ⟨⟨tracked.recorded.append_withdrawal, fun _ => known (by simp [queued])⟩, ?_⟩
    simp [withdrawals, runClosure]
    omega

theorem Tracked.withdrawnOnce (tracked : session.Tracked) (few : session.withdrawals ≤ 1) :
    WithdrawnOnce session.announced session.events := by
  refine tracked.recorded.withdrawnOnce_iff.mpr ?_
  change session.withdrawals ≤ session.announced
  by_cases none : session.withdrawals = 0
  · exact none ▸ Nat.zero_le _
  · have connected := tracked.known (by simp [Nat.pos_of_ne_zero none])
    simpa [announced, connected] using few

theorem withdrawnOnce_of_count {actions : List TcpClientAction} (tracked : session.Tracked)
    (few : session.withdrawals + session.closeClosures + actions.count .close ≤ 1) :
    Always step (fun session => WithdrawnOnce session.announced session.events) session
      actions := by
  induction actions generalizing session with
  | nil => exact tracked.withdrawnOnce (by omega)
  | cons action rest ih =>
    refine ⟨tracked.withdrawnOnce (by omega), ?_⟩
    cases stepped : session.step action with
    | none => trivial
    | some next =>
      obtain ⟨kept, counted⟩ := step_counts tracked stepped
      refine ih kept ?_
      rw [List.count_cons] at few
      simp only [beq_iff_eq] at few
      omega

theorem run_counts {finish : TcpClientSession} {actions : List TcpClientAction}
    (tracked : session.Tracked) (ran : run step session actions = some finish) :
    finish.withdrawals + finish.closeClosures =
      session.withdrawals + session.closeClosures + actions.count .close := by
  induction actions generalizing session with
  | nil => rw [Option.some.inj ran, List.count_nil, Nat.add_zero]
  | cons action rest ih =>
    obtain ⟨next, stepped, later⟩ := run_cons_eq_some.mp ran
    obtain ⟨kept, counted⟩ := step_counts tracked stepped
    rw [ih kept later, counted, List.count_cons]
    simp only [beq_iff_eq]
    omega

theorem started_tracked : started.Tracked :=
  ⟨⟨rfl, by decide, by decide⟩, by decide⟩

end TcpClientSession

/-- A connection is withdrawn once if `close_immediaterly` waits for its closure, and a client's
`close` is called once. Where no closure is left to run, these are the only such runs. -/
theorem withdrawnOnce_of_single_close (sharesContext : Bool) {actions : List TcpAction}
    {finish : TcpSession} (ran : run TcpSession.step (.opened sharesContext) actions = some finish)
    {clientActions : List TcpClientAction} {clientFinish : TcpClientSession}
    (clientRan : run TcpClientSession.step .started clientActions = some clientFinish) :
    ((Throughout TcpSession.step TcpSession.CloseUnrepeated (.opened sharesContext) actions →
        Always TcpSession.step (fun session => WithdrawnOnce 1 session.events)
          (.opened sharesContext) actions) ∧
      (.close ∉ finish.ioQueue →
        Always TcpSession.step (fun session => WithdrawnOnce 1 session.events)
          (.opened sharesContext) actions →
        Throughout TcpSession.step TcpSession.CloseUnrepeated (.opened sharesContext) actions)) ∧
    ((clientActions.count .close ≤ 1 →
        Always TcpClientSession.step
          (fun session => WithdrawnOnce session.announced session.events) .started clientActions) ∧
      (clientFinish.closeClosures = 0 →
        Always TcpClientSession.step
          (fun session => WithdrawnOnce session.announced session.events) .started clientActions →
        clientActions.count .close ≤ 1)) := by
  refine ⟨⟨TcpSession.withdrawnOnce_of_unrepeated, TcpSession.unrepeated_of_withdrawnOnce ran⟩,
    fun few => ?_, fun drained once => ?_⟩
  · exact TcpClientSession.withdrawnOnce_of_count TcpClientSession.started_tracked
      (by simpa [TcpClientSession.withdrawals, TcpClientSession.started] using few)
  · have counted := TcpClientSession.run_counts TcpClientSession.started_tracked clientRan
    obtain ⟨-, single, bounded⟩ := always_finish once clientRan
    have withdrawn := bounded .deleteThreadSession (by decide)
    simp only [TcpClientSession.withdrawals, TcpClientSession.started, drained] at counted
    simp at counted
    omega

theorem withdrawnOnce_after_readError :
    Always TcpSession.step (fun session => WithdrawnOnce 1 session.events) (.opened false)
      [.closeSessionEvent .readError, .closeTest, .runHandler 0] ∧
    Always TcpClientSession.step (fun session => WithdrawnOnce session.announced session.events)
      .started [.handleConnect false, .closeSessionEvent .readError, .close, .runClosure] := by
  obtain ⟨⟨served, -⟩, dialled, -⟩ := withdrawnOnce_of_single_close false
    (Option.some_get (by decide :
      (run TcpSession.step (.opened false)
        [.closeSessionEvent .readError, .closeTest, .runHandler 0]).isSome)).symm
    (Option.some_get (by decide :
      (run TcpClientSession.step .started
        [.handleConnect false, .closeSessionEvent .readError, .close, .runClosure]).isSome)).symm
  exact ⟨served (by decide), dialled (by decide)⟩

theorem withdrawn_twice_after_parseFailure :
    (run TcpSession.step (.opened false)
      [.closeSessionEvent .parseFailure, .closeSessionEvent .parseFailure, .closeTest, .closeTest,
        .runHandler 0, .runHandler 0]).map (fun session =>
          (session.events.count .addThreadSession, session.events.count .deleteThreadSession)) =
      some (1, 2) ∧
    (run TcpClientSession.step .started
      [.handleConnect false, .closeSessionEvent .parseFailure, .close, .runClosure,
        .closeSessionEvent .readError, .close, .runClosure]).map (fun session =>
          (session.events.count .addThreadSession, session.events.count .deleteThreadSession)) =
      some (1, 2) := by
  decide

end PssAsio
