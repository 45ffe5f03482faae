import PssAsio.SendSessionCore
import PssAsio.TcpSslFailures

/-!
What the logic is told about a failed write.
-/

namespace PssAsio

open TransitionRuns

structure WriteMachine where
  State : Type
  Action : Type
  step : State → Action → Option State
  failed : State → Action → Option (List UInt8 × Nat)
  events : State → List SessionEvent

namespace WriteMachine

variable (machine : WriteMachine)

variable (state : machine.State)

def reports : List (List UInt8) :=
  (machine.events state).filterMap SessionEvent.writeError

variable (action : machine.Action)

def ReportsUnsent : Prop :=
  ∀ write ∈ machine.failed state action, write.2 ≤ write.1.length →
    (machine.step state action).map machine.reports =
      some (machine.reports state ++ [write.1.drop write.2])
  deriving Decidable

def RepeatsSent : Prop :=
  ∀ write ∈ machine.failed state action, write.2 ≤ write.1.length →
    write.1.take write.2 = write.1.drop write.2

def UnsentReported (start : machine.State) (actions : List machine.Action) : Prop :=
  Throughout machine.step machine.ReportsUnsent start actions
  deriving Decidable

def ReportsFront : Prop :=
  ∀ state action write, machine.failed state action = some write →
    (machine.step state action).map machine.reports =
      some (machine.reports state ++ [write.1.take write.2])

variable {machine}

theorem ReportsFront.throughout_iff (front : machine.ReportsFront) (start : machine.State)
    (actions : List machine.Action) :
    machine.UnsentReported start actions ↔
      Throughout machine.step machine.RepeatsSent start actions := by
  refine throughout_congr (fun _ _ _ _ _ => trivial) (fun state action _ => ?_) trivial
  refine forall_congr' fun write => forall_congr' fun fails => ?_
  rw [front state action write fails]
  simp

end WriteMachine

/-! The four classes, `CTTyServer` with its `do_write`. -/

inductive WriteClass where
  | tcpSession
  | tcpClientSession
  | tcpSslSession
  | ttyServer
  deriving DecidableEq, Repr

def TcpSession.failedWrite (session : TcpSession) : TcpAction → Option (List UInt8 × Nat)
  | .writeFailed index length =>
      if session.finishing then none
      else (session.inFlight[index]?).map fun data => (data, length)
  | _ => none

def TcpSslSender.failedWrite (sender : TcpSslSender) : SslSendAction → Option (List UInt8 × Nat)
  | .writeFailed index length =>
      (sender.session.inFlight[index]?).map fun sendBuffer => (sendBuffer, length)
  | .proceed _ => none

def SendSession.failedWrite (kind : SendBufferClass) (session : SendSession) :
    SendAction → Option (List UInt8 × Nat)
  | .writeFailed index length =>
      (session.inFlight[index]?).bind fun outgoing =>
        if kind = .ttyServer ∧ outgoing.immediately then none else some (outgoing.data, length)
  | _ => none

@[reducible] def SendSession.writeMachine (kind : SendBufferClass) : WriteMachine where
  State := SendSession
  Action := SendAction
  step := SendSession.step kind
  failed := SendSession.failedWrite kind
  events := SendSession.events

@[reducible] def WriteClass.machine : WriteClass → WriteMachine
  | .tcpSession => ⟨TcpSession, TcpAction, TcpSession.step, TcpSession.failedWrite,
      TcpSession.events⟩
  | .tcpClientSession => SendSession.writeMachine .tcpClientSession
  | .tcpSslSession => ⟨TcpSslSender, SslSendAction, TcpSslSender.step, TcpSslSender.failedWrite,
      TcpSslSender.events⟩
  | .ttyServer => SendSession.writeMachine .ttyServer

theorem TcpSession.closeImmediaterly_reports (session : TcpSession) (onIoThread : Bool) :
    (session.closeImmediaterly onIoThread).events.filterMap SessionEvent.writeError =
      session.events.filterMap SessionEvent.writeError := by
  simp only [closeImmediaterly]
  split
  · cases onIoThread <;> simp [dispatch, runHandler, deleteThreadSession, SessionEvent.writeError]
  · rfl

theorem TcpSession.reportsFront : WriteClass.tcpSession.machine.ReportsFront := by
  rintro session action ⟨data, length⟩ fails
  cases action with
  | writeFailed index transferred =>
    simp only [failedWrite, Option.ite_none_left_eq_some, Option.map_eq_some_iff,
      Prod.mk.injEq] at fails
    obtain ⟨free, sent, found, rfl, rfl⟩ := fails
    simp only [WriteClass.machine, step, if_neg free, found, Option.map_some, writeFailed]
    refine congrArg some ?_
    split
    · simp [WriteMachine.reports, closeImmediaterly_reports, sendWriteFailToLogic,
        SessionEvent.writeError]
    · simp [WriteMachine.reports, sendWriteFailToLogic, SessionEvent.writeError]
  | _ => cases fails

theorem TcpSslSender.reportsFront : WriteClass.tcpSslSession.machine.ReportsFront := by
  rintro sender action ⟨data, length⟩ fails
  cases action with
  | writeFailed index transferred =>
    simp only [failedWrite, Option.map_eq_some_iff, Prod.mk.injEq] at fails
    obtain ⟨sent, found, rfl, rfl⟩ := fails
    simp [WriteClass.machine, step, found, WriteMachine.reports, sendWriteFailToLogic,
      SessionEvent.writeError]
  | proceed action => cases fails

theorem SendSession.reportsFront {kind : SendBufferClass}
    (stream : kind = .tcpClientSession ∨ kind = .ttyServer) :
    (SendSession.writeMachine kind).ReportsFront := by
  rintro session action ⟨data, length⟩ fails
  cases action with
  | writeFailed index transferred =>
    simp only [failedWrite, Option.bind_eq_some_iff, Option.ite_none_left_eq_some,
      Option.some.injEq, Prod.mk.injEq] at fails
    obtain ⟨outgoing, found, reported, rfl, rfl⟩ := fails
    simp only [writeMachine, step, found, Option.map_some]
    refine congrArg some ?_
    rcases stream with rfl | rfl
    · simp [WriteMachine.reports, writeFailed, sendWriteFailToLogic, SessionEvent.writeError]
    · have buffered : outgoing.immediately = false := by simpa using reported
      simp only [writeFailed, buffered, Bool.false_eq_true, if_false]
      split <;>
        simp [WriteMachine.reports, closed, sendWriteFailToLogic, SessionEvent.writeError]
  | _ => cases fails

theorem WriteClass.reportsFront (kind : WriteClass) : kind.machine.ReportsFront := by
  cases kind with
  | tcpSession => exact TcpSession.reportsFront
  | tcpClientSession => exact SendSession.reportsFront (.inl rfl)
  | tcpSslSession => exact TcpSslSender.reportsFront
  | ttyServer => exact SendSession.reportsFront (.inr rfl)

/-- Failed writes are reported rightly exactly if each had sent what it still had to send. -/
theorem unsent_reported_iff_repeated (kind : WriteClass) (start : kind.machine.State)
    (actions : List kind.machine.Action) :
    kind.machine.UnsentReported start actions ↔
      Throughout kind.machine.step kind.machine.RepeatsSent start actions :=
  kind.reportsFront.throughout_iff start actions

theorem sent_byte_reported :
    (WriteClass.tcpSession.machine.reports ((run TcpSession.step (.opened true)
        [.setWriteBuffer [1, 2], .doWrite true, .writeFailed 0 1]).get (by decide)) = [[1]] ∧
      ¬WriteClass.tcpSession.machine.UnsentReported (.opened true)
        [.setWriteBuffer [1, 2], .doWrite true, .writeFailed 0 1]) ∧
    ¬WriteClass.tcpClientSession.machine.UnsentReported (SendSession.opened 8 fun _ => 0)
      [.setWriteBuffer [1, 2], .doWrite false, .writeFailed 0 1] ∧
    ¬WriteClass.tcpSslSession.machine.UnsentReported TcpSslSender.opened
      [.proceed (.setWriteBuffer 0 [1, 2]), .proceed (.doWrite 0 true), .writeFailed 0 1] ∧
    ¬WriteClass.ttyServer.machine.UnsentReported (SendSession.opened 8 fun _ => 0)
      [.setWriteBuffer [1, 2], .doWrite false, .writeFailed 0 1] := by
  decide

end PssAsio
