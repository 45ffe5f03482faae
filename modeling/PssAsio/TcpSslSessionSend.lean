import PssAsio.TcpSslSessionCore
import PssAsio.TransitionRuns

/-!
The send gate of `CTcpSSLSession`.
-/

namespace PssAsio

open TransitionRuns

namespace TcpSslSession

variable (session : TcpSslSession)

def underWay : Nat :=
  session.ioQueue.length + session.inFlight.length + session.completing.length

def CallInProgress : Prop :=
  session.callers ≠ [] ∨ session.completing ≠ [] ∨ 0 < session.resuming

def NoWriteOut : Prop :=
  session.ioQueue = [] ∧ session.inFlight = []

structure SendsExactly : Prop where
  single : session.ioQueue.length + session.inFlight.length ≤ 1
  exact : session.submitted.flatten ++ session.sessionSendBuffer = session.passed.flatten
  drained : session.NoWriteOut → ¬session.CallInProgress → session.sessionSendBuffer = []

structure Gated : Prop where
  flag : session.underWay = if session.isSendFinish then 0 else 1
  exact : session.submitted.flatten ++ session.sessionSendBuffer = session.passed.flatten
  awaited : session.isSendFinish → session.sessionSendBuffer ≠ [] →
    session.callers ≠ [] ∨ 0 < session.resuming

def gateSum : Nat :=
  session.underWay + if session.isSendFinish then 1 else 0

theorem flag_iff_gateSum :
    session.underWay = (if session.isSendFinish then 0 else 1) ↔ session.gateSum = 1 := by
  unfold gateSum
  split <;> omega

def Awaited : Prop :=
  session.isSendFinish = true → session.sessionSendBuffer ≠ [] →
    session.callers ≠ [] ∨ 0 < session.resuming

variable {session next : TcpSslSession} {action : SslAction}

theorem drained_of_gateSum (balanced : session.gateSum = 1) (awaited : session.Awaited)
    (noWrite : session.NoWriteOut) (noCall : ¬session.CallInProgress) :
    session.sessionSendBuffer = [] := by
  simp only [CallInProgress, not_or, ne_eq, not_not] at noCall
  obtain ⟨noCaller, noCompletion, noResume⟩ := noCall
  simp only [gateSum, underWay, noWrite.1, noWrite.2, noCompletion, List.length_nil] at balanced
  have finished : session.isSendFinish = true := by
    by_contra cleared
    simp [cleared] at balanced
  by_contra waiting
  rcases awaited finished waiting with someCaller | someResume
  · exact someCaller noCaller
  · exact noResume someResume

theorem Gated.sendsExactly (gated : session.Gated) : session.SendsExactly where
  single := by
    have flag := gated.flag
    simp only [underWay] at flag
    split at flag <;> omega
  exact := gated.exact
  drained := drained_of_gateSum (session.flag_iff_gateSum.mp gated.flag) gated.awaited

inductive Wrote (session : TcpSslSession) (onIoThread : Bool) : TcpSslSession → Prop where
  | refused (under : session.isSendFinish = false) : Wrote session onIoThread session
  | nothing (empty : session.sessionSendBuffer = []) : Wrote session onIoThread session
  | taken (finished : session.isSendFinish = true)
      (waiting : session.sessionSendBuffer ≠ []) :
      Wrote session onIoThread
        (({ session with
            isSendFinish := false
            submitted := session.submitted ++ [session.sessionSendBuffer]
            sessionSendBuffer := [] } : TcpSslSession).dispatch onIoThread
          session.sessionSendBuffer)

theorem wrote_doWrite (session : TcpSslSession) (onIoThread : Bool) :
    Wrote session onIoThread (session.doWrite onIoThread) := by
  unfold doWrite
  split
  · rename_i returned
    rcases returned with under | empty
    · exact .refused under
    · exact .nothing (List.length_eq_zero_iff.mp empty)
  · rename_i proceeds
    rw [not_or, Bool.not_eq_false, List.length_eq_zero_iff] at proceeds
    exact .taken proceeds.1 proceeds.2

@[simp] theorem dispatch_frame (session : TcpSslSession) (onIoThread : Bool)
    (sendBuffer : List UInt8) :
    (session.dispatch onIoThread sendBuffer).sessionSendBuffer = session.sessionSendBuffer ∧
    (session.dispatch onIoThread sendBuffer).isSendFinish = session.isSendFinish ∧
    (session.dispatch onIoThread sendBuffer).submitted = session.submitted ∧
    (session.dispatch onIoThread sendBuffer).passed = session.passed ∧
    (session.dispatch onIoThread sendBuffer).underWay = session.underWay + 1 := by
  cases onIoThread <;> simp [dispatch, asyncWrite, underWay] <;> omega

theorem doWrite_gateSum (session : TcpSslSession) (onIoThread : Bool) :
    (session.doWrite onIoThread).gateSum = session.gateSum := by
  have wrote := wrote_doWrite session onIoThread
  generalize session.doWrite onIoThread = written at wrote ⊢
  cases wrote with
  | refused under => rfl
  | nothing empty => rfl
  | taken finished waiting =>
    have dispatched := dispatch_frame
      ({ session with
          isSendFinish := false
          submitted := session.submitted ++ [session.sessionSendBuffer]
          sessionSendBuffer := [] } : TcpSslSession) onIoThread session.sessionSendBuffer
    unfold gateSum
    rw [dispatched.2.2.2.2, dispatched.2.1, finished]
    rfl

theorem doWrite_exact (session : TcpSslSession) (onIoThread : Bool) :
    (session.doWrite onIoThread).submitted.flatten ++
        (session.doWrite onIoThread).sessionSendBuffer =
          session.submitted.flatten ++ session.sessionSendBuffer ∧
      (session.doWrite onIoThread).passed = session.passed := by
  have wrote := wrote_doWrite session onIoThread
  generalize session.doWrite onIoThread = written at wrote ⊢
  cases wrote with
  | refused under => exact ⟨rfl, rfl⟩
  | nothing empty => exact ⟨rfl, rfl⟩
  | taken finished waiting => simp

theorem doWrite_empties (session : TcpSslSession) (onIoThread : Bool)
    (finished : (session.doWrite onIoThread).isSendFinish = true) :
    (session.doWrite onIoThread).sessionSendBuffer = [] := by
  have wrote := wrote_doWrite session onIoThread
  generalize session.doWrite onIoThread = written at wrote finished ⊢
  cases wrote with
  | refused under => rw [under] at finished; cases finished
  | nothing empty => exact empty
  | taken _ _ => simp

theorem length_eraseIdx_add_one {α : Type} {list : List α} {index : Nat} {value : α}
    (found : list[index]? = some value) : (list.eraseIdx index).length + 1 = list.length := by
  obtain ⟨bound, -⟩ := List.getElem?_eq_some_iff.mp found
  rw [List.length_eraseIdx_of_lt bound]
  omega

/-- The completion gives up one write and raises the flag. -/
theorem gateSum_step (atMostOne : session.gateSum ≤ 1) (stepped : session.step action = some next) :
    next.gateSum = session.gateSum := by
  cases stepped_of_step stepped with
  | setWriteBuffer caller data => rfl
  | doWrite caller onIoThread => exact doWrite_gateSum session onIoThread
  | runHandler index sendBuffer found =>
    have erased := length_eraseIdx_add_one found
    refine congrArg (· + if session.isSendFinish then 1 else 0) ?_
    simp only [underWay, asyncWrite, List.length_append, List.length_singleton]
    omega
  | writeCompleted index sendBuffer found =>
    have erased := length_eraseIdx_add_one found
    refine congrArg (· + if session.isSendFinish then 1 else 0) ?_
    simp only [underWay, List.length_append, List.length_singleton]
    omega
  | addSendFinishSize index sendBuffer found =>
    have erased := length_eraseIdx_add_one found
    simp only [gateSum, underWay, addSendFinishSize, if_true] at atMostOne ⊢
    -- With the flag raised there is no write whose completion could get here.
    cases flag : session.isSendFinish <;>
      simp only [flag, Bool.false_eq_true, if_true, if_false] at atMostOne ⊢ <;> omega
  | resumeWrite resumes => exact doWrite_gateSum session true

theorem awaited_step (awaited : session.Awaited) (stepped : session.step action = some next) :
    next.Awaited := by
  cases stepped_of_step stepped with
  | setWriteBuffer caller data =>
    intro _ _
    exact .inl (List.ne_nil_of_mem List.mem_insert_self)
  | doWrite caller onIoThread =>
    intro finished waiting
    exact absurd (session.doWrite_empties onIoThread finished) waiting
  | runHandler index sendBuffer found => exact awaited
  | writeCompleted index sendBuffer found => exact awaited
  | addSendFinishSize index sendBuffer found => exact fun _ _ => .inr (Nat.succ_pos _)
  | resumeWrite resumes =>
    intro finished waiting
    exact absurd (session.doWrite_empties true finished) waiting

theorem exact_step
    (exactly : session.submitted.flatten ++ session.sessionSendBuffer = session.passed.flatten)
    (stepped : session.step action = some next) :
    next.submitted.flatten ++ next.sessionSendBuffer = next.passed.flatten := by
  cases stepped_of_step stepped with
  | setWriteBuffer caller data =>
    simp only [setWriteBuffer, List.flatten_append, List.flatten_singleton, ← exactly,
      List.append_assoc]
  | doWrite caller onIoThread =>
    obtain ⟨kept, passed⟩ := session.doWrite_exact onIoThread
    simp only [kept, passed, exactly]
  | runHandler index sendBuffer found | writeCompleted index sendBuffer found
  | addSendFinishSize index sendBuffer found => exact exactly
  | resumeWrite resumes =>
    obtain ⟨kept, passed⟩ := session.doWrite_exact true
    simp only [kept, passed, exactly]

theorem gated_step (gated : session.Gated) (stepped : session.step action = some next) :
    next.Gated := by
  have balanced := session.flag_iff_gateSum.mp gated.flag
  have kept := gateSum_step (Nat.le_of_eq balanced) stepped
  exact ⟨next.flag_iff_gateSum.mpr (kept.trans balanced), exact_step gated.exact stepped,
    awaited_step gated.awaited stepped⟩

theorem gated_opened : opened.Gated := ⟨rfl, rfl, fun _ waiting => absurd rfl waiting⟩

/-- At most one write is out, bytes go in lock order, and nothing waits at rest. -/
theorem sendsExactly_of_run {finish : TcpSslSession} {actions : List SslAction}
    (ran : run step opened actions = some finish) : finish.SendsExactly := by
  have gated : finish.Gated := run_preserves Gated (fun _ _ _ holds stepped =>
    gated_step holds stepped) gated_opened ran
  exact gated.sendsExactly

theorem sendsExactly_append_during_completion :
    (((run step opened (doWriteImmediately 1 [7] false ++
      [.runHandler 0, .writeCompleted 0, .addSendFinishSize 0, .setWriteBuffer 2 [8],
        .resumeWrite])).get (by decide)).submitted = [[7], [8]]) ∧
    ((run step opened (doWriteImmediately 1 [7] false ++
      [.runHandler 0, .writeCompleted 0, .addSendFinishSize 0, .setWriteBuffer 2 [8],
        .resumeWrite])).get (by decide)).SendsExactly :=
  ⟨by decide, sendsExactly_of_run (Option.some_get (by decide)).symm⟩

end TcpSslSession

end PssAsio
