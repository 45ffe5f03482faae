import PssAsio.TcpSessionCore
import PssAsio.TcpSslSessionSend

/-!
`CTcpSSLSession` when its writes may fail.
-/

namespace PssAsio

open TransitionRuns

structure TcpSslSender where
  session : TcpSslSession
  events : List SessionEvent
  deriving DecidableEq, Repr

inductive SslSendAction where
  | proceed (action : SslAction)
  | writeFailed (index length : Nat)
  deriving DecidableEq, Repr

def SslSendAction.Succeeds : SslSendAction → Prop
  | .proceed _ => True
  | .writeFailed _ _ => False

namespace TcpSslSender

def opened : TcpSslSender := ⟨.opened, []⟩

variable (sender : TcpSslSender)

def sendWriteFailToLogic (writeFailBuffer : List UInt8) (bufferLength : Nat) : TcpSslSender :=
  { sender with
    events := sender.events ++ [.logicThreadWriteIoError (writeFailBuffer.take bufferLength)] }

def withoutWrite (session : TcpSslSession) (index : Nat) : TcpSslSession :=
  { session with inFlight := session.inFlight.eraseIdx index }

def step (sender : TcpSslSender) : SslSendAction → Option TcpSslSender
  | .proceed action =>
      (sender.session.step action).map fun session => { sender with session := session }
  | .writeFailed index length =>
      (sender.session.inFlight[index]?).map fun sendBuffer =>
        { sender with session := withoutWrite sender.session index }.sendWriteFailToLogic
          sendBuffer length

structure Reopens : Prop where
  gate : sender.session.isSendFinish = false ↔ 0 < sender.session.underWay
  drained : sender.session.NoWriteOut → ¬sender.session.CallInProgress →
    sender.session.sessionSendBuffer = []

structure Coherent : Prop where
  single : sender.session.gateSum ≤ 1
  awaited : sender.session.Awaited

variable {sender next : TcpSslSender} {action : SslSendAction}

theorem Coherent.reopens_iff (coherent : sender.Coherent) :
    sender.Reopens ↔ sender.session.gateSum = 1 := by
  have single := coherent.single
  constructor
  · intro reopens
    have gate := reopens.gate
    unfold TcpSslSession.gateSum at single ⊢
    cases flag : sender.session.isSendFinish <;> simp [flag] at gate single ⊢ <;> omega
  · intro balanced
    refine ⟨?_, TcpSslSession.drained_of_gateSum balanced coherent.awaited⟩
    unfold TcpSslSession.gateSum at balanced
    cases flag : sender.session.isSendFinish <;> simp [flag] at balanced ⊢ <;> omega

theorem gateSum_withoutWrite {session : TcpSslSession} {index : Nat} {sendBuffer : List UInt8}
    (found : session.inFlight[index]? = some sendBuffer) :
    (withoutWrite session index).gateSum + 1 = session.gateSum := by
  have erased := TcpSslSession.length_eraseIdx_add_one found
  have flag : (withoutWrite session index).isSendFinish = session.isSendFinish := rfl
  unfold TcpSslSession.gateSum
  rw [flag]
  simp only [TcpSslSession.underWay, withoutWrite]
  omega

theorem coherent_step (coherent : sender.Coherent) (stepped : sender.step action = some next) :
    next.Coherent := by
  cases action with
  | proceed action =>
    obtain ⟨session, proceeded, rfl⟩ := Option.map_eq_some_iff.mp stepped
    have kept := TcpSslSession.gateSum_step coherent.single proceeded
    exact ⟨Nat.le_trans (Nat.le_of_eq kept) coherent.single,
      TcpSslSession.awaited_step coherent.awaited proceeded⟩
  | writeFailed index length =>
    obtain ⟨sendBuffer, found, rfl⟩ := Option.map_eq_some_iff.mp stepped
    have less := gateSum_withoutWrite found
    refine ⟨?_, coherent.awaited⟩
    have single := coherent.single
    simp only [sendWriteFailToLogic]
    omega

theorem reopens_step (coherent : sender.Coherent) (reopens : sender.Reopens)
    (stepped : sender.step action = some next) : next.Reopens ↔ action.Succeeds := by
  have balanced := coherent.reopens_iff.mp reopens
  rw [(coherent_step coherent stepped).reopens_iff]
  cases action with
  | proceed action =>
    obtain ⟨session, proceeded, rfl⟩ := Option.map_eq_some_iff.mp stepped
    have kept := TcpSslSession.gateSum_step coherent.single proceeded
    exact ⟨fun _ => trivial, fun _ => kept.trans balanced⟩
  | writeFailed index length =>
    obtain ⟨sendBuffer, found, rfl⟩ := Option.map_eq_some_iff.mp stepped
    have less := gateSum_withoutWrite found
    simp only [sendWriteFailToLogic, SslSendAction.Succeeds, iff_false]
    omega

/-! No step opens a gate that is shut without a write. -/

theorem shut_step (shut : sender.session.gateSum = 0) (stepped : sender.step action = some next) :
    next.session.gateSum = 0 ∧ next.session.submitted = sender.session.submitted ∧
      next.events = sender.events := by
  have flag : sender.session.isSendFinish = false := by
    by_contra raised
    simp [TcpSslSession.gateSum, raised] at shut
  have nothing : sender.session.underWay = 0 := by
    unfold TcpSslSession.gateSum at shut
    omega
  cases action with
  | proceed action =>
    obtain ⟨session, proceeded, rfl⟩ := Option.map_eq_some_iff.mp stepped
    have kept := TcpSslSession.gateSum_step (by omega) proceeded
    refine ⟨kept.trans shut, ?_, rfl⟩
    have refused : ∀ onIoThread, sender.session.doWrite onIoThread = sender.session := by
      intro onIoThread
      rw [TcpSslSession.doWrite, if_pos (.inl flag)]
    cases TcpSslSession.stepped_of_step proceeded with
    | doWrite caller onIoThread | resumeWrite resumes => simp only [refused]
    | _ => rfl
  | writeFailed index length =>
    obtain ⟨sendBuffer, found, rfl⟩ := Option.map_eq_some_iff.mp stepped
    have less := gateSum_withoutWrite found
    omega

theorem shut_run {finish : TcpSslSender} {actions : List SslSendAction}
    (shut : sender.session.gateSum = 0) (ran : run step sender actions = some finish) :
    finish.session.submitted = sender.session.submitted ∧ finish.events = sender.events := by
  have kept := run_preserves
    (fun state : TcpSslSender => state.session.gateSum = 0 ∧
      state.session.submitted = sender.session.submitted ∧ state.events = sender.events)
    (fun state action next held stepped => by
      obtain ⟨still, submitted, events⟩ := shut_step held.1 stepped
      exact ⟨still, submitted.trans held.2.1, events.trans held.2.2⟩)
    ⟨shut, rfl, rfl⟩ ran
  exact kept.2

/-- The gate opens again in every state exactly when no completion fails. -/
theorem reopens_iff_no_write_fails {finish : TcpSslSender} {actions : List SslSendAction}
    (ran : run step opened actions = some finish) :
    Always step Reopens opened actions ↔
      ∀ index length, SslSendAction.writeFailed index length ∉ actions := by
  have coherent : opened.Coherent := ⟨Nat.le_refl 1, fun _ waiting => absurd rfl waiting⟩
  have initial : opened.Reopens := coherent.reopens_iff.mpr rfl
  have supported : ∀ (sender : TcpSslSender) (action : SslSendAction) (next : TcpSslSender),
      sender.Coherent → sender.step action = some next → next.Coherent :=
    fun _ _ _ held stepped => coherent_step held stepped
  rw [always_iff_throughout supported
      (fun _ _ _ held reopens stepped => reopens_step held reopens stepped) coherent initial ran,
    throughout_iff_mem_of_run ran]
  constructor
  · intro succeed index length listed
    exact succeed _ listed
  · intro none action listed
    cases action with
    | proceed action => trivial
    | writeFailed index length => exact none index length listed

theorem reopens_after_completion :
    Always step Reopens opened
      [.proceed (.setWriteBuffer 1 [7]), .proceed (.doWrite 1 false), .proceed (.runHandler 0),
        .proceed (.writeCompleted 0), .proceed (.addSendFinishSize 0), .proceed .resumeWrite] :=
  (reopens_iff_no_write_fails (Option.some_get (by decide)).symm).mpr (by simp)

/-- The second reply is accepted and then neither submitted nor reported. -/
theorem failed_write_shuts_gate :
    ∃ sender, run step opened
        [.proceed (.setWriteBuffer 1 [7]), .proceed (.doWrite 1 false), .proceed (.runHandler 0),
          .writeFailed 0 0, .proceed (.setWriteBuffer 1 [8]), .proceed (.doWrite 1 false)] =
        some sender ∧
      sender.session.isSendFinish = false ∧ sender.session.underWay = 0 ∧
      sender.session.sessionSendBuffer = [8] ∧
      ∀ actions finish, run step sender actions = some finish →
        finish.session.submitted = [[7]] ∧ finish.events = [.logicThreadWriteIoError []] := by
  refine ⟨_, rfl, rfl, rfl, rfl, ?_⟩
  intro actions finish ran
  exact shut_run rfl ran

end TcpSslSender

end PssAsio
