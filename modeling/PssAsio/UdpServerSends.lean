import Mathlib.Data.List.Perm.Basic
import PssAsio.SendReplies
import PssAsio.TransitionRuns

/-!
One connection of `CUdpServer` between its worker and the io thread; the calls are the steps.
-/

namespace PssAsio

open TransitionRuns

structure UdpSends where
  session : SendSession
  pair : Option (List UInt8)
  passed : List (List UInt8)

inductive UdpSendsAction where
  | setWriteBuffer (data : List UInt8)
  | doWrite
  | doWriteImmediately (data : List UInt8)
  | runHandler (index : Nat)
  deriving DecidableEq, Repr

namespace UdpSends

def opened (sendSize : UInt32) (fresh : Nat → UInt8) : UdpSends :=
  ⟨SendSession.opened sendSize fresh, none, []⟩

def step (sends : UdpSends) : UdpSendsAction → Option UdpSends
  | .setWriteBuffer data =>
      if sends.pair = none then
        (sends.session.setWriteBuffer data).map fun session =>
          ⟨session, some data, sends.passed ++ [data]⟩
      else none
  | .doWrite =>
      if sends.pair = none then none
      else some { sends with session := sends.session.doWrite .udpServer false, pair := none }
  | .doWriteImmediately data =>
      some { sends with
        session := sends.session.doWriteImmediately .udpServer data true
        passed := sends.passed ++ [data] }
  | .runHandler index =>
      (sends.session.step .udpServer (.runHandler index)).map fun session =>
        { sends with session := session }

variable (sends : UdpSends)

def Idle : Prop := sends.pair = none ∧ sends.session.ioQueue = []
  deriving Decidable

def Apart : UdpSendsAction → Prop
  | .setWriteBuffer data =>
      data = [] ∨ data.length < sends.session.sessionSendBuffer.getBufferSize
  | .doWriteImmediately _ => sends.session.sessionSendBuffer.content = []
  | _ => True

instance (action : UdpSendsAction) : Decidable (sends.Apart action) := by
  unfold Apart
  split <;> infer_instance

def waiting : List (List UInt8) :=
  if sends.pair = none then [] else [sends.session.sessionSendBuffer.content]

def handled : List (List UInt8) :=
  sends.session.submitted ++ sends.session.ioQueue.filterMap SendHandler.data ++ sends.waiting

structure Coherent : Prop where
  connected : sends.session.connected = true
  emptied : sends.pair = none → sends.session.sessionSendBuffer.content = []

structure Booked (next : UdpSends) (lost asked : List (List UInt8)) : Prop where
  coherent : next.Coherent
  passed : next.passed = sends.passed ++ asked
  bytes : ∀ data ∈ lost, data ≠ []
  handled : ∀ data, next.handled.count data + lost.count data =
    sends.handled.count data + asked.count data + (List.replicate lost.length []).count data

theorem handled_count (data : List UInt8) :
    sends.handled.count data = sends.session.submitted.count data +
      (sends.session.ioQueue.filterMap SendHandler.data).count data +
      sends.waiting.count data := by
  rw [handled, List.count_append, List.count_append]

variable {sends}

theorem waiting_free (free : sends.pair = none) : sends.waiting = [] :=
  if_pos free

theorem waiting_busy (busy : sends.pair ≠ none) :
    sends.waiting = [sends.session.sessionSendBuffer.content] :=
  if_neg busy

theorem booked_setWriteBuffer (coherent : sends.Coherent) (data : List UInt8)
    (free : sends.pair = none) :
    ∃ session, sends.session.setWriteBuffer data = some session ∧ ∃ lost,
      Booked sends ⟨session, some data, sends.passed ++ [data]⟩ lost [data] ∧
      (lost = [] ↔ sends.Apart (.setWriteBuffer data)) := by
  have nothing := coherent.emptied free
  by_cases room : data.length < sends.session.sessionSendBuffer.getBufferSize
  · obtain ⟨filled, written, content⟩ := SendSession.setWriteBuffer_of_room room
    rw [nothing, List.nil_append] at content
    refine ⟨_, written, [], ⟨⟨coherent.connected, fun none => by cases none⟩, rfl, by simp, ?_⟩, ?_⟩
    · intro other
      rw [handled_count, handled_count, waiting_free free, waiting_busy (by simp), content]
      simp
    · simp [Apart, room]
  · have refused : sends.session.setWriteBuffer data = some sends.session := by
      rw [SendSession.setWriteBuffer, if_pos (Nat.not_lt.mp room)]
    refine ⟨_, refused, if data = [] then [] else [data],
      ⟨⟨coherent.connected, fun none => by cases none⟩, rfl, ?_, ?_⟩, ?_⟩
    · split <;> simp_all
    · intro other
      rw [handled_count, handled_count, waiting_free free, waiting_busy (by simp), nothing]
      by_cases empty : data = []
      · simp [empty]
      · simp only [if_neg empty, List.length_singleton, List.replicate_one, List.count_nil]
        omega
    · by_cases empty : data = [] <;> simp [Apart, empty, room]

theorem booked_doWrite (coherent : sends.Coherent) (busy : sends.pair ≠ none) :
    Booked sends { sends with session := sends.session.doWrite .udpServer false, pair := none }
      [] [] := by
  have connected := coherent.connected
  refine ⟨⟨?_, fun _ => ?_⟩, by simp, by simp, fun other => ?_⟩
  · simp [SendSession.doWrite, connected, SendSession.dispatch, SendSession.handOver,
      SendSession.clearWriteBuffer]
  · have cleared := sends.session.clearWriteBuffer_content
    simpa [SendSession.doWrite, connected, SendSession.dispatch, SendSession.handOver] using cleared
  · rw [handled_count, handled_count, waiting_free rfl, waiting_busy busy]
    simp [SendSession.doWrite, connected, SendSession.dispatch, SendSession.handOver,
      SendSession.clearWriteBuffer, SendHandler.data, Nat.add_assoc]

theorem booked_doWriteImmediately (coherent : sends.Coherent) (data : List UInt8) :
    ∃ lost, Booked sends { sends with
        session := sends.session.doWriteImmediately .udpServer data true
        passed := sends.passed ++ [data] } lost [data] ∧
      (lost = [] ↔ sends.Apart (.doWriteImmediately data)) := by
  have connected := coherent.connected
  have cleared := sends.session.clearWriteBuffer_content
  have sent : sends.session.doWriteImmediately .udpServer data true =
      (sends.session.clearWriteBuffer.handOver data).asyncWrite ⟨data, true⟩ := by
    simp [SendSession.doWriteImmediately, connected]
  rw [sent]
  refine ⟨sends.waiting.filter (· ≠ []), ⟨⟨connected, fun _ => cleared⟩, rfl, by simp, ?_⟩, ?_⟩
  · intro other
    have submitted : (sends.session.submitted ++ [data]).count other =
        sends.session.submitted.count other + [data].count other := List.count_append
    simp only [handled_count, SendSession.asyncWrite, SendSession.handOver]
    by_cases free : sends.pair = none
    · simp only [waiting, if_pos free, SendSession.clearWriteBuffer, submitted, List.filter_nil,
        List.length_nil, List.replicate_zero, List.count_nil]
      omega
    · simp only [waiting, if_neg free, cleared]
      by_cases empty : sends.session.sessionSendBuffer.content = []
      · simp only [empty, ne_eq, not_true_eq_false, decide_false, Bool.false_eq_true,
          not_false_eq_true, List.filter_cons_of_neg, List.filter_nil, List.length_nil,
          List.replicate_zero, List.count_nil, SendSession.clearWriteBuffer, submitted]
        omega
      · simp only [empty, ne_eq, not_false_eq_true, decide_true, List.filter_cons_of_pos,
          List.filter_nil, List.length_singleton, List.replicate_one,
          SendSession.clearWriteBuffer, submitted]
        omega
  · by_cases free : sends.pair = none
    · simp [waiting, free, Apart, coherent.emptied free]
    · simp [waiting, free, Apart]

theorem booked_runHandler (coherent : sends.Coherent) {index : Nat} {handler : SendHandler}
    (found : sends.session.ioQueue[index]? = some handler) :
    Booked sends { sends with
        session := SendSession.runHandler .udpServer
          { sends.session with ioQueue := sends.session.ioQueue.eraseIdx index } handler }
      [] [] := by
  obtain ⟨bound, rfl⟩ := List.getElem?_eq_some_iff.mp found
  refine ⟨?_, ?_, by simp, fun other => ?_⟩
  · cases sends.session.ioQueue[index] <;> exact ⟨coherent.connected, coherent.emptied⟩
  · simp
  · have moved :=
      ((List.getElem_cons_eraseIdx_perm bound).filterMap SendHandler.data).count_eq other
    have submitted : ∀ data, (sends.session.submitted ++ [data]).count other =
        sends.session.submitted.count other + [data].count other := fun _ => List.count_append
    cases kind : sends.session.ioQueue[index] with
    | write outgoing =>
      simp only [kind, List.filterMap_cons, SendHandler.data] at moved
      rw [← List.singleton_append, List.count_append] at moved
      simp only [handled_count, waiting, SendSession.runHandler, reduceCtorEq, if_false,
        SendSession.asyncWrite, submitted, List.length_nil, List.replicate_zero, List.count_nil]
      omega
    | close =>
      simp only [kind, List.filterMap_cons, SendHandler.data] at moved
      simp only [handled_count, waiting, SendSession.runHandler, SendSession.closed,
        List.length_nil, List.replicate_zero, List.count_nil]
      omega

theorem booked_step {next : UdpSends} {action : UdpSendsAction} (coherent : sends.Coherent)
    (stepped : sends.step action = some next) :
    ∃ lost asked, Booked sends next lost asked ∧ (lost = [] ↔ sends.Apart action) := by
  cases action with
  | setWriteBuffer data =>
    simp only [step, Option.ite_none_right_eq_some, Option.map_eq_some_iff] at stepped
    obtain ⟨free, session, written, rfl⟩ := stepped
    obtain ⟨other, found, lost, booked, apart⟩ := booked_setWriteBuffer coherent data free
    rw [written, Option.some.injEq] at found
    subst found
    exact ⟨lost, [data], booked, apart⟩
  | doWrite =>
    simp only [step, Option.ite_none_left_eq_some, Option.some.injEq] at stepped
    obtain ⟨busy, rfl⟩ := stepped
    exact ⟨[], [], booked_doWrite coherent busy, by simp [Apart]⟩
  | doWriteImmediately data =>
    cases stepped
    obtain ⟨lost, booked, apart⟩ := booked_doWriteImmediately coherent data
    exact ⟨lost, [data], booked, apart⟩
  | runHandler index =>
    simp only [step, SendSession.step, Option.map_map, Option.map_eq_some_iff] at stepped
    obtain ⟨handler, found, rfl⟩ := stepped
    exact ⟨[], [], booked_runHandler coherent found, by simp [Apart]⟩

def surplus (sends : UdpSends) : Int := sends.handled.count [] - sends.passed.count []

theorem surplus_booked {next : UdpSends} {lost asked : List (List UInt8)}
    (booked : Booked sends next lost asked) : next.surplus = sends.surplus + lost.length := by
  have absent : lost.count [] = 0 :=
    List.count_eq_zero.mpr fun listed => booked.bytes [] listed rfl
  have counted := booked.handled []
  rw [absent, List.count_replicate_self] at counted
  have passed := congrArg (List.count []) booked.passed
  rw [List.count_append] at passed
  unfold surplus
  omega

/-- Every datagram is sent exactly once if and only if the calls of worker and io thread stay apart.
-/
theorem sent_once_iff_apart {sendSize : UInt32} {fresh : Nat → UInt8}
    {actions : List UdpSendsAction} {finish : UdpSends}
    (ran : run step (opened sendSize fresh) actions = some finish) (idle : finish.Idle) :
    finish.session.submitted.Perm finish.passed ↔
      Throughout step Apart (opened sendSize fresh) actions := by
  have initial : (opened sendSize fresh).Coherent := ⟨rfl, fun _ => SessionBuffer.init_content _ _⟩
  have supported : ∀ (sends : UdpSends) (action : UdpSendsAction) (next : UdpSends),
      sends.Coherent → sends.step action = some next → next.Coherent := by
    intro sends action next coherent stepped
    obtain ⟨lost, asked, booked, -⟩ := booked_step coherent stepped
    exact booked.coherent
  have settled : finish.handled = finish.session.submitted := by
    simp [handled, waiting, idle.1, idle.2]
  constructor
  · intro sent
    have rises : ∀ (sends : UdpSends) (action : UdpSendsAction) (next : UdpSends),
        sends.Coherent → sends.step action = some next → sends.surplus ≤ next.surplus ∧
          (next.surplus ≤ sends.surplus → sends.Apart action) := by
      intro sends action next coherent stepped
      obtain ⟨lost, asked, booked, apart⟩ := booked_step coherent stepped
      have raised := surplus_booked booked
      refine ⟨by omega, fun level => apart.mp ?_⟩
      exact List.eq_nil_of_length_eq_zero (by omega)
    have level : finish.surplus = 0 := by
      rw [surplus, settled, sent.count_eq, Int.sub_self]
    exact throughout_of_level supported rises initial ran (Int.le_of_eq level)
  · intro kept
    have invariant : finish.Coherent ∧ finish.handled.Perm finish.passed := by
      refine run_invariant Apart
        (fun sends => sends.Coherent ∧ sends.handled.Perm sends.passed) ?_ ?_ kept ran
      · intro sends action next held apart stepped
        obtain ⟨lost, asked, booked, none⟩ := booked_step held.1 stepped
        rw [none.mpr apart] at booked
        refine ⟨booked.coherent, List.perm_iff_count.mpr fun data => ?_⟩
        have counted := booked.handled data
        have before := held.2.count_eq data
        simp only [List.count_nil, List.length_nil, List.replicate_zero] at counted
        rw [booked.passed, List.count_append]
        omega
      · exact ⟨initial, List.Perm.refl _⟩
    rw [← settled]
    exact invariant.2

theorem sent_once_one_after_the_other :
    ((run step (opened 8 fun _ => 0) [.setWriteBuffer [1], .doWrite, .doWriteImmediately [2],
      .setWriteBuffer [3], .runHandler 0, .doWrite, .runHandler 0]).get
        (by decide)).session.submitted.Perm
      ((run step (opened 8 fun _ => 0) [.setWriteBuffer [1], .doWrite, .doWriteImmediately [2],
        .setWriteBuffer [3], .runHandler 0, .doWrite, .runHandler 0]).get (by decide)).passed :=
  (sent_once_iff_apart (Option.some_get (by decide)).symm (by decide)).mpr (by decide)

/-- The worker's byte is never sent, an empty datagram is. -/
theorem immediate_send_cancels_buffered :
    ∃ finish, run step (opened 8 fun _ => 0) [.setWriteBuffer [1], .doWriteImmediately [2],
        .doWrite, .runHandler 0] = some finish ∧
      finish.Idle ∧ finish.passed = [[1], [2]] ∧ finish.session.submitted = [[2], []] ∧
      ¬finish.session.submitted.Perm finish.passed :=
  ⟨_, rfl, by decide, rfl, by decide, by decide⟩

end UdpSends

end PssAsio
