import PssAsio.FrameTimerCore

/-!
`delete_frame_message_timer` and the timers it answers for.
-/

namespace PssAsio

open TransitionRuns Function

namespace FrameTimers

variable {Message Func : Type}

variable (timers : FrameTimers Message Func)

/-- No message that a deletion has answered for was posted. -/
def Withheld : Prop :=
  ∀ timer ∈ timers.answered, timer ∉ timers.posted
  deriving Decidable

def Drained : Prop :=
  ∀ delayed ∈ timers.table, delayed.stage = .finished
  deriving Decidable

/-- A deletion that finds an entry finds its timer queued, and no other message with the id. -/
def Cancellable : FrameAction Message Func → Prop
  | .deleteFrameMessageTimer timerId =>
      ∀ timer ∈ timers.plginTimerList timerId,
        (∀ delayed ∈ timers.table[timer]?, delayed.Armed) ∧
          ∀ other ∈ timers.concerned timerId, other = timer
  | _ => True

instance (action : FrameAction Message Func) : Decidable (timers.Cancellable action) := by
  unfold Cancellable
  split <;> infer_instance

variable {timer : Nat} {timers next : FrameTimers Message Func} {action : FrameAction Message Func}
  {delayed : DelayedMessage Message Func}

theorem mem_concerned {timerId : UInt64} : timer ∈ timers.concerned timerId ↔
      ∃ delayed, timers.table[timer]? = some delayed ∧ delayed.timerId = timerId ∧
        delayed.Live ∧ delayed.recording = false := by
  simp only [concerned, List.mem_filter, List.mem_range]
  constructor
  · rintro ⟨-, chosen⟩
    split at chosen
    · rename_i delayed held
      exact ⟨delayed, held, of_decide_eq_true chosen⟩
    · cases chosen
  · rintro ⟨delayed, held, chosen⟩
    refine ⟨(List.getElem?_eq_some_iff.mp held).1, ?_⟩
    rw [held]
    exact decide_eq_true chosen

inductive Moves (timers : FrameTimers Message Func) (action : FrameAction Message Func)
    (timer : Nat) (delayed : DelayedMessage Message Func) : DelayedMessage Message Func → Prop where
  | same : Moves timers action timer delayed delayed
  | written : action = .record timer → delayed.recording = true →
      Moves timers action timer delayed { delayed with recording := false }
  | executed : delayed.stage = .queued → Moves timers action timer delayed delayed.executed
  | erased : delayed.stage = .taken →
      Moves timers action timer delayed { delayed with stage := .erased }
  | finished : action = .postTask timer → delayed.stage = .erased →
      Moves timers action timer delayed { delayed with stage := .finished }
  | cancelled {timerId : UInt64} : action = .deleteFrameMessageTimer timerId →
      timers.plginTimerList timerId = some timer →
      Moves timers action timer delayed delayed.cancelled

theorem moves_set {changedTimer : Nat} {before changed : DelayedMessage Message Func}
    (there : timers.table[changedTimer]? = some before)
    (moves : Moves timers action changedTimer before changed)
    (held : timers.table[timer]? = some delayed) :
    ∃ after, (timers.table.set changedTimer changed)[timer]? = some after ∧
      Moves timers action timer delayed after := by
  by_cases same : changedTimer = timer
  · subst same
    obtain rfl := Option.some.inj (there.symm.trans held)
    exact ⟨changed, List.getElem?_set_self (List.getElem?_eq_some_iff.mp held).1, moves⟩
  · exact ⟨delayed, (List.getElem?_set_ne same).trans held, .same⟩

section Steps

variable (stepped : timers.step action = some next)

include stepped

theorem moves_of_step (held : timers.table[timer]? = some delayed) :
    ∃ after, next.table[timer]? = some after ∧ Moves timers action timer delayed after := by
  cases stepped_of_step stepped with
  | call _ _ _ | miss _ => exact ⟨delayed, held, .same⟩
  | add _ =>
    refine ⟨delayed, ?_, .same⟩
    have inside := (List.getElem?_eq_some_iff.mp held).1
    rw [addTimer_lookup, if_neg (by omega)]
    exact held
  | record there recording => exact moves_set there (.written rfl recording) held
  | execute there queued _ => exact moves_set there (.executed queued) held
  | erase there taken => exact moves_set there (.erased taken) held
  | finish there erased => exact moves_set there (.finished rfl erased) held
  | @delete timerId found entry =>
    by_cases same : found = timer
    · subst same
      exact ⟨delayed.cancelled, by simp [withdrawn, held], .cancelled rfl entry⟩
    · exact ⟨delayed, by simp [withdrawn, same, held], .same⟩

theorem entry_of_step {timerId : UInt64} (entry : next.plginTimerList timerId = some timer) :
    timers.plginTimerList timerId = some timer ∨
      ∃ delayed, action = .record timer ∧ timers.table[timer]? = some delayed ∧
        delayed.timerId = timerId ∧ delayed.recording = true := by
  have kept : ∀ {other : UInt64},
      update timers.plginTimerList other none timerId = some timer →
      timers.plginTimerList timerId = some timer := by
    intro other found
    by_cases same : timerId = other
    · subst same
      simp at found
    · rwa [update_of_ne same] at found
  cases stepped_of_step stepped with
  | call _ _ _ | add _ | execute _ _ _ | finish _ _ | miss _ => exact .inl entry
  | @record written delayed held recording =>
    by_cases same : timerId = delayed.timerId
    · subst same
      obtain rfl : written = timer := by simpa [recorded] using entry
      exact .inr ⟨delayed, rfl, held, rfl, recording⟩
    · exact .inl (by simpa only [recorded, update_of_ne same] using entry)
  | erase _ _ => exact .inl (kept entry)
  | delete _ => exact .inl (kept entry)

theorem posted_of_step (timer : Nat) :
    timer ∈ next.posted ↔ timer ∈ timers.posted ∨ action = .postTask timer := by
  cases stepped_of_step stepped with
  | call _ call _ =>
    refine ⟨.inl, ?_⟩
    rintro (before | rfl)
    · exact before
    · cases call
  | add asked =>
    refine ⟨.inl, ?_⟩
    rintro (before | rfl)
    · exact before
    · cases asked
  | record _ _ => simp [recorded]
  | execute _ _ _ => simp
  | erase _ _ => simp [erased]
  | finish _ _ => simp [finished, eq_comm]
  | delete _ => simp [withdrawn]
  | miss _ => simp

end Steps

section Moves

variable {delayed after : DelayedMessage Message Func}
  (moves : Moves timers action timer delayed after)

include moves

theorem Moves.timerId : after.timerId = delayed.timerId := by
  cases moves with
  | same | written _ _ | executed _ | erased _ | finished _ _ => rfl
  | cancelled _ _ => exact delayed.cancelled_timerId

theorem Moves.running (running : delayed.Running) : after.Running ∨ action = .postTask timer := by
  cases moves with
  | same => exact .inl running
  | written _ _ => exact .inl running
  | executed queued => simp [DelayedMessage.Running, queued] at running
  | erased _ => exact .inl (.inr rfl)
  | finished posts _ => exact .inr posts
  | cancelled _ _ => exact .inl (by simpa [DelayedMessage.Running] using running)

theorem Moves.live (sane : delayed.Sane)
    (unlisted : ∀ timerId, action = .deleteFrameMessageTimer timerId →
      timers.plginTimerList timerId ≠ some timer)
    (live : delayed.Live) : after.Live ∨ action = .postTask timer := by
  cases moves with
  | same => exact .inl live
  | written _ _ => exact .inl live
  | executed queued =>
    obtain ⟨-, callback⟩ : delayed.Armed := by
      simpa [DelayedMessage.Live, DelayedMessage.Pending, queued] using live
    have stage := sane.executed_stage
    rw [callback] at stage
    exact .inl (.inl (.inr stage))
  | erased _ => exact .inl (.inr rfl)
  | finished posts _ => exact .inr posts
  | cancelled deletes entry => exact absurd entry (unlisted _ deletes)

theorem Moves.not_live (sane : delayed.Sane) (ended : ¬delayed.Live) : ¬after.Live := by
  cases moves with
  | same => exact ended
  | written _ _ => exact ended
  | executed queued =>
    have gone : delayed.timer.callback = false := by
      simpa [DelayedMessage.Live, DelayedMessage.Pending, DelayedMessage.Armed, queued] using ended
    have stage := sane.executed_stage
    rw [gone] at stage
    simp [DelayedMessage.Live, DelayedMessage.Pending, DelayedMessage.Armed, stage]
  | erased taken => exact absurd (.inl (.inr taken)) ended
  | finished _ erased => exact absurd (.inr erased) ended
  | cancelled _ _ =>
    have gone := sane.cancelled_callback
    simp only [DelayedMessage.Live, DelayedMessage.Pending, not_or] at ended
    simp [DelayedMessage.Live, DelayedMessage.Pending, DelayedMessage.Armed, gone, ended.1.2,
      ended.2]

theorem Moves.recording (recording : after.recording = true) : delayed.recording = true := by
  cases moves with
  | same => exact recording
  | written _ before => exact before
  | executed _ | erased _ | finished _ _ => exact recording
  | cancelled _ _ => simpa using recording

theorem Moves.finished_stays (finished : delayed.stage = .finished) : after.stage = .finished := by
  cases moves with
  | same => exact finished
  | written _ _ => exact finished
  | executed queued => simp [queued] at finished
  | erased taken => simp [taken] at finished
  | finished _ _ => rfl
  | cancelled _ _ => simpa using finished

end Moves

theorem origin_of_step (stepped : timers.step action = some next)
    {after : DelayedMessage Message Func} (there : next.table[timer]? = some after) :
    (∃ delayed, timers.table[timer]? = some delayed ∧ Moves timers action timer delayed after) ∨
      ∃ frame, after = .added frame := by
  cases held : timers.table[timer]? with
  | some delayed =>
    obtain ⟨found, same, moves⟩ := moves_of_step stepped held
    obtain rfl := Option.some.inj (there.symm.trans same)
    exact .inl ⟨delayed, rfl, moves⟩
  | none =>
    have bound := (List.getElem?_eq_some_iff.mp there).1
    rw [List.getElem?_eq_none_iff] at held
    cases stepped_of_step stepped with
    | add _ =>
      rw [addTimer_lookup] at there
      split at there
      · exact .inr ⟨_, (Option.some.inj there).symm⟩
      · rw [List.getElem?_eq_none held] at there
        cases there
    | call _ _ _ | miss _ => exact absurd held (Nat.not_le_of_lt bound)
    | record _ _ => exact absurd held (Nat.not_le_of_lt (by simpa [recorded] using bound))
    | execute _ _ _ => exact absurd held (Nat.not_le_of_lt (by simpa using bound))
    | erase _ _ => exact absurd held (Nat.not_le_of_lt (by simpa [erased] using bound))
    | finish _ _ => exact absurd held (Nat.not_le_of_lt (by simpa [finished] using bound))
    | delete _ => exact absurd held (Nat.not_le_of_lt (by simpa [withdrawn] using bound))

structure Traced (timers : FrameTimers Message Func) : Prop where
  formed : WellFormed timers
  entries : ∀ timerId timer, timers.plginTimerList timerId = some timer →
    ∃ delayed, timers.table[timer]? = some delayed ∧ delayed.timerId = timerId ∧
      delayed.recording = false ∧ (delayed.Live ∨ timer ∈ timers.posted)
  writing : ∀ (timer : Nat) (delayed : DelayedMessage Message Func),
    timers.table[timer]? = some delayed → delayed.recording = true →
    delayed.Live ∨ timer ∈ timers.posted
  ended : ∀ timer ∈ timers.posted, ∃ delayed, timers.table[timer]? = some delayed ∧
    delayed.stage = .finished

theorem idle_traced (pluginWorkThreadList : UInt32 → Option UInt16) :
    Traced (idle pluginWorkThreadList : FrameTimers Message Func) :=
  ⟨idle_wellFormed pluginWorkThreadList, by simp [idle], by simp [idle], by simp [idle]⟩

theorem Traced.unlisted (traced : Traced timers) (held : timers.table[timer]? = some delayed)
    (recording : delayed.recording = true) (timerId : UInt64) :
    timers.plginTimerList timerId ≠ some timer := by
  intro entry
  obtain ⟨found, there, -, written, -⟩ := traced.entries timerId timer entry
  obtain rfl := Option.some.inj (held.symm.trans there)
  rw [recording] at written
  cases written

theorem owed_of_step (formed : WellFormed timers) (stepped : timers.step action = some next)
    {after : DelayedMessage Message Func} (held : timers.table[timer]? = some delayed)
    (moves : Moves timers action timer delayed after) (unlisted : ∀ timerId, action =
      .deleteFrameMessageTimer timerId → timers.plginTimerList timerId ≠ some timer)
    (owed : delayed.Live ∨ timer ∈ timers.posted) : after.Live ∨ timer ∈ next.posted := by
  rw [posted_of_step stepped timer]
  obtain live | posted := owed
  · obtain live | posts := moves.live (formed.sane timer delayed held) unlisted live
    · exact .inl live
    · exact .inr (.inr posts)
  · exact .inr (.inl posted)

theorem step_traced (traced : Traced timers) (stepped : timers.step action = some next) :
    Traced next where
  formed := step_wellFormed traced.formed stepped
  entries := by
    intro timerId timer entry
    obtain before | ⟨delayed, rfl, held, rfl, recording⟩ := entry_of_step stepped entry
    · obtain ⟨delayed, held, rfl, written, owed⟩ := traced.entries timerId timer before
      obtain ⟨after, there, moves⟩ := moves_of_step stepped held
      refine ⟨after, there, moves.timerId, ?_, ?_⟩
      · by_contra recording
        rw [moves.recording (by simpa using recording)] at written
        cases written
      · refine owed_of_step traced.formed stepped held moves ?_ owed
        -- the entry that a deletion finds is gone after it
        rintro timerId rfl listed
        obtain ⟨found, same, rfl, -, -⟩ := traced.entries timerId timer listed
        obtain rfl := Option.some.inj (held.symm.trans same)
        simp only [step, deleteFrameMessageTimer, listed, Option.some.injEq] at stepped
        subst stepped
        simp [withdrawn] at entry
    · simp only [step, held, if_pos recording, Option.some.injEq] at stepped
      subst stepped
      refine ⟨{ delayed with recording := false }, ?_, rfl, rfl,
        traced.writing timer delayed held recording⟩
      exact List.getElem?_set_self (List.getElem?_eq_some_iff.mp held).1
  writing := by
    intro timer after there recording
    obtain ⟨delayed, held, moves⟩ | ⟨frame, rfl⟩ := origin_of_step stepped there
    · have before := moves.recording recording
      exact owed_of_step traced.formed stepped held moves
        (fun timerId _ => traced.unlisted held before timerId)
        (traced.writing timer delayed held before)
    · exact .inl (.inl (.inl ⟨rfl, rfl⟩))
  ended := by
    intro timer posted
    obtain before | rfl := (posted_of_step stepped timer).mp posted
    · obtain ⟨delayed, held, finished⟩ := traced.ended timer before
      obtain ⟨after, there, moves⟩ := moves_of_step stepped held
      exact ⟨after, there, moves.finished_stays finished⟩
    · cases stepped_of_step stepped with
      | call _ call _ => cases call
      | add asked => cases asked
      | @finish _ delayed held _ =>
        exact ⟨{ delayed with stage := .finished },
          List.getElem?_set_self (List.getElem?_eq_some_iff.mp held).1, rfl⟩

def Committed (timers : FrameTimers Message Func) (timer : Nat) : Prop :=
  timer ∈ timers.posted ∨ ∃ delayed, timers.table[timer]? = some delayed ∧
    (delayed.Running ∨ delayed.Armed ∧ delayed.recording = false ∧
      timers.plginTimerList delayed.timerId ≠ some timer)

theorem step_committed (traced : Traced timers) (stepped : timers.step action = some next)
    (committed : timers.Committed timer) : next.Committed timer := by
  have posts := posted_of_step stepped timer
  obtain posted | ⟨delayed, held, committed⟩ := committed
  · exact .inl (posts.mpr (.inl posted))
  · obtain ⟨after, there, moves⟩ := moves_of_step stepped held
    obtain running | ⟨armed, written, unlisted⟩ := committed
    · obtain running | posting := moves.running running
      · exact .inr ⟨after, there, .inl running⟩
      · exact .inl (posts.mpr (.inr posting))
    · have alone : ∀ timerId, timers.plginTimerList timerId ≠ some timer := by
        intro timerId entry
        obtain ⟨found, same, rfl, -, -⟩ := traced.entries timerId timer entry
        obtain rfl := Option.some.inj (held.symm.trans same)
        exact unlisted entry
      obtain live | posting := moves.live (traced.formed.sane timer delayed held)
        (fun timerId _ => alone timerId) (.inl (.inl armed))
      · obtain (armed | taken) | erased := live
        · refine .inr ⟨after, there, .inr ⟨armed, ?_, fun entry => ?_⟩⟩
          · by_contra recording
            rw [moves.recording (by simpa using recording)] at written
            cases written
          · obtain before | ⟨other, -, same, -, recording⟩ := entry_of_step stepped entry
            · exact alone _ before
            · obtain rfl := Option.some.inj (held.symm.trans same)
              rw [recording] at written
              cases written
        · exact .inr ⟨after, there, .inl (.inl taken)⟩
        · exact .inr ⟨after, there, .inl (.inr erased)⟩
      · exact .inl (posts.mpr (.inr posting))

theorem posted_of_committed (drained : timers.Drained) (committed : timers.Committed timer) :
    timer ∈ timers.posted := by
  obtain posted | ⟨delayed, held, committed⟩ := committed
  · exact posted
  · have finished := drained delayed (List.mem_of_getElem? held)
    simp [DelayedMessage.Running, DelayedMessage.Armed, finished] at committed

theorem answered_of_step (stepped : timers.step action = some next) :
    timer ∈ next.answered ↔ timer ∈ timers.answered ∨
      ∃ timerId found, action = .deleteFrameMessageTimer timerId ∧
        timers.plginTimerList timerId = some found ∧
        (timer = found ∨ timer ∈ timers.concerned timerId) := by
  cases stepped_of_step stepped with
  | call _ call _ =>
    refine ⟨.inl, ?_⟩
    rintro (before | ⟨timerId, found, rfl, -⟩)
    · exact before
    · cases call
  | add asked =>
    refine ⟨.inl, ?_⟩
    rintro (before | ⟨timerId, found, rfl, -⟩)
    · exact before
    · cases asked
  | record _ _ => simp [recorded]
  | execute _ _ _ => simp
  | erase _ _ => simp [erased]
  | finish _ _ => simp [finished]
  | @delete timerId found entry => simp [withdrawn, entry]
  | miss none => simp [none]

theorem cancellable_of_withheld {finish : FrameTimers Message Func}
    {rest : List (FrameAction Message Func)} (traced : Traced timers)
    (stepped : timers.step action = some next) (ran : run step next rest = some finish)
    (drained : finish.Drained) (withheld : finish.Withheld) : timers.Cancellable action := by
  have refuted : ∀ timer, timer ∈ next.answered → ¬timers.Committed timer := by
    intro timer answered committed
    have kept := run_preserves
      (fun state : FrameTimers Message Func =>
        Traced state ∧ timer ∈ state.answered ∧ state.Committed timer)
      (fun state other after held moved => ⟨step_traced held.1 moved,
        (answered_of_step moved).mpr (.inl held.2.1), step_committed held.1 moved held.2.2⟩)
      ⟨step_traced traced stepped, answered, step_committed traced stepped committed⟩ ran
    exact withheld timer kept.2.1 (posted_of_committed drained kept.2.2)
  cases action with
  | deleteFrameMessageTimer timerId =>
    intro timer entry
    obtain ⟨delayed, held, rfl, written, owed⟩ := traced.entries timerId timer entry
    refine ⟨fun found there => ?_, fun other concerned => ?_⟩
    · obtain rfl := Option.some.inj (held.symm.trans there)
      by_contra unarmed
      refine refuted timer ((answered_of_step stepped).mpr
        (.inr ⟨_, timer, rfl, entry, .inl rfl⟩)) ?_
      obtain ((armed | taken) | erased) | posted := owed
      · exact absurd armed unarmed
      · exact .inr ⟨delayed, held, .inl (.inl taken)⟩
      · exact .inr ⟨delayed, held, .inl (.inr erased)⟩
      · exact .inl posted
    · by_contra apart
      refine refuted other ((answered_of_step stepped).mpr
        (.inr ⟨_, timer, rfl, entry, .inr concerned⟩)) ?_
      obtain ⟨found, there, same, live, left⟩ := mem_concerned.mp concerned
      obtain (armed | taken) | erased := live
      · refine .inr ⟨found, there, .inr ⟨armed, left, ?_⟩⟩
        rw [same, entry]
        exact fun listed => apart (Option.some.inj listed).symm
      · exact .inr ⟨found, there, .inl (.inl taken)⟩
      · exact .inr ⟨found, there, .inl (.inr erased)⟩
  | doFrameMessage tagThreadId message delayTimer | doWorkThreadLogic tagThreadId delayTimer func
  | record timer | execute timer | eraseTimer timer | postTask timer => trivial

def Settled (timers : FrameTimers Message Func) : Prop :=
  ∀ timer ∈ timers.answered, timer ∉ timers.posted ∧
    ∃ delayed, timers.table[timer]? = some delayed ∧ ¬delayed.Live

theorem step_settled (traced : Traced timers) (settled : timers.Settled)
    (cancellable : timers.Cancellable action) (stepped : timers.step action = some next) :
    next.Settled := by
  intro timer answered
  obtain before | ⟨timerId, found, rfl, entry, concerned⟩ := (answered_of_step stepped).mp answered
  · obtain ⟨unposted, delayed, held, ended⟩ := settled timer before
    obtain ⟨after, there, moves⟩ := moves_of_step stepped held
    refine ⟨?_, after, there, moves.not_live (traced.formed.sane timer delayed held) ended⟩
    rw [posted_of_step stepped]
    rintro (posted | rfl)
    · exact unposted posted
    · cases stepped_of_step stepped with
      | call _ call _ => cases call
      | add asked => cases asked
      | finish same erased =>
        obtain rfl := Option.some.inj (held.symm.trans same)
        exact ended (.inr erased)
  · obtain ⟨armed, alone⟩ := cancellable found entry
    obtain rfl : timer = found := concerned.elim id (alone timer)
    obtain ⟨delayed, held, -, -, -⟩ := traced.entries timerId timer entry
    have queued := armed delayed held
    have sane := traced.formed.sane timer delayed held
    simp only [step, deleteFrameMessageTimer, entry, Option.some.injEq] at stepped
    subst stepped
    refine ⟨fun posted => ?_, delayed.cancelled, by simp [withdrawn, held], ?_⟩
    · obtain ⟨other, there, finished⟩ := traced.ended timer posted
      obtain rfl := Option.some.inj (held.symm.trans there)
      simp [DelayedMessage.Armed, finished] at queued
    · simp [DelayedMessage.Live, DelayedMessage.Pending, DelayedMessage.Armed,
        sane.cancelled_callback, queued.1]

theorem throughout_cancellable {start finish : FrameTimers Message Func}
    {actions : List (FrameAction Message Func)} (traced : Traced start)
    (ran : run step start actions = some finish) (drained : finish.Drained)
    (withheld : finish.Withheld) : Throughout step Cancellable start actions := by
  induction actions generalizing start with
  | nil => trivial
  | cons action rest ih =>
    obtain ⟨next, stepped, later⟩ := run_cons_eq_some.mp ran
    refine ⟨cancellable_of_withheld traced stepped later drained withheld, ?_⟩
    rw [stepped]
    exact ih (step_traced traced stepped) later

/-- If every deletion comes in time for the one message, nothing answered for is posted; after the
threads are done also the other way round. -/
theorem withheld_iff_cancellable {pluginWorkThreadList : UInt32 → Option UInt16}
    {actions : List (FrameAction Message Func)} {finish : FrameTimers Message Func}
    (ran : run step (idle pluginWorkThreadList) actions = some finish) :
    (Throughout step Cancellable (idle pluginWorkThreadList) actions → finish.Withheld) ∧
      (finish.Drained →
        (finish.Withheld ↔ Throughout step Cancellable (idle pluginWorkThreadList) actions)) := by
  have traced : Traced (idle pluginWorkThreadList : FrameTimers Message Func) :=
    idle_traced pluginWorkThreadList
  have withheld (cancellable : Throughout step Cancellable (idle pluginWorkThreadList) actions) :
      finish.Withheld := by
    have settled := run_invariant Cancellable (fun timers => Traced timers ∧ timers.Settled)
      (fun timers action next held permitted stepped =>
        ⟨step_traced held.1 stepped, step_settled held.1 held.2 permitted stepped⟩)
      ⟨traced, by simp [Settled, idle]⟩ cancellable ran
    exact fun timer answered => (settled.2 timer answered).1
  exact ⟨withheld, fun drained => ⟨throughout_cancellable traced ran drained, withheld⟩⟩

theorem early_deletion_withheld :
    ((run step (idle (update (fun _ => none) 9 (some 9)))
      ([.doFrameMessage 9 0 ⟨1, 5⟩, .record 0, .deleteFrameMessageTimer 5, .execute 0] :
        List (FrameAction Nat Nat))).get (by decide)).Withheld :=
  (withheld_iff_cancellable (Option.some_get (by decide)).symm).1 (by decide)

/-- The deletion falls between the taking of the callback and the erasure. -/
theorem late_deletion_delivered :
    let timers : Option (FrameTimers Nat Nat) :=
      run step (idle (update (fun _ => none) 9 (some 9)))
        [.doFrameMessage 9 0 ⟨1, 5⟩, .record 0, .execute 0]
    (timers.map fun timers => (timers.deleteFrameMessageTimer 5).2) = some true ∧
      ((timers.bind fun timers =>
        run step timers [.deleteFrameMessageTimer 5, .eraseTimer 0, .postTask 0]).map
          fun finish => (finish.posts, decide finish.Drained, decide finish.Withheld)) =
        some ([(9, .moduleLogic 9 0)], true, false) := by
  decide

end FrameTimers

end PssAsio
