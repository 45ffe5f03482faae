import PssAsio.FrameTimerCore

/-!
When `plgin_timer_list_` matches the pending delayed messages.
-/

namespace PssAsio

open TransitionRuns Function

namespace FrameTimers

variable {Message Func : Type}

variable (timers : FrameTimers Message Func)

def PendingAs (timerId : UInt64) (timer : Nat) : Prop :=
  ∃ delayed, timers.table[timer]? = some delayed ∧ delayed.timerId = timerId ∧ delayed.Pending

def Waiting (timerId : UInt64) (timer : Nat) : Prop :=
  ∃ delayed, timers.table[timer]? = some delayed ∧ delayed.timerId = timerId ∧ delayed.Pending ∧
    delayed.recording = false

structure Paired : Prop where
  listed : ∀ timerId, timerId ≠ 0 →
    ((timers.plginTimerList timerId).isSome ↔ ∃! timer, timers.Waiting timerId timer)
  refers : ∀ timerId timer, timers.plginTimerList timerId = some timer →
    timers.Waiting timerId timer
  single : ∀ timerId, timerId ≠ 0 → ∀ first second, timers.PendingAs timerId first →
    timers.PendingAs timerId second → first = second

variable (action : FrameAction Message Func)

def RefusesPending : Prop :=
  ∀ frame ∈ timers.requested action, frame.delayTimer.timerId ≠ 0 →
    (∃ delayed ∈ timers.table, delayed.timerId = frame.delayTimer.timerId ∧ delayed.Pending) →
    ∀ next ∈ timers.step action, next.table.length = timers.table.length
  deriving Decidable

/-- No call has a pending id, and no deletion falls between the taking of a callback and its
erasure. -/
def Orderly : Prop :=
  (∀ frame ∈ timers.requested action, frame.delayTimer.timerId ≠ 0 →
    ¬∃ delayed ∈ timers.table, delayed.timerId = frame.delayTimer.timerId ∧ delayed.Pending) ∧
  match action with
  | .record timer =>
      ∀ delayed ∈ timers.table[timer]?, delayed.recording = true → delayed.Pending
  | .deleteFrameMessageTimer timerId =>
      ∀ timer ∈ timers.plginTimerList timerId, ∀ delayed ∈ timers.table[timer]?,
        delayed.stage ≠ .taken
  | _ => True

variable {timer : Nat} {timerId : UInt64} {timers next : FrameTimers Message Func}
  {action : FrameAction Message Func}

theorem Waiting.pendingAs (waiting : timers.Waiting timerId timer) :
    timers.PendingAs timerId timer := by
  obtain ⟨delayed, held, named, pending, -⟩ := waiting
  exact ⟨delayed, held, named, pending⟩

theorem PendingAs.delayed (pending : timers.PendingAs timerId timer) :
    ∃ delayed ∈ timers.table, delayed.timerId = timerId ∧ delayed.Pending := by
  obtain ⟨delayed, held, found⟩ := pending
  exact ⟨delayed, List.mem_of_getElem? held, found⟩

theorem paired_iff (formed : WellFormed timers) : Paired timers ↔
      (∀ timerId, timerId ≠ 0 → ∀ first second, timers.PendingAs timerId first →
        timers.PendingAs timerId second → first = second) ∧
      ∀ timerId, timerId ≠ 0 → ∀ timer,
        (timers.plginTimerList timerId = some timer ↔ timers.Waiting timerId timer) := by
  constructor
  · rintro ⟨listed, refers, single⟩
    refine ⟨single, fun timerId named timer => ⟨refers timerId timer, fun waiting => ?_⟩⟩
    have unique : ∃! other, timers.Waiting timerId other :=
      ⟨timer, waiting, fun other found =>
        single timerId named other timer found.pendingAs waiting.pendingAs⟩
    obtain ⟨other, entry⟩ := Option.isSome_iff_exists.mp ((listed timerId named).mpr unique)
    have same := single timerId named other timer (refers timerId other entry).pendingAs
      waiting.pendingAs
    rw [entry, same]
  · rintro ⟨single, entries⟩
    refine ⟨fun timerId named => ?_, fun timerId timer entry => ?_, single⟩
    · rw [Option.isSome_iff_exists]
      constructor
      · rintro ⟨timer, entry⟩
        have waiting := (entries timerId named timer).mp entry
        exact ⟨timer, waiting, fun other found =>
          single timerId named other timer found.pendingAs waiting.pendingAs⟩
      · rintro ⟨timer, waiting, -⟩
        exact ⟨timer, (entries timerId named timer).mpr waiting⟩
    · have named : timerId ≠ 0 := by
        rintro rfl
        rw [formed.unnamed] at entry
        cases entry
      exact (entries timerId named timer).mp entry

section Replaced

variable
  {delayed changed : DelayedMessage Message Func}

structure Replaced (timers next : FrameTimers Message Func) (timer : Nat)
    (delayed changed : DelayedMessage Message Func) : Prop where
  held : timers.table[timer]? = some delayed
  here : next.table[timer]? = some changed
  elsewhere : ∀ other, other ≠ timer → next.table[other]? = timers.table[other]?
  named : changed.timerId = delayed.timerId

theorem replaced_set (held : timers.table[timer]? = some delayed)
    (table : next.table = timers.table.set timer changed)
    (named : changed.timerId = delayed.timerId) : Replaced timers next timer delayed changed where
  held := held
  here := by rw [table, List.getElem?_set_self (List.getElem?_eq_some_iff.mp held).1]
  elsewhere := fun other apart => by rw [table, List.getElem?_set_ne (Ne.symm apart)]
  named := named

theorem replaced_cancelled (held : timers.table[timer]? = some delayed)
    (table : next.table = timers.table.modify timer DelayedMessage.cancelled) :
    Replaced timers next timer delayed delayed.cancelled where
  held := held
  here := by simp [table, held]
  elsewhere := fun other apart => by simp [table, Ne.symm apart]
  named := delayed.cancelled_timerId

variable (replaced : Replaced timers next timer delayed changed)

include replaced

theorem Replaced.pendingAs (timerId : UInt64) (other : Nat) :
    next.PendingAs timerId other ↔
      (other = timer ∧ delayed.timerId = timerId ∧ changed.Pending) ∨
      (other ≠ timer ∧ timers.PendingAs timerId other) := by
  by_cases same : other = timer
  · subst same
    simp [PendingAs, replaced.here, replaced.named]
  · simp [PendingAs, replaced.elsewhere other same, same]

theorem Replaced.pendingAs_same (pending : changed.Pending ↔ delayed.Pending) (timerId : UInt64)
    (other : Nat) : next.PendingAs timerId other ↔ timers.PendingAs timerId other := by
  rw [replaced.pendingAs, pending]
  by_cases same : other = timer
  · subst same
    simp [PendingAs, replaced.held]
  · simp [same]

theorem Replaced.waiting (timerId : UInt64) (other : Nat) :
    next.Waiting timerId other ↔
      (other = timer ∧ delayed.timerId = timerId ∧ changed.Pending ∧
        changed.recording = false) ∨
      (other ≠ timer ∧ timers.Waiting timerId other) := by
  by_cases same : other = timer
  · subst same
    simp [Waiting, replaced.here, replaced.named]
  · simp [Waiting, replaced.elsewhere other same, same]

end Replaced

theorem added_pending (frame : FrameTimer Message Func) : (DelayedMessage.added frame).Pending :=
  .inl ⟨rfl, rfl⟩

theorem addTimer_pendingAs (timers : FrameTimers Message Func) (frame : FrameTimer Message Func)
    (timerId : UInt64) (timer : Nat) :
    (timers.addTimer frame).PendingAs timerId timer ↔
      (timer = timers.table.length ∧ frame.delayTimer.timerId = timerId) ∨
      timers.PendingAs timerId timer := by
  unfold PendingAs
  rw [addTimer_lookup]
  split
  · rename_i last
    have outside : timers.table[timer]? = none := List.getElem?_eq_none (by omega)
    constructor
    · rintro ⟨delayed, same, named, -⟩
      cases same
      exact .inl ⟨last, named⟩
    · rintro (⟨-, named⟩ | ⟨delayed, held, -⟩)
      · exact ⟨_, rfl, named, added_pending frame⟩
      · rw [outside] at held
        cases held
  · rename_i other
    simp [other]

theorem addTimer_waiting (timers : FrameTimers Message Func) (frame : FrameTimer Message Func)
    (named : timerId ≠ 0) (timer : Nat) :
    (timers.addTimer frame).Waiting timerId timer ↔ timers.Waiting timerId timer := by
  unfold Waiting
  rw [addTimer_lookup]
  split
  · rename_i last
    have outside : timers.table[timer]? = none := List.getElem?_eq_none (by omega)
    constructor
    · rintro ⟨delayed, same, rfl, -, written⟩
      cases same
      have above : 0 < frame.delayTimer.timerId := UInt64.pos_iff_ne_zero.mpr named
      simp [DelayedMessage.added, above] at written
    · rintro ⟨delayed, held, -⟩
      rw [outside] at held
      cases held
  · rfl

theorem refusesPending_of_requested_none (none : timers.requested action = none) :
    timers.RefusesPending action := by
  intro frame asked
  rw [none] at asked
  cases asked

theorem orderly_of_requested_none (none : timers.requested action = none) :
    ∀ frame ∈ timers.requested action, frame.delayTimer.timerId ≠ 0 →
      ¬∃ delayed ∈ timers.table, delayed.timerId = frame.delayTimer.timerId ∧
        delayed.Pending := by
  intro frame asked
  rw [none] at asked
  cases asked

section Paired

variable (formed : WellFormed timers) (paired : Paired timers)

include formed paired

theorem paired_of_same (nextFormed : WellFormed next)
    (entries : next.plginTimerList = timers.plginTimerList)
    (pendingAs : ∀ timerId timer, next.PendingAs timerId timer ↔ timers.PendingAs timerId timer)
    (waiting : ∀ timerId timer, next.Waiting timerId timer ↔ timers.Waiting timerId timer) :
    Paired next := by
  rw [paired_iff nextFormed]
  rw [paired_iff formed] at paired
  simpa only [entries, pendingAs, waiting] using paired

theorem paired_of_replaced {delayed changed : DelayedMessage Message Func}
    (nextFormed : WellFormed next) (replaced : Replaced timers next timer delayed changed)
    (entries : next.plginTimerList = timers.plginTimerList)
    (pending : changed.Pending ↔ delayed.Pending)
    (recording : changed.recording = delayed.recording) : Paired next := by
  refine paired_of_same formed paired nextFormed entries (replaced.pendingAs_same pending) ?_
  intro timerId other
  rw [replaced.waiting, pending, recording]
  by_cases same : other = timer
  · subst same
    simp [Waiting, replaced.held]
  · simp [same]

theorem paired_of_withdrawn {delayed changed : DelayedMessage Message Func}
    (nextFormed : WellFormed next) (replaced : Replaced timers next timer delayed changed)
    (before : delayed.Pending) (after : ¬changed.Pending)
    (entries : next.plginTimerList = update timers.plginTimerList delayed.timerId none) :
    Paired next := by
  obtain ⟨single, matched⟩ := (paired_iff formed).mp paired
  have here : timers.PendingAs delayed.timerId timer := ⟨delayed, replaced.held, rfl, before⟩
  refine (paired_iff nextFormed).mpr ⟨fun timerId named first second one two => ?_,
    fun timerId named other => ?_⟩
  · simp only [replaced.pendingAs, after, and_false, false_or] at one two
    exact single timerId named first second one.2 two.2
  · rw [entries, replaced.waiting]
    simp only [after, false_and, and_false, false_or]
    by_cases same : timerId = delayed.timerId
    · subst same
      simp only [update_self, reduceCtorEq, false_iff]
      rintro ⟨apart, waiting⟩
      exact apart (single delayed.timerId named other timer waiting.pendingAs here)
    · rw [update_of_ne same, matched timerId named other]
      refine ⟨fun waiting => ⟨?_, waiting⟩, And.right⟩
      rintro rfl
      obtain ⟨found, held, named, -⟩ := waiting
      rw [replaced.held] at held
      exact same (named.symm.trans (congrArg DelayedMessage.timerId (Option.some.inj held).symm))

theorem paired_addTimer {frame : FrameTimer Message Func}
    (nextFormed : WellFormed (timers.addTimer frame))
    (fresh : frame.delayTimer.timerId ≠ 0 → ¬∃ delayed ∈ timers.table, delayed.timerId =
      frame.delayTimer.timerId ∧ delayed.Pending) : Paired (timers.addTimer frame) := by
  obtain ⟨single, matched⟩ := (paired_iff formed).mp paired
  refine (paired_iff nextFormed).mpr ⟨fun timerId named first second one two => ?_,
    fun timerId named timer => ?_⟩
  · rw [addTimer_pendingAs] at one two
    obtain ⟨rfl, rfl⟩ | one := one <;> obtain ⟨rfl, same⟩ | two := two
    · rfl
    · exact absurd two.delayed (fresh named)
    · subst same
      exact absurd one.delayed (fresh named)
    · exact single timerId named first second one two
  · rw [addTimer_waiting timers frame named]
    exact matched timerId named timer

theorem paired_record_iff {delayed : DelayedMessage Message Func}
    (nextFormed : WellFormed (timers.recorded timer delayed))
    (held : timers.table[timer]? = some delayed) :
    Paired (timers.recorded timer delayed) ↔ delayed.Pending := by
  have replaced : Replaced timers (timers.recorded timer delayed) timer delayed
      { delayed with recording := false } := replaced_set held rfl rfl
  have entry : (timers.recorded timer delayed).plginTimerList delayed.timerId = some timer :=
    update_self _ _ _
  constructor
  · intro after
    obtain ⟨found, here, -, pending, -⟩ := after.refers delayed.timerId timer entry
    rw [replaced.here] at here
    cases here
    exact pending
  · intro pending
    obtain ⟨single, matched⟩ := (paired_iff formed).mp paired
    have here : timers.PendingAs delayed.timerId timer := ⟨delayed, held, rfl, pending⟩
    have pendingAs := replaced.pendingAs_same Iff.rfl
    refine (paired_iff nextFormed).mpr ⟨by simpa only [pendingAs] using single,
      fun timerId named other => ?_⟩
    rw [replaced.waiting]
    by_cases same : timerId = delayed.timerId
    · subst same
      rw [entry]
      constructor
      · intro listed
        exact .inl ⟨(Option.some.inj listed).symm, rfl, pending, rfl⟩
      · rintro (⟨rfl, -⟩ | ⟨apart, waiting⟩)
        · rfl
        · exact absurd (single delayed.timerId named other timer waiting.pendingAs here) apart
    · have others : (timers.recorded timer delayed).plginTimerList timerId =
          timers.plginTimerList timerId := update_of_ne same _ _
      rw [others, matched timerId named other]
      constructor
      · intro waiting
        refine .inr ⟨?_, waiting⟩
        rintro rfl
        obtain ⟨found, there, named, -⟩ := waiting
        rw [held] at there
        exact same (named.symm.trans
          (congrArg DelayedMessage.timerId (Option.some.inj there).symm))
      · rintro (⟨-, other, -⟩ | ⟨-, waiting⟩)
        · exact absurd other.symm same
        · exact waiting

theorem paired_delete_iff {delayed : DelayedMessage Message Func} (nextFormed : WellFormed next)
    (found : timers.plginTimerList timerId = some timer)
    (held : timers.table[timer]? = some delayed)
    (table : next.table = timers.table.modify timer DelayedMessage.cancelled)
    (entries : next.plginTimerList = update timers.plginTimerList timerId none) :
    Paired next ↔ delayed.stage ≠ .taken := by
  obtain ⟨entry, there, rfl, pending, written⟩ := paired.refers timerId timer found
  rw [held] at there
  cases there
  have replaced := replaced_cancelled held table
  have gone := (formed.sane timer delayed held).cancelled_callback
  constructor
  · -- a message that goes on without its entry
    intro after taken
    have named : delayed.timerId ≠ 0 := by
      intro zero
      rw [zero, formed.unnamed] at found
      cases found
    have waiting : next.Waiting delayed.timerId timer :=
      ⟨_, replaced.here, replaced.named, .inr (by simpa using taken), by simpa using written⟩
    have listed := (((paired_iff nextFormed).mp after).2 delayed.timerId named timer).mpr waiting
    rw [entries, update_self] at listed
    cases listed
  · intro untaken
    refine paired_of_withdrawn formed paired nextFormed replaced pending ?_ entries
    rintro (⟨-, armed⟩ | taken)
    · rw [gone] at armed
      cases armed
    · exact untaken (by simpa using taken)

theorem call_orderly_iff (call : isCall action = true) :
    (∀ frame ∈ timers.requested action, frame.delayTimer.timerId ≠ 0 →
      ¬∃ delayed ∈ timers.table, delayed.timerId = frame.delayTimer.timerId ∧
        delayed.Pending) ↔
    timers.RefusesPending action ∧ ∀ next, timers.step action = some next → Paired next := by
  constructor
  · intro fresh
    refine ⟨fun frame asked named pending => absurd pending (fresh frame asked named), ?_⟩
    intro next stepped
    have nextFormed := step_wellFormed formed stepped
    cases stepped_of_step stepped with
    | call posts _ _ =>
      exact paired_of_same formed paired nextFormed rfl (fun _ _ => Iff.rfl)
        (fun _ _ => Iff.rfl)
    | add asked => exact paired_addTimer formed paired nextFormed (fresh _ asked)
    | record _ _ | execute _ _ _ | erase _ _ | finish _ _ | delete _ | miss _ => cases call
  · -- the code adds a timer whatever is pending
    rintro ⟨refuses, -⟩ frame asked named pending
    have unchanged := refuses frame asked named pending _ (step_of_requested asked)
    simp [addTimer] at unchanged

theorem execute_paired (stepped : timers.step (.execute timer) = some next) : Paired next := by
  have nextFormed := step_wellFormed formed stepped
  cases stepped_of_step stepped with
  | call _ call _ => cases call
  | add asked => cases asked
  | @execute timer delayed held queued _ =>
    refine paired_of_replaced formed paired nextFormed (replaced_set held rfl rfl) rfl ?_ rfl
    have stage := (formed.sane timer delayed held).executed_stage
    cases callback : delayed.timer.callback <;>
      simp [DelayedMessage.Pending, DelayedMessage.Armed, stage, queued, callback]

theorem eraseTimer_paired
    (stepped : timers.step (.eraseTimer timer) = some next) : Paired next := by
  have nextFormed := step_wellFormed formed stepped
  cases stepped_of_step stepped with
  | call _ call _ => cases call
  | add asked => cases asked
  | erase held taken =>
    exact paired_of_withdrawn formed paired nextFormed (replaced_set held rfl rfl)
      (.inr taken) (by simp [DelayedMessage.Pending, DelayedMessage.Armed]) rfl

theorem postTask_paired (stepped : timers.step (.postTask timer) = some next) : Paired next := by
  have nextFormed := step_wellFormed formed stepped
  cases stepped_of_step stepped with
  | call _ call _ => cases call
  | add asked => cases asked
  | finish held erased =>
    exact paired_of_replaced formed paired nextFormed (replaced_set held rfl rfl) rfl
      (by simp [DelayedMessage.Pending, DelayedMessage.Armed, erased]) rfl

theorem record_paired_iff :
    (∀ delayed ∈ timers.table[timer]?, delayed.recording = true → delayed.Pending) ↔
      ∀ next, timers.step (.record timer) = some next → Paired next := by
  constructor
  · intro pending next stepped
    have nextFormed := step_wellFormed formed stepped
    cases stepped_of_step stepped with
    | call _ call _ => cases call
    | add asked => cases asked
    | record held recording =>
      exact (paired_record_iff formed paired nextFormed held).mpr (pending _ held recording)
  · intro after delayed held recording
    have stepped : timers.step (.record timer) = some (timers.recorded timer delayed) := by
      simp only [step, Option.mem_def.mp held, if_pos recording]
    exact (paired_record_iff formed paired (step_wellFormed formed stepped) held).mp
      (after _ stepped)

theorem delete_paired_iff :
    (∀ timer ∈ timers.plginTimerList timerId, ∀ delayed ∈ timers.table[timer]?,
      delayed.stage ≠ .taken) ↔
      ∀ next, timers.step (.deleteFrameMessageTimer timerId) = some next → Paired next := by
  cases found : timers.plginTimerList timerId with
  | none =>
    refine iff_of_true (fun _ listed => by cases listed) fun next stepped => ?_
    simp only [step, deleteFrameMessageTimer, found, Option.some.injEq] at stepped
    exact stepped ▸ paired
  | some timer =>
    obtain ⟨delayed, held, -⟩ := paired.refers timerId timer found
    have stepped : timers.step (.deleteFrameMessageTimer timerId) =
        some (timers.withdrawn timerId timer) := by
      simp only [step, deleteFrameMessageTimer, found]
    have decided := paired_delete_iff formed paired (step_wellFormed formed stepped) found
      held rfl rfl
    constructor
    · intro untaken next other
      obtain rfl := Option.some.inj (stepped.symm.trans other)
      exact decided.mpr (untaken timer rfl delayed held)
    · intro after listed same entry there
      cases same
      obtain rfl := Option.some.inj (held.symm.trans there)
      exact decided.mp (after _ stepped)

end Paired

theorem orderly_iff (timers : FrameTimers Message Func) (action : FrameAction Message Func)
    (formed : WellFormed timers) (paired : Paired timers) :
    timers.Orderly action ↔
      timers.RefusesPending action ∧ ∀ next, timers.step action = some next → Paired next := by
  cases action with
  | doFrameMessage tagThreadId message delayTimer | doWorkThreadLogic tagThreadId delayTimer func =>
    exact (and_iff_left trivial).trans (call_orderly_iff formed paired rfl)
  | record timer =>
    exact and_congr (iff_of_true (orderly_of_requested_none rfl)
      (refusesPending_of_requested_none rfl)) (record_paired_iff formed paired)
  | execute timer =>
    exact iff_of_true ⟨orderly_of_requested_none rfl, trivial⟩
      ⟨refusesPending_of_requested_none rfl, fun _ => execute_paired formed paired⟩
  | eraseTimer timer =>
    exact iff_of_true ⟨orderly_of_requested_none rfl, trivial⟩
      ⟨refusesPending_of_requested_none rfl, fun _ => eraseTimer_paired formed paired⟩
  | postTask timer =>
    exact iff_of_true ⟨orderly_of_requested_none rfl, trivial⟩
      ⟨refusesPending_of_requested_none rfl, fun _ => postTask_paired formed paired⟩
  | deleteFrameMessageTimer timerId =>
    exact and_congr (iff_of_true (orderly_of_requested_none rfl)
      (refusesPending_of_requested_none rfl)) (delete_paired_iff formed paired)

/-- The list matches the pending messages, and pending ids are refused, along exactly the orderly
runs. -/
theorem paired_and_refusesPending_iff_orderly (pluginWorkThreadList : UInt32 → Option UInt16)
    (actions : List (FrameAction Message Func)) :
    Always step Paired (idle pluginWorkThreadList) actions ∧
      Throughout step RefusesPending (idle pluginWorkThreadList) actions ↔
    Throughout step Orderly (idle pluginWorkThreadList) actions := by
  have formed : WellFormed (idle pluginWorkThreadList : FrameTimers Message Func) :=
    idle_wellFormed pluginWorkThreadList
  have initial : Paired (idle pluginWorkThreadList : FrameTimers Message Func) := by
    refine (paired_iff formed).mpr ⟨?_, ?_⟩
    · rintro timerId - first second ⟨_, held, -⟩
      simp [idle] at held
    · intro timerId named timer
      simp [idle, Waiting]
  exact always_and_throughout_iff
    (fun _ _ _ formed _ _ stepped => step_wellFormed formed stepped)
    (fun timers action formed paired => orderly_iff timers action formed paired) formed initial

def Agrees (timerId : UInt64) (timers : FrameTimers Message Func) : Prop :=
  (∀ timer ∈ timers.plginTimerList timerId, ∀ delayed ∈ timers.table[timer]?, delayed.Pending) ∧
  ∀ delayed ∈ timers.table, delayed.timerId = timerId → delayed.Pending →
    delayed.recording = false → (timers.plginTimerList timerId).isSome
  deriving Decidable

theorem Paired.agrees (paired : Paired timers) (named : timerId ≠ 0) : Agrees timerId timers := by
  constructor
  · intro timer entry delayed held
    obtain ⟨found, there, -, pending, -⟩ := paired.refers timerId timer entry
    exact Option.some.inj (there.symm.trans held) ▸ pending
  · intro delayed member same pending written
    obtain ⟨timer, held⟩ := List.mem_iff_getElem?.mp member
    have waiting : timers.Waiting timerId timer := ⟨delayed, held, same, pending, written⟩
    exact (paired.listed timerId named).mpr ⟨timer, waiting, fun other found =>
      paired.single timerId named other timer found.pendingAs waiting.pendingAs⟩

theorem unpaired_runs :
    let threads : UInt32 → Option UInt16 := fun threadId => if threadId = 9 then some 9 else none
    let message : FrameAction Nat Nat := .doFrameMessage 9 0 ⟨1, 5⟩
    ¬Always step Paired (idle threads)
      [message, .execute 0, .eraseTimer 0, .postTask 0, .record 0] ∧
    ¬Always step Paired (idle threads)
      [message, .record 0, .execute 0, .deleteFrameMessageTimer 5] ∧
    ¬Throughout step RefusesPending (idle threads) [message, .record 0, message] := by
  have evaluated : ∀ timers : FrameTimers Nat Nat, Paired timers → Agrees 5 timers :=
    fun _ paired => paired.agrees (by decide)
  refine ⟨fun always => ?_, fun always => ?_, by decide⟩
  · exact absurd (always_imp evaluated always) (by decide)
  · exact absurd (always_imp evaluated always) (by decide)

end FrameTimers

end PssAsio
