import PssAsio.TimerWatchCore

/-!
When `TimerMgr` calls its callbacks, and how long it sleeps.
-/

namespace PssAsio

open TransitionRuns Function

namespace TimerWatch

variable (watch : TimerWatch)

structure Queue : Prop where
  sound : watch.mgr.Sound
  once : watch.mgr.mTimers.Nodup
  ordered : watch.mgr.TopFirst watch.mgr.mTimers
  accounted : ∀ timer < watch.mgr.table.length, 0 ≤ watch.mgr.delayOf timer ∧
    watch.mgr.expiry timer + watch.mgr.delayOf timer ≤ watch.dueTime timer

def Calm : Prop := watch.notified = false ∧ watch.mgr.notifying = 0

/-- Before the wait the timer that was read is due once `timerWait` has passed since the reading. -/
def Awaits (tmp : Nat) : Prop :=
  watch.readTime ≤ watch.mgr.now ∧ watch.readTime + watch.timerWait = watch.dueTime tmp ∧
    (watch.Calm → ∀ other ∈ watch.mgr.mTimers, watch.dueTime tmp ≤ watch.dueTime other)

def Asleep (lag : Int) (tmp : Nat) : Prop :=
  watch.dueTime tmp ≤ watch.deadline ∧
    (watch.Calm → ∀ other ∈ watch.mgr.mTimers, watch.deadline ≤ watch.dueTime other + lag)

def Thread (lag : Int) : Prop :=
  match watch.mgr.phase with
  | .waitingEmpty => watch.Calm → watch.mgr.mTimers = []
  | .topRead tmp => watch.sleeping = false ∧ (watch.Calm → watch.mgr.mTimers.head? = some tmp)
  | .waiting tmp => watch.mgr.delayOf tmp = 0 ∧
      if watch.sleeping then watch.Asleep lag tmp else watch.Awaits tmp
  | .due tmp => watch.sleeping = false ∧ watch.mgr.delayOf tmp = 0 ∧
      watch.dueTime tmp ≤ watch.mgr.now
  | .executing tmp _ => watch.sleeping = false ∧ watch.mgr.delayOf tmp = 0 ∧
      tmp ∉ watch.mgr.mTimers
  | .entry | .ready | .executed | .stopped => watch.sleeping = false

variable {watch next : TimerWatch} {lag : Int}

theorem Queue.frame (queue : watch.Queue) (sound : next.mgr.Sound)
    (same : TimerMgr.SameQueue watch.mgr next.mgr) (due : next.dueTime = watch.dueTime) :
    next.Queue := by
  refine ⟨sound, same.timers ▸ queue.once, ?_, fun timer known => ?_⟩
  · rw [same.timers]
    exact queue.ordered.congr fun timer _ => same.expiry timer
  · rw [same.length] at known
    obtain ⟨positive, bound⟩ := queue.accounted timer known
    rw [same.expiry timer, due]
    obtain kept | read := same.delay timer
    · rw [kept]
      exact ⟨positive, bound⟩
    · rw [read]
      omega

theorem Thread.keep (thread : watch.Thread lag) (queue : watch.Queue)
    (phase : next.mgr.phase = watch.mgr.phase) (sleeping : next.sleeping = watch.sleeping)
    (clocks : next.readTime = watch.readTime ∧ next.timerWait = watch.timerWait ∧
      next.deadline = watch.deadline) (now : watch.mgr.now ≤ next.mgr.now)
    (delay : ∀ timer < watch.mgr.table.length,
      next.mgr.delayOf timer = watch.mgr.delayOf timer)
    (due : ∀ timer < watch.mgr.table.length, next.dueTime timer = watch.dueTime timer)
    (calm : next.Calm → watch.Calm ∧ next.mgr.mTimers = watch.mgr.mTimers)
    (running : ∀ tmp, watch.mgr.phase.running = some tmp → tmp ∉ watch.mgr.mTimers →
      tmp ∉ next.mgr.mTimers) : next.Thread lag := by
  have remembered : ∀ tmp, watch.mgr.phase.remembered = some tmp → tmp < watch.mgr.table.length :=
    fun tmp read => queue.sound.listed tmp (queue.sound.remembered tmp read)
  unfold Thread at thread ⊢
  rw [phase, sleeping]
  cases current : watch.mgr.phase with
  | entry | ready | executed | stopped =>
    rw [current] at thread
    exact thread
  | waitingEmpty =>
    rw [current] at thread
    intro still
    obtain ⟨before, same⟩ := calm still
    rw [same]
    exact thread before
  | topRead tmp =>
    rw [current] at thread
    refine ⟨thread.1, fun still => ?_⟩
    obtain ⟨before, same⟩ := calm still
    rw [same]
    exact thread.2 before
  | waiting tmp =>
    have known := remembered tmp (by rw [current]; rfl)
    rw [current] at thread
    obtain ⟨spent, awaited⟩ := thread
    refine ⟨(delay tmp known).trans spent, ?_⟩
    have listed : ∀ other ∈ watch.mgr.mTimers, next.dueTime other = watch.dueTime other :=
      fun other member => due other (queue.sound.listed other member)
    split at awaited
    · rename_i asleep
      rw [if_pos asleep]
      refine ⟨?_, fun still other member => ?_⟩
      · rw [clocks.2.2, due tmp known]
        exact awaited.1
      · obtain ⟨before, same⟩ := calm still
        rw [same] at member
        rw [clocks.2.2, listed other member]
        exact awaited.2 before other member
    · rename_i awake
      rw [if_neg awake]
      obtain ⟨reading, left, lowest⟩ := awaited
      refine ⟨?_, ?_, fun still other member => ?_⟩
      · rw [clocks.1]
        omega
      · rw [clocks.1, clocks.2.1, due tmp known]
        exact left
      · obtain ⟨before, same⟩ := calm still
        rw [same] at member
        rw [due tmp known, listed other member]
        exact lowest before other member
  | due tmp =>
    have known := remembered tmp (by rw [current]; rfl)
    rw [current] at thread
    obtain ⟨awake, spent, reached⟩ := thread
    refine ⟨awake, (delay tmp known).trans spent, ?_⟩
    rw [due tmp known]
    omega
  | executing tmp runs =>
    have begun : watch.mgr.phase.running = some tmp := by rw [current]; rfl
    rw [current] at thread
    obtain ⟨awake, spent, apart⟩ := thread
    exact ⟨awake, (delay tmp (queue.sound.running tmp begun)).trans spent,
      running tmp (current ▸ begun) apart⟩

variable {action : TimerAction} {mgr : TimerMgr} {tmp : Nat}

theorem dueTimeAfter_quiet (watch : TimerWatch) (quiet : TimerMgr.Quiet action) :
    watch.dueTimeAfter action = watch.dueTime := by
  cases action with
  | addTimer | addTimerLoop | push | pop | finish => exact quiet.elim
  | _ => rfl

theorem quiet_queue (queue : watch.Queue) (moved : watch.mgr.step action = some mgr)
    (quiet : TimerMgr.Quiet action) : (watch.drive action mgr).Queue :=
  queue.frame (TimerMgr.step_sound queue.sound moved) (TimerMgr.sameQueue_of_quiet quiet moved)
    (dueTimeAfter_quiet watch quiet)

theorem create_times (mgr : TimerMgr) (timerType : TimerType) (delayseconds timeout : Int)
    {timer : Nat} (known : timer < mgr.table.length) :
    (mgr.create timerType delayseconds timeout).expiry timer = mgr.expiry timer ∧
      (mgr.create timerType delayseconds timeout).delayOf timer = mgr.delayOf timer := by
  simp only [TimerMgr.expiry, TimerMgr.delayOf, TimerMgr.create,
    List.getElem?_append_left known, and_self]

theorem create_queue (queue : watch.Queue) (timerType : TimerType) {delayseconds : Int}
    (timeout : Int) (positive : 0 ≤ delayseconds)
    (created : next.mgr = watch.mgr.create timerType delayseconds timeout)
    (due : next.dueTime = update watch.dueTime watch.mgr.table.length
      (watch.mgr.now + delayseconds + timeout)) : next.Queue := by
  have times {timer : Nat} (known : timer < watch.mgr.table.length) :=
    create_times watch.mgr timerType delayseconds timeout known
  refine ⟨?_, ?_, ?_, fun timer known => ?_⟩
  · rw [created]
    exact TimerMgr.create_sound queue.sound timerType delayseconds timeout
  · rw [created]
    exact queue.once
  · rw [created]
    exact queue.ordered.congr fun timer listed => (times (queue.sound.listed timer listed)).1
  · rw [created] at known ⊢
    rw [due]
    by_cases old : timer < watch.mgr.table.length
    · rw [(times old).1, (times old).2, update_of_ne (by omega)]
      exact queue.accounted timer old
    · have new : timer = watch.mgr.table.length := by
        simp only [TimerMgr.create, List.length_append, List.length_singleton] at known
        omega
      subst new
      simp only [TimerMgr.expiry, TimerMgr.delayOf, TimerMgr.create,
        List.getElem?_concat_length, update_self]
      omega

theorem push_queue (queue : watch.Queue) {timer : Nat} (listed : timer ∈ watch.mgr.creating) :
    (watch.drive (.push timer) { watch.mgr with
      mTimers := watch.mgr.pushed timer
      creating := watch.mgr.creating.erase timer
      notifying := watch.mgr.notifying + 1 }).Queue := by
  obtain ⟨known, apart, -⟩ := queue.sound.created timer listed
  refine ⟨TimerMgr.push_sound queue.sound listed, ?_, ?_, queue.accounted⟩
  · exact (watch.mgr.pushed_perm timer).nodup_iff.mpr (List.nodup_cons.mpr ⟨apart, queue.once⟩)
  · exact (TimerMgr.pushed_topFirst queue.ordered queue.sound.listed known).congr fun _ _ => rfl

theorem pop_queue (queue : watch.Queue) {promoted : Nat} {rest remaining : List Nat} {timer : Timer}
    (due : watch.mgr.phase = .due tmp) (queued : watch.mgr.mTimers = tmp :: rest)
    (found : watch.mgr.table[tmp]? = some timer)
    (left : watch.mgr.popped rest promoted = some remaining) :
    (watch.drive (.pop promoted) { watch.mgr.setTimer tmp (fun timer => timer.startExecute.1) with
      mTimers := remaining
      phase := .executing tmp timer.startExecute.2 }).Queue ∧ tmp ∉ remaining := by
  have once := queue.once
  rw [queued, List.nodup_cons] at once
  have same := TimerMgr.popped_perm left
  have listed : ∀ other ∈ rest, other < watch.mgr.table.length := fun other member =>
    queue.sound.listed other (by rw [queued]; exact List.mem_cons_of_mem tmp member)
  have expiry : ∀ other, (watch.mgr.setTimer tmp fun timer => timer.startExecute.1).expiry other =
      watch.mgr.expiry other :=
    TimerMgr.expiry_setTimer tmp fun value => (TimerMgr.startExecute_times value).1
  have delay : ∀ other, (watch.mgr.setTimer tmp fun timer => timer.startExecute.1).delayOf other =
      watch.mgr.delayOf other :=
    TimerMgr.delayOf_setTimer tmp fun value => (TimerMgr.startExecute_times value).2
  refine ⟨⟨TimerMgr.pop_sound queue.sound due queued found left, same.nodup_iff.mpr once.2, ?_, ?_⟩,
    fun inside => once.1 (same.mem_iff.mp inside)⟩
  · exact (TimerMgr.popped_topFirst listed left).congr fun other _ => expiry other
  · intro other known
    have before : other < watch.mgr.table.length := by
      simpa [drive, TimerMgr.setTimer] using known
    have bounds := queue.accounted other before
    rw [← expiry other, ← delay other] at bounds
    exact bounds

theorem finish_accounted (queue : watch.Queue) {runs : Bool}
    (executing : watch.mgr.phase = .executing tmp runs) (spent : watch.mgr.delayOf tmp = 0)
    {timer : Nat} (known : timer < watch.mgr.table.length) :
    0 ≤ (watch.mgr.ended tmp).delayOf timer ∧
      (watch.mgr.ended tmp).expiry timer + (watch.mgr.ended tmp).delayOf timer ≤
        watch.dueTimeAfter .finish timer := by
  have bounds := queue.accounted timer known
  obtain ⟨value, found⟩ : ∃ value, watch.mgr.table[tmp]? = some value :=
    ⟨_, List.getElem?_eq_getElem (queue.sound.running tmp (by rw [executing]; rfl))⟩
  simp only [dueTimeAfter, executing, found]
  by_cases self : timer = tmp
  · subst self
    have changed : (watch.mgr.ended timer).table[timer]? =
        some (value.endExecute watch.mgr.now) := by
      simp [TimerMgr.ended, TimerMgr.setTimer, found]
    rw [TimerMgr.delayOf_eq found] at spent
    rw [TimerMgr.expiry_eq found, TimerMgr.delayOf_eq found] at bounds
    rw [TimerMgr.expiry_eq changed, TimerMgr.delayOf_eq changed]
    cases kind : value.timerType with
    | timerTypeOnce => simpa only [Timer.endExecute, kind] using bounds
    | timerTypeLoop =>
      simp only [Timer.endExecute, kind, update_self]
      omega
  · obtain ⟨expiry, delay⟩ : (watch.mgr.ended tmp).expiry timer = watch.mgr.expiry timer ∧
        (watch.mgr.ended tmp).delayOf timer = watch.mgr.delayOf timer :=
      TimerMgr.times_setTimer_of_ne self
    rw [expiry, delay]
    cases value.timerType with
    | timerTypeOnce => exact bounds
    | timerTypeLoop =>
      simp only [update_of_ne self]
      exact bounds

theorem finish_queue (queue : watch.Queue) {runs : Bool}
    (executing : watch.mgr.phase = .executing tmp runs) (spent : watch.mgr.delayOf tmp = 0)
    (apart : tmp ∉ watch.mgr.mTimers) :
    (watch.drive .finish (watch.mgr.finish tmp runs)).Queue := by
  have moved : watch.mgr.step .finish = some (watch.mgr.finish tmp runs) := by
    simp [TimerMgr.step, executing]
  obtain ⟨table, timers⟩ := watch.mgr.finish_table tmp runs
  have length : (watch.mgr.ended tmp).table.length = watch.mgr.table.length := by
    simp [TimerMgr.ended, TimerMgr.setTimer]
  have times := TimerMgr.times_congr table
  -- The executed timer is not in the queue, so its new start does not disturb the order.
  have ordered : (watch.mgr.ended tmp).TopFirst watch.mgr.mTimers := by
    refine queue.ordered.congr fun timer member => ?_
    have other : timer ≠ tmp := fun same => apart (same ▸ member)
    exact (TimerMgr.times_setTimer_of_ne other).1
  refine ⟨TimerMgr.step_sound queue.sound moved, ?_, ?_, fun timer known => ?_⟩
  · obtain same | again := timers
    · exact same ▸ queue.once
    · simp only [drive, again]
      exact ((watch.mgr.ended tmp).pushed_perm tmp).nodup_iff.mpr
        (List.nodup_cons.mpr ⟨apart, queue.once⟩)
  · have pushed : (watch.mgr.ended tmp).TopFirst (watch.mgr.finish tmp runs).mTimers := by
      obtain same | again := timers
      · exact same ▸ ordered
      · rw [again]
        refine TimerMgr.pushed_topFirst ordered ?_ ?_
        · intro timer member
          exact length ▸ queue.sound.listed timer member
        · exact length ▸ queue.sound.running tmp (by rw [executing]; rfl)
    exact pushed.congr fun timer _ => (times timer).1
  · have before : timer < watch.mgr.table.length := by
      rw [← length, ← table]
      exact known
    have bounds := finish_accounted queue executing spent before
    rw [← (times timer).1, ← (times timer).2] at bounds
    exact bounds

structure Timely (lag : Int) (watch : TimerWatch) : Prop where
  queue : watch.Queue
  thread : watch.Thread lag

theorem scheduled_timely (lag now : Int) : Timely lag (scheduled now) := by
  refine ⟨⟨?_, List.nodup_nil, ?_, ?_⟩, rfl⟩
  · constructor <;> simp [scheduled, TimerMgr.scheduled, TimerPhase.remembered,
      TimerPhase.running, TimerMgr.armingOf]
  · simp [TimerMgr.TopFirst, scheduled, TimerMgr.scheduled]
  · simp [scheduled, TimerMgr.scheduled]

section Timely

variable (timely : Timely lag watch)

include timely

theorem testLeftTime_thread {timer : Timer} (read : watch.mgr.phase = .topRead tmp)
    (found : watch.mgr.table[tmp]? = some timer) (readOnce : watch.ReadOnce tmp) :
    (watch.drive .testLeftTime
      { watch.mgr.setTimer tmp fun timer => (timer.getLeftTime watch.mgr.now).2 with
        phase := if (0 : Int) < (timer.getLeftTime watch.mgr.now).1 then .waiting tmp
          else .due tmp }).Thread lag := by
  obtain ⟨unread, reach⟩ := readOnce
  have thread := timely.thread
  simp only [Thread, read] at thread
  obtain ⟨awake, onTop⟩ := thread
  have spent := (watch.mgr.delayOf_read tmp tmp).trans (if_pos rfl)
  have left : watch.mgr.now + (timer.getLeftTime watch.mgr.now).1 = watch.dueTime tmp := by
    rw [unread, TimerMgr.expiry_eq found, TimerMgr.delayOf_eq found]
    simp only [Timer.getLeftTime]
    omega
  have waits : watch.timerWaitAfter .testLeftTime = (timer.getLeftTime watch.mgr.now).1 := by
    simp only [timerWaitAfter, read, found]
  by_cases remains : (0 : Int) < (timer.getLeftTime watch.mgr.now).1
  · simp only [Thread, drive, sleepingAfter, remains, awake, if_true, Bool.false_eq_true, if_false]
    refine ⟨spent, Int.le_refl _, ?_, fun calm other member => ?_⟩
    · rw [waits]
      exact left
    obtain none | behind := reach
    · -- Without a delay the top of the queue is due first.
      have lowest := timely.queue.ordered tmp (onTop calm) other member
      have bounds := timely.queue.accounted other (timely.queue.sound.listed other member)
      simp only [dueTimeAfter]
      omega
    · exact behind other member
  · simp only [Thread, drive, remains, if_false]
    refine ⟨awake, spent, ?_⟩
    simp only [dueTimeAfter, TimerMgr.setTimer]
    omega

theorem create_thread (timerType : TimerType) (delayseconds timeout dueTime : Int)
    (created : next.mgr = watch.mgr.create timerType delayseconds timeout)
    (due : next.dueTime = update watch.dueTime watch.mgr.table.length dueTime)
    (sleeping : next.sleeping = watch.sleeping) (clocks : next.readTime = watch.readTime ∧
      next.timerWait = watch.timerWait ∧ next.deadline = watch.deadline)
    (notified : next.notified = watch.notified) : next.Thread lag := by
  refine timely.thread.keep timely.queue (by rw [created]; rfl) sleeping clocks ?_
    (fun timer known => ?_) (fun timer known => ?_) (fun calm => ?_) (fun tmp _ apart => ?_)
  · rw [created]
    exact Int.le_refl _
  · rw [created]
    exact (create_times watch.mgr timerType delayseconds timeout known).2
  · rw [due, update_of_ne (by omega)]
  · rw [Calm, created, notified] at calm
    rw [created]
    exact ⟨calm, rfl⟩
  · rw [created]
    exact apart

theorem outside_thread (moved : watch.mgr.step action = some mgr) (quiet : TimerMgr.Quiet action)
    (phase : mgr.phase = watch.mgr.phase) (now : watch.mgr.now ≤ mgr.now)
    (delay : ∀ timer, mgr.delayOf timer = watch.mgr.delayOf timer)
    (sleeping : watch.sleepingAfter action = watch.sleeping) (clocks : watch.readTimeAfter action =
      watch.readTime ∧ watch.timerWaitAfter action = watch.timerWait)
    (calm : (watch.drive action mgr).Calm → watch.Calm) : (watch.drive action mgr).Thread lag := by
  have same := TimerMgr.sameQueue_of_quiet quiet moved
  refine timely.thread.keep timely.queue phase sleeping ⟨clocks.1, clocks.2, rfl⟩ now
    (fun timer _ => delay timer) (fun timer _ => ?_) (fun still => ⟨calm still, same.timers⟩)
    (fun tmp _ apart => ?_)
  · exact congrFun (dueTimeAfter_quiet watch quiet) timer
  · exact same.timers ▸ apart

/-- `timer_run` waits without a deadline only where it found the queue empty. -/
theorem timerRun_thread (moved : watch.mgr.step .timerRun = some mgr) :
    (watch.drive .timerRun mgr).Thread lag := by
  have thread := timely.thread
  simp only [TimerMgr.step] at moved
  split at moved
  · rename_i entry
    cases moved
    simp only [Thread, entry] at thread
    cases empty : watch.mgr.mTimers.isEmpty with
    | true =>
      simp only [Thread, drive, if_true]
      exact fun _ => List.isEmpty_iff.mp empty
    | false =>
      simp only [Thread, drive]
      exact thread
  · cases moved

theorem readTop_thread (moved : watch.mgr.step .readTop = some mgr) :
    (watch.drive .readTop mgr).Thread lag := by
  have thread := timely.thread
  simp only [TimerMgr.step] at moved
  split at moved
  · rename_i ready
    simp only [Thread, ready] at thread
    split at moved
    · split at moved
      · cases moved
        exact thread
      · rename_i tmp rest queued
        cases moved
        exact ⟨thread, fun _ => by simp [drive, queued]⟩
    · cases moved
      exact thread
  · cases moved

theorem wake_thread (punctual : Punctual lag watch (.drive .wake))
    (asleep : watch.enabled .wake = true) (moved : watch.mgr.step .wake = some mgr) :
    (watch.drive .wake mgr).Thread lag := by
  have thread := timely.thread
  simp only [TimerMgr.step] at moved
  split at moved
  · rename_i tmp waiting
    cases moved
    have sleeping : watch.sleeping = true := asleep
    simp only [Thread, waiting, sleeping, if_true] at thread
    obtain ⟨spent, until_, -⟩ := thread
    cases flag : watch.mgr.timerWakeupState with
    | timerStateAddTimer =>
      simp only [Thread, drive, if_true]
      rfl
    | timerStateExecuteTimer =>
      have reached := punctual flag
      simp only [Thread, drive]
      exact ⟨rfl, spent, Int.le_trans until_ reached⟩
  · cases moved

theorem quiet_thread (punctual : Punctual lag watch (.drive action))
    (enabled : watch.enabled action = true) (moved : watch.mgr.step action = some mgr)
    (quiet : TimerMgr.Quiet action) : (watch.drive action mgr).Thread lag := by
  have thread := timely.thread
  have outside := outside_thread timely moved quiet
  cases action with
  | addTimer | addTimerLoop | push | pop | finish => exact quiet.elim
  | tick nanoseconds =>
    cases moved
    exact outside rfl (Int.le_add_of_nonneg_right (Int.natCast_nonneg nanoseconds))
      (fun _ => rfl) rfl ⟨rfl, rfl⟩ id
  | wakeUp =>
    simp only [TimerMgr.step, Option.ite_none_right_eq_some, Option.some.injEq] at moved
    obtain ⟨-, rfl⟩ := moved
    exact outside rfl (Int.le_refl _) (fun _ => rfl) rfl ⟨rfl, rfl⟩ fun calm => by cases calm.1
  | cancel timer =>
    simp only [TimerMgr.step, Option.ite_none_right_eq_some, Option.some.injEq] at moved
    obtain ⟨-, rfl⟩ := moved
    exact outside rfl (Int.le_refl _)
      (TimerMgr.delayOf_setTimer timer fun value => (TimerMgr.cancel_times value).2) rfl
      ⟨rfl, rfl⟩ id
  | close =>
    simp only [TimerMgr.step] at moved
    split at moved
    case h_5 => cases moved
    all_goals
      cases moved
      exact outside rfl (Int.le_refl _) (fun _ => rfl) rfl ⟨rfl, rfl⟩ fun calm => by cases calm.1
  | timerRun => exact timerRun_thread timely moved
  | wakeEmpty =>
    simp only [TimerMgr.step] at moved
    split at moved
    · cases moved
      exact rfl
    · cases moved
  | readTop => exact readTop_thread timely moved
  | testLeftTime =>
    simp only [TimerMgr.step] at moved
    split at moved
    · rename_i tmp read
      obtain ⟨timer, found, rfl⟩ := Option.map_eq_some_iff.mp moved
      exact testLeftTime_thread timely read found (punctual tmp (by rw [read]; rfl))
    · cases moved
  | wake => exact wake_thread timely punctual enabled moved
  | setExecuteTimer =>
    simp only [TimerMgr.step] at moved
    split at moved
    · rename_i executed
      cases moved
      simp only [Thread, executed] at thread
      exact thread
    · cases moved

theorem timely_drive (punctual : Punctual lag watch (.drive action))
    (enabled : watch.enabled action = true) (moved : watch.mgr.step action = some mgr) :
    Timely lag (watch.drive action mgr) := by
  have thread := timely.thread
  cases action with
  | addTimer timeout =>
    have same := (Option.some.inj moved).symm
    refine ⟨create_queue timely.queue .timerTypeOnce timeout (Int.le_refl 0) same ?_,
      create_thread timely .timerTypeOnce 0 timeout _ same rfl rfl ⟨rfl, rfl, rfl⟩ rfl⟩
    simp only [drive, dueTimeAfter, Int.add_zero]
  | addTimerLoop delayseconds timeout =>
    have same := (Option.some.inj moved).symm
    exact ⟨create_queue timely.queue .timerTypeLoop timeout punctual same rfl,
      create_thread timely .timerTypeLoop delayseconds timeout _ same rfl rfl ⟨rfl, rfl, rfl⟩ rfl⟩
  | push timer =>
    simp only [TimerMgr.step, Option.ite_none_right_eq_some, Option.some.injEq] at moved
    obtain ⟨listed, rfl⟩ := moved
    refine ⟨push_queue timely.queue listed, ?_⟩
    refine thread.keep timely.queue rfl rfl ⟨rfl, rfl, rfl⟩ (Int.le_refl _) (fun _ _ => rfl)
      (fun _ _ => rfl) (fun calm => ?_) (fun tmp begun apart inside => ?_)
    · exact absurd calm.2 (by simp [drive])
    · obtain rfl | old := List.mem_cons.mp ((watch.mgr.pushed_perm timer).mem_iff.mp inside)
      · exact (timely.queue.sound.created tmp listed).2.2.1 begun
      · exact apart old
  | pop promoted =>
    cases TimerMgr.stepped_of_step moved with
    | quiet _ _ noPop | create _ noPop => exact absurd rfl (noPop promoted)
    | stop _ tmp due closed =>
      simp only [Thread, due] at thread
      exact ⟨timely.queue.frame (TimerMgr.step_sound timely.queue.sound moved)
        (TimerMgr.sameQueue_of_table rfl rfl) rfl, thread.1⟩
    | pop _ tmp top rest remaining timer due open_ queued found left =>
      obtain rfl : top = tmp := by
        simpa [queued] using punctual tmp (by rw [due]; rfl) open_
      obtain ⟨queue, apart⟩ := pop_queue timely.queue due queued found left
      simp only [Thread, due] at thread
      obtain ⟨awake, spent, -⟩ := thread
      refine ⟨queue, awake, ?_, apart⟩
      exact (TimerMgr.delayOf_setTimer top
        (fun value => (TimerMgr.startExecute_times value).2) top).trans spent
  | finish =>
    simp only [TimerMgr.step] at moved
    split at moved
    · rename_i tmp runs executing
      cases moved
      simp only [Thread, executing] at thread
      obtain ⟨awake, spent, apart⟩ := thread
      refine ⟨finish_queue timely.queue executing spent apart, ?_⟩
      simp only [Thread, drive, (TimerMgr.finish_finished watch.mgr tmp runs).phase]
      exact awake
    · cases moved
  | _ =>
    exact ⟨quiet_queue timely.queue moved trivial,
      quiet_thread timely punctual enabled moved trivial⟩

theorem timely_sleep (punctual : Punctual lag watch .sleep)
    (stepped : watch.step .sleep = some next) : Timely lag next := by
  have thread := timely.thread
  obtain ⟨unnotified, prompt⟩ := punctual
  simp only [step] at stepped
  split at stepped
  · cases stepped
  · rename_i awake
    split at stepped
    · rename_i empty
      cases stepped
      refine ⟨timely.queue.frame timely.queue.sound (TimerMgr.sameQueue_of_table rfl rfl) rfl, ?_⟩
      simp only [Thread, empty] at thread ⊢
      exact fun calm => thread ⟨unnotified, calm.2⟩
    · rename_i tmp waiting
      cases stepped
      refine ⟨timely.queue.frame timely.queue.sound (TimerMgr.sameQueue_of_table rfl rfl) rfl, ?_⟩
      simp only [Thread, waiting, awake, if_true, if_false, Bool.false_eq_true] at thread ⊢
      obtain ⟨spent, reading, left, lowest⟩ := thread
      have began : watch.mgr.now ≤ watch.readTime + lag := by
        simpa [waiting] using prompt
      refine ⟨spent, ?_, fun calm other member => ?_⟩
      · simp only
        omega
      · have before := lowest ⟨unnotified, calm.2⟩ other member
        simp only
        omega
    · cases stepped

theorem timely_step {action : TimerWatchAction} (punctual : Punctual lag watch action)
    (stepped : watch.step action = some next) : Timely lag next := by
  cases action with
  | drive action =>
    simp only [step, Option.ite_none_right_eq_some, Option.map_eq_some_iff] at stepped
    obtain ⟨enabled, mgr, moved, rfl⟩ := stepped
    exact timely_drive timely punctual enabled moved
  | sleep => exact timely_sleep timely punctual stepped

theorem Timely.notEarly (action : TimerWatchAction) : watch.NotEarly action := by
  have thread := timely.thread
  cases action with
  | drive action =>
    cases action with
    | pop promoted =>
      intro tmp chosen _ _ _ _
      cases phase : watch.mgr.phase with
      | due other =>
        simp only [Thread, phase] at thread
        obtain rfl : other = tmp := by simpa [phase, TimerPhase.chosen] using chosen
        exact thread.2.2
      | _ => simp [phase, TimerPhase.chosen] at chosen
    | _ => trivial
  | sleep => trivial

theorem Timely.inTime : InTime lag watch := by
  have thread := timely.thread
  intro asleep timer queued
  by_cases announced : watch.notified = true ∨ 0 < watch.mgr.notifying
  · exact .inr announced
  · have calm : watch.Calm := by
      rw [not_or, Bool.not_eq_true] at announced
      exact ⟨announced.1, by omega⟩
    refine .inl ?_
    unfold Thread at thread
    split at thread
    · rw [thread calm] at queued
      cases queued
    · exact absurd asleep (by simp [thread.1])
    · rw [if_pos asleep] at thread
      exact thread.2.2 calm timer queued
    · exact absurd asleep (by simp [thread.1])
    · exact absurd asleep (by simp [thread.1])
    all_goals exact absurd asleep (by simp [thread])

end Timely

/-- On punctual runs no callback comes early, and no wait outlasts a due time by more than what
passes between the reading and the wait. -/
theorem punctual_in_time (now lag : Int) (actions : List TimerWatchAction)
    (punctual : Throughout step (Punctual lag) (scheduled now) actions) :
    Throughout step NotEarly (scheduled now) actions ∧
      Always step (InTime lag) (scheduled now) actions := by
  have preserved : ∀ (watch : TimerWatch) (action : TimerWatchAction) (next : TimerWatch),
      Timely lag watch → Punctual lag watch action → watch.step action = some next →
        Timely lag next :=
    fun _ _ _ timely permitted stepped => timely_step timely permitted stepped
  have initial := scheduled_timely lag now
  exact ⟨throughout_of_invariant preserved (fun _ action timely _ => timely.notEarly action)
      initial punctual,
    always_of_invariant preserved (fun _ timely => timely.inTime) initial punctual⟩

def steadyTimers : List TimerWatchAction :=
  [.drive (.addTimerLoop 0 5), .drive (.push 0), .drive .wakeUp, .drive .timerRun,
    .drive .readTop, .drive .testLeftTime, .sleep, .drive (.tick 5), .drive .wake,
    .drive .timerRun, .drive .readTop, .drive .testLeftTime, .drive (.pop 0), .drive .finish,
    .drive .setExecuteTimer, .drive .timerRun, .drive .readTop, .drive .testLeftTime, .sleep,
    .drive (.tick 5), .drive .wake, .drive (.pop 0), .drive .finish]

theorem steady_in_time : Throughout step NotEarly (scheduled 0) steadyTimers ∧
    Always step (InTime 0) (scheduled 0) steadyTimers :=
  punctual_in_time 0 0 steadyTimers (by decide)

/-- The delay is gone with the first reading; on top of the queue it makes the thread oversleep. -/
theorem delayed_timer_misleads :
    (∃ watch, run step (scheduled 0)
        [.drive (.addTimerLoop 1000000000 5), .drive (.push 0), .drive .wakeUp, .drive .timerRun,
          .drive .readTop, .drive .testLeftTime, .sleep, .drive (.addTimer 100), .drive (.push 1),
          .drive .wakeUp, .drive .wake, .drive .timerRun, .drive .readTop, .drive (.tick 5),
          .drive .testLeftTime] = some watch ∧
      watch.mgr.now = 5 ∧ watch.dueTime 0 = 1000000005 ∧ ¬watch.NotEarly (.drive (.pop 0)) ∧
      (watch.step (.drive (.pop 0))).map (·.mgr.phase) = some (.executing 0 true)) ∧
    ∃ watch, run step (scheduled 0)
        [.drive (.addTimerLoop 1000000000 5), .drive (.push 0), .drive .wakeUp,
          .drive (.addTimer 7), .drive (.push 1), .drive .wakeUp, .drive .timerRun,
          .drive .readTop, .drive .testLeftTime, .sleep] = some watch ∧
      watch.deadline = 1000000005 ∧ watch.dueTime 1 = 7 ∧ ¬InTime 0 watch :=
  ⟨⟨_, (Option.some_get (by decide)).symm, by decide, by decide, by decide, by decide⟩,
    _, (Option.some_get (by decide)).symm, by decide, by decide, by decide⟩

end TimerWatch

end PssAsio
