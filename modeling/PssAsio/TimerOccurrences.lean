import Mathlib.Data.List.Nodup
import Mathlib.Data.List.Perm.Basic
import PssAsio.TimerManagerCore
import PssAsio.TransitionRuns

/-!
Where the timers of `TimerMgr` are.
-/

namespace PssAsio

open TransitionRuns

namespace TimerMgr

variable (mgr : TimerMgr)

variable (timer : Nat)

def armingOf : Option (TimerType × Bool × Bool) :=
  (mgr.table[timer]?).map Timer.arming

def typeOf : Option TimerType :=
  (mgr.armingOf timer).map Prod.fst

def executing : Nat :=
  if mgr.phase.running = some timer then 1 else 0

def Kept : Prop :=
  match mgr.typeOf timer with
  | some .timerTypeLoop => mgr.mTimers.count timer + mgr.executing timer = 1
  | some .timerTypeOnce =>
      mgr.mTimers.count timer + mgr.executing timer + mgr.executed.count timer = 1
  | none => True

def AllKept : Prop :=
  ∀ timer < mgr.table.length, timer ∉ mgr.creating → timer ∉ mgr.cancelled → mgr.Kept timer

/-- The timer that is popped is the one that was read, or both are cancelled. -/
def PopsRead : TimerAction → Prop
  | .pop _ =>
      match mgr.phase, mgr.mTimers with
      | .due tmp, top :: _ => mgr.timerRun = true →
          top = tmp ∨ tmp ∈ mgr.cancelled ∧ top ∈ mgr.cancelled
      | _, _ => True
  | _ => True

instance : Decidable (mgr.Kept timer) := by
  unfold Kept
  split <;> infer_instance

instance : Decidable mgr.AllKept :=
  inferInstanceAs (Decidable (∀ timer < mgr.table.length, _))

instance (action : TimerAction) : Decidable (mgr.PopsRead action) := by
  unfold PopsRead
  (repeat' split) <;> infer_instance

def places : Nat :=
  mgr.mTimers.count timer + mgr.executing timer +
    if mgr.typeOf timer = some .timerTypeOnce then mgr.executed.count timer else 0

variable {mgr next : TimerMgr} {timer tmp : Nat} {runs : Bool}

theorem kept_iff_places (known : timer < mgr.table.length) :
    mgr.Kept timer ↔ mgr.places timer = 1 := by
  unfold Kept places
  have found : mgr.typeOf timer = some mgr.table[timer].timerType := by
    simp [typeOf, armingOf, known, Timer.arming]
  rw [found]
  cases mgr.table[timer].timerType <;> simp

structure Sound (mgr : TimerMgr) : Prop where
  created : ∀ timer ∈ mgr.creating, timer < mgr.table.length ∧ timer ∉ mgr.mTimers ∧
    mgr.phase.running ≠ some timer ∧ timer ∉ mgr.executed
  distinct : mgr.creating.Nodup
  listed : ∀ timer ∈ mgr.mTimers, timer < mgr.table.length
  logged : ∀ timer ∈ mgr.executed, timer < mgr.table.length
  remembered : ∀ tmp, mgr.phase.remembered = some tmp → tmp ∈ mgr.mTimers
  running : ∀ tmp, mgr.phase.running = some tmp → tmp < mgr.table.length
  loops : ∀ timer callback flag, timer ∉ mgr.cancelled →
    mgr.armingOf timer = some (.timerTypeLoop, callback, flag) → callback = true
  fresh : ∀ timer callback flag, timer ∉ mgr.cancelled → timer ∉ mgr.executed →
    mgr.phase.running ≠ some timer →
    mgr.armingOf timer = some (.timerTypeOnce, callback, flag) → callback = true ∧ flag = false
  runs : ∀ tmp, mgr.phase = .executing tmp false → tmp ∉ mgr.cancelled → tmp ∈ mgr.executed

theorem pushed_perm (mgr : TimerMgr) (timer : Nat) :
    (mgr.pushed timer).Perm (timer :: mgr.mTimers) := by
  unfold pushed
  split
  · rename_i empty
    rw [empty]
  · rename_i top rest queue
    rw [queue]
    split
    · exact List.Perm.refl _
    · exact (List.perm_append_singleton timer (top :: rest))

theorem popped_perm {rest remaining : List Nat} {promoted : Nat}
    (left : mgr.popped rest promoted = some remaining) : remaining.Perm rest := by
  unfold popped at left
  split at left
  · rename_i top found
    obtain ⟨inside, same⟩ := List.getElem?_eq_some_iff.mp found
    simp only [Option.ite_none_right_eq_some, Option.some.injEq] at left
    rw [← left.2, ← same]
    exact List.getElem_cons_eraseIdx_perm inside
  · simp only [Option.ite_none_right_eq_some, Option.some.injEq, List.isEmpty_iff] at left
    rw [← left.2, left.1]

theorem armingOf_setTimer (mgr : TimerMgr) (timer other : Nat) (change : Timer → Timer) :
    (mgr.setTimer timer change).armingOf other =
      if timer = other then (mgr.table[other]?).map fun value => (change value).arming
      else mgr.armingOf other := by
  simp only [armingOf, setTimer, List.getElem?_modify]
  cases mgr.table[other]? with
  | none => simp
  | some value => by_cases same : timer = other <;> simp [same]

theorem armingOf_eq_of_table (table : next.table.map Timer.arming = mgr.table.map Timer.arming)
    (timer : Nat) : next.armingOf timer = mgr.armingOf timer := by
  have same := congrArg (fun list => list[timer]?) table
  simpa only [armingOf, List.getElem?_map] using same

theorem quiet_sound (sound : mgr.Sound) (timers : next.mTimers = mgr.mTimers)
    (creating : next.creating = mgr.creating) (cancelled : next.cancelled = mgr.cancelled)
    (executed : next.executed = mgr.executed)
    (table : next.table.map Timer.arming = mgr.table.map Timer.arming)
    (phase : next.phase = mgr.phase ∨ mgr.phase.running = none ∧ next.phase.running = none ∧ ∀ tmp,
      next.phase.remembered = some tmp → mgr.phase.remembered = some tmp ∨ mgr.mTimers.head? = some
      tmp) : next.Sound := by
  have length : next.table.length = mgr.table.length := by
    simpa using congrArg List.length table
  have running : next.phase.running = mgr.phase.running := by
    rcases phase with same | ⟨idle, still, -⟩
    · rw [same]
    · rw [idle, still]
  have arming := armingOf_eq_of_table table
  refine ⟨?_, creating ▸ sound.distinct, ?_, ?_, ?_, ?_, ?_, ?_, ?_⟩
  · rw [creating, timers, running, executed, length]
    exact sound.created
  · rw [timers, length]
    exact sound.listed
  · rw [executed, length]
    exact sound.logged
  · intro tmp read
    rw [timers]
    rcases phase with same | ⟨-, -, origin⟩
    · exact sound.remembered tmp (same ▸ read)
    · rcases origin tmp read with before | top
      · exact sound.remembered tmp before
      · exact List.mem_of_head? top
  · rw [running, length]
    exact sound.running
  · simp only [cancelled, arming]
    exact sound.loops
  · simp only [cancelled, executed, running, arming]
    exact sound.fresh
  · intro tmp begun
    rcases phase with same | ⟨-, still, -⟩
    · rw [cancelled, executed]
      exact sound.runs tmp (same ▸ begun)
    · rw [begun] at still
      cases still

theorem armingOf_create (mgr : TimerMgr) (timerType : TimerType) (delayseconds timeout : Int)
    {value : TimerType × Bool × Bool}
    (found : (mgr.create timerType delayseconds timeout).armingOf timer = some value) :
    mgr.armingOf timer = some value ∨
      timer = mgr.table.length ∧ value = (timerType, true, false) := by
  simp only [armingOf, create] at found ⊢
  by_cases old : timer < mgr.table.length
  · left
    rwa [List.getElem?_append_left old] at found
  · right
    rw [List.getElem?_append_right (by omega)] at found
    have place : timer - mgr.table.length = 0 := by
      by_contra beyond
      rw [List.getElem?_singleton, if_neg beyond] at found
      cases found
    rw [place] at found
    simp only [List.getElem?_cons_zero, Option.map_some, Option.some.injEq] at found
    exact ⟨by omega, found.symm⟩

structure Finished (mgr next : TimerMgr) (tmp : Nat) (runs : Bool) : Prop where
  creating : next.creating = mgr.creating
  cancelled : next.cancelled = mgr.cancelled
  executed : next.executed = if runs then mgr.executed ++ [tmp] else mgr.executed
  table : next.table.map Timer.arming = mgr.table.map Timer.arming
  phase : next.phase = .executed
  again : ∀ flag, mgr.armingOf tmp = some (.timerTypeLoop, true, flag) →
    next.mTimers.Perm (tmp :: mgr.mTimers)
  ended : (∀ flag, mgr.armingOf tmp ≠ some (.timerTypeLoop, true, flag)) →
    next.mTimers = mgr.mTimers

theorem finish_finished (mgr : TimerMgr) (tmp : Nat) (runs : Bool) :
    Finished mgr (mgr.finish tmp runs) tmp runs := by
  have table := mgr.setTimer_arming tmp (fun timer => timer.endExecute mgr.now)
    (by intro value; cases kind : value.timerType <;> simp [Timer.endExecute, Timer.arming, kind])
  have same := armingOf_eq_of_table table tmp
  unfold finish
  simp only
  split
  · rename_i timer found
    have arming : mgr.armingOf tmp =
        some (timer.timerType, timer.callback, timer.executeOnceFlag) := by
      rw [← same, armingOf, found]
      rfl
    split
    · rename_i loops
      refine ⟨rfl, rfl, rfl, table, rfl, fun _ _ => pushed_perm _ tmp, ?_⟩
      intro other
      rw [arming, loops.1, loops.2] at other
      exact absurd rfl (other _)
    · rename_i ends
      refine ⟨rfl, rfl, rfl, table, rfl, ?_, fun _ => rfl⟩
      intro flag loops
      rw [arming, Option.some.injEq] at loops
      simp only [Prod.mk.injEq] at loops
      exact absurd ⟨loops.1, loops.2.1⟩ ends
  · rename_i missing
    refine ⟨rfl, rfl, rfl, table, rfl, ?_, fun _ => rfl⟩
    intro flag loops
    rw [← same, armingOf, missing] at loops
    cases loops

theorem Finished.mem_timers (finished : Finished mgr next tmp runs) {other : Nat}
    (inside : other ∈ next.mTimers) : other = tmp ∨ other ∈ mgr.mTimers := by
  by_cases loops : ∃ flag, mgr.armingOf tmp = some (.timerTypeLoop, true, flag)
  · obtain ⟨flag, loop⟩ := loops
    exact List.mem_cons.mp ((finished.again flag loop).mem_iff.mp inside)
  · rw [finished.ended (fun flag loop => loops ⟨flag, loop⟩)] at inside
    exact .inr inside

theorem Finished.mem_executed (finished : Finished mgr next tmp runs) {other : Nat}
    (logged : other ∈ next.executed) : other = tmp ∨ other ∈ mgr.executed := by
  rw [finished.executed] at logged
  cases runs with
  | false => exact .inr logged
  | true =>
    rcases List.mem_append.mp logged with before | added
    · exact .inr before
    · exact .inl (List.mem_singleton.mp added)

section Sound

variable (sound : mgr.Sound)

include sound

theorem create_sound (timerType : TimerType) (delayseconds timeout : Int) :
    (mgr.create timerType delayseconds timeout).Sound := by
  have length : (mgr.create timerType delayseconds timeout).table.length =
      mgr.table.length + 1 := by
    simp [create]
  refine ⟨?_, ?_, ?_, ?_, sound.remembered, ?_, ?_, ?_, sound.runs⟩
  · intro timer listed
    rw [length]
    rcases List.mem_append.mp listed with old | added
    · obtain ⟨known, apart⟩ := sound.created timer old
      exact ⟨by omega, apart⟩
    · rw [List.mem_singleton.mp added]
      refine ⟨by omega, ?_, ?_, ?_⟩
      · intro queued
        have := sound.listed _ queued
        omega
      · intro begun
        have := sound.running _ begun
        omega
      · intro done
        have := sound.logged _ done
        omega
  · refine List.nodup_append.mpr ⟨sound.distinct, List.nodup_singleton _, ?_⟩
    intro old listed new added
    have := (sound.created old listed).1
    rw [List.mem_singleton.mp added]
    omega
  · intro timer queued
    have := sound.listed timer queued
    omega
  · intro timer done
    have := sound.logged timer done
    omega
  · intro tmp begun
    have := sound.running tmp begun
    omega
  · intro timer callback flag uncancelled found
    rcases armingOf_create mgr timerType delayseconds timeout found with before | ⟨-, new⟩
    · exact sound.loops timer callback flag uncancelled before
    · exact (Prod.mk.inj (Prod.mk.inj new).2).1
  · intro timer callback flag uncancelled unexecuted idle found
    rcases armingOf_create mgr timerType delayseconds timeout found with before | ⟨-, new⟩
    · exact sound.fresh timer callback flag uncancelled unexecuted idle before
    · exact Prod.mk.inj (Prod.mk.inj new).2

theorem push_sound (listed : timer ∈ mgr.creating) : Sound { mgr with
      mTimers := mgr.pushed timer
      creating := mgr.creating.erase timer
      notifying := mgr.notifying + 1 } := by
  have queued : ∀ other, other ∈ mgr.pushed timer ↔ other = timer ∨ other ∈ mgr.mTimers := by
    intro other
    rw [(mgr.pushed_perm timer).mem_iff, List.mem_cons]
  refine ⟨?_, sound.distinct.erase timer, ?_, sound.logged, ?_, sound.running, sound.loops,
    sound.fresh, sound.runs⟩
  · intro other remaining
    obtain ⟨differs, before⟩ := (sound.distinct.mem_erase_iff).mp remaining
    obtain ⟨known, unqueued, apart⟩ := sound.created other before
    refine ⟨known, ?_, apart⟩
    intro inside
    rcases (queued other).mp inside with same | old
    · exact differs same
    · exact unqueued old
  · intro other inside
    rcases (queued other).mp inside with rfl | old
    · exact (sound.created other listed).1
    · exact sound.listed other old
  · intro tmp read
    exact (queued tmp).mpr (.inr (sound.remembered tmp read))

theorem cancel_sound (timer : Nat) :
    Sound { mgr.setTimer timer Timer.cancel with cancelled := mgr.cancelled ++ [timer] } := by
  have length : (mgr.setTimer timer Timer.cancel).table.length = mgr.table.length := by
    simp [setTimer]
  have others : ∀ other, other ∉ mgr.cancelled ++ [timer] → other ∉ mgr.cancelled ∧
      (mgr.setTimer timer Timer.cancel).armingOf other = mgr.armingOf other := by
    intro other uncancelled
    rw [List.mem_append, List.mem_singleton, not_or] at uncancelled
    exact ⟨uncancelled.1, by rw [armingOf_setTimer, if_neg (Ne.symm uncancelled.2)]⟩
  refine ⟨?_, sound.distinct, ?_, ?_, sound.remembered, ?_, ?_, ?_, ?_⟩
  · intro other listed
    obtain ⟨known, apart⟩ := sound.created other listed
    exact ⟨by simpa only [length] using known, apart⟩
  · intro other queued
    simpa only [length] using sound.listed other queued
  · intro other done
    simpa only [length] using sound.logged other done
  · intro tmp begun
    simpa only [length] using sound.running tmp begun
  · intro other callback flag uncancelled found
    obtain ⟨before, same⟩ := others other uncancelled
    exact sound.loops other callback flag before (same.symm.trans found)
  · intro other callback flag uncancelled unexecuted idle found
    obtain ⟨before, same⟩ := others other uncancelled
    exact sound.fresh other callback flag before unexecuted idle (same.symm.trans found)
  · intro tmp begun uncancelled
    exact sound.runs tmp begun (others tmp uncancelled).1

theorem startExecute_runs {timer : Timer} (found : mgr.table[tmp]? = some timer)
    (idle : mgr.phase.running = none) (uncancelled : tmp ∉ mgr.cancelled)
    (skipped : timer.startExecute.2 = false) : tmp ∈ mgr.executed := by
  have arming : mgr.armingOf tmp =
      some (timer.timerType, timer.callback, timer.executeOnceFlag) := by
    simp [armingOf, found, Timer.arming]
  cases kind : timer.timerType with
  | timerTypeLoop =>
    rw [kind] at arming
    have calls := sound.loops tmp _ _ uncancelled arming
    simp [Timer.startExecute, kind, calls] at skipped
  | timerTypeOnce =>
    rw [kind] at arming
    by_contra unexecuted
    obtain ⟨calls, unused⟩ :=
      sound.fresh tmp _ _ uncancelled unexecuted (by rw [idle]; simp) arming
    simp [Timer.startExecute, kind, calls, unused] at skipped

theorem pop_sound {promoted top : Nat} {rest remaining : List Nat} {timer : Timer}
    (due : mgr.phase = .due tmp) (queue : mgr.mTimers = top :: rest)
    (found : mgr.table[tmp]? = some timer) (left : mgr.popped rest promoted = some remaining) :
    Sound { mgr.setTimer tmp (fun timer => timer.startExecute.1) with
      mTimers := remaining
      phase := .executing tmp timer.startExecute.2 } := by
  have length : (mgr.setTimer tmp fun timer => timer.startExecute.1).table.length =
      mgr.table.length := by
    simp [setTimer]
  have idle : mgr.phase.running = none := by rw [due]; rfl
  have read : tmp ∈ mgr.mTimers := sound.remembered tmp (by rw [due]; rfl)
  have queued : ∀ other ∈ remaining, other ∈ mgr.mTimers := by
    intro other inside
    rw [queue]
    exact List.mem_cons_of_mem top ((popped_perm left).mem_iff.mp inside)
  have arming : ∀ other callback flag,
      (mgr.setTimer tmp fun timer => timer.startExecute.1).armingOf other =
        some (.timerTypeLoop, callback, flag) →
      mgr.armingOf other = some (.timerTypeLoop, callback, flag) := by
    intro other callback flag same
    rw [armingOf_setTimer] at same
    split at same
    · rename_i self
      subst self
      simp only [found, Option.map_some, Option.some.injEq] at same
      rw [armingOf, found, Option.map_some, ← same, Option.some.injEq]
      cases kind : timer.timerType with
      | timerTypeLoop => simp [Timer.startExecute, kind]
      | timerTypeOnce =>
        simp only [Timer.startExecute, kind, Timer.arming] at same
        split at same <;> simp [kind] at same
    · exact same
  refine ⟨?_, sound.distinct, ?_, ?_, ?_, ?_, ?_, ?_, ?_⟩
  · intro other listed
    obtain ⟨known, unqueued, -, unexecuted⟩ := sound.created other listed
    refine ⟨by simpa only [length] using known, fun inside => unqueued (queued other inside), ?_,
      unexecuted⟩
    intro begun
    exact unqueued (Option.some.inj begun ▸ read)
  · intro other inside
    simpa only [length] using sound.listed other (queued other inside)
  · intro other done
    simpa only [length] using sound.logged other done
  · intro other remembered
    cases remembered
  · intro other begun
    cases begun
    simpa only [length] using sound.listed tmp read
  · intro other callback flag uncancelled same
    exact sound.loops other callback flag uncancelled (arming other callback flag same)
  · intro other callback flag uncancelled unexecuted apart same
    have differs : tmp ≠ other := fun self => apart (congrArg some self)
    have before : (mgr.setTimer tmp fun timer => timer.startExecute.1).armingOf other =
        some (.timerTypeOnce, callback, flag) := same
    rw [armingOf_setTimer, if_neg differs] at before
    exact sound.fresh other callback flag uncancelled unexecuted (by rw [idle]; simp) before
  · intro other begun uncancelled
    obtain ⟨rfl, skipped⟩ := TimerPhase.executing.inj begun
    have ran : tmp ∈ mgr.executed := startExecute_runs sound found idle uncancelled skipped
    exact ran

theorem finish_sound (begun : mgr.phase = .executing tmp runs)
    (finished : Finished mgr next tmp runs) : next.Sound := by
  have length : next.table.length = mgr.table.length := by
    simpa using congrArg List.length finished.table
  have running : mgr.phase.running = some tmp := by rw [begun]; rfl
  have arming := armingOf_eq_of_table finished.table
  have known := sound.running tmp running
  refine ⟨?_, finished.creating ▸ sound.distinct, ?_, ?_, ?_, ?_, ?_, ?_, ?_⟩
  · intro other listed
    rw [finished.creating] at listed
    obtain ⟨below, unqueued, apart, unexecuted⟩ := sound.created other listed
    have differs : other ≠ tmp := by
      rintro rfl
      exact apart running
    refine ⟨by rw [length]; exact below, ?_, by rw [finished.phase]; simp [TimerPhase.running], ?_⟩
    · intro inside
      rcases finished.mem_timers inside with self | old
      · exact differs self
      · exact unqueued old
    · intro logged
      rcases finished.mem_executed logged with self | old
      · exact differs self
      · exact unexecuted old
  · intro other inside
    rw [length]
    rcases finished.mem_timers inside with rfl | old
    · exact known
    · exact sound.listed other old
  · intro other logged
    rw [length]
    rcases finished.mem_executed logged with rfl | old
    · exact known
    · exact sound.logged other old
  · simp [finished.phase, TimerPhase.remembered]
  · simp [finished.phase, TimerPhase.running]
  · simp only [finished.cancelled, arming]
    exact sound.loops
  · intro other callback flag uncancelled unexecuted _ found
    rw [finished.cancelled] at uncancelled
    rw [arming] at found
    rw [finished.executed] at unexecuted
    have differs : mgr.phase.running ≠ some other := by
      rw [running]
      rintro self
      cases self
      cases runs with
      | true => exact unexecuted (by simp)
      | false => exact unexecuted (sound.runs tmp begun uncancelled)
    have before : other ∉ mgr.executed := by
      cases runs with
      | false => exact unexecuted
      | true => exact fun logged => unexecuted (List.mem_append_left _ logged)
    exact sound.fresh other callback flag uncancelled before differs found
  · intro other executing
    rw [finished.phase] at executing
    cases executing

end Sound

theorem step_sound {action : TimerAction} (sound : mgr.Sound)
    (stepped : mgr.step action = some next) : next.Sound := by
  cases stepped_of_step stepped with
  | quiet _ _ _ timers creating cancelled executed table phase =>
    exact quiet_sound sound timers creating cancelled executed table phase
  | create _ _ timerType delayseconds timeout =>
    exact create_sound sound timerType delayseconds timeout
  | push timer listed => exact push_sound sound listed
  | cancel timer => exact cancel_sound sound timer
  | stop promoted tmp due =>
    refine quiet_sound sound rfl rfl rfl rfl rfl (.inr ⟨by rw [due]; rfl, rfl, ?_⟩)
    simp [TimerPhase.remembered]
  | pop promoted tmp top rest remaining timer due _ queue found left =>
    exact pop_sound sound due queue found left
  | finish tmp runs executing => exact finish_sound sound executing (finish_finished mgr tmp runs)

theorem allKept_iff_places : mgr.AllKept ↔
    ∀ timer < mgr.table.length, timer ∉ mgr.creating → timer ∉ mgr.cancelled →
      mgr.places timer = 1 := by
  constructor
  · intro kept timer known pushed uncancelled
    exact (kept_iff_places known).mp (kept timer known pushed uncancelled)
  · intro placed timer known pushed uncancelled
    exact (kept_iff_places known).mpr (placed timer known pushed uncancelled)

theorem places_congr (mgr : TimerMgr) (timers : next.mTimers.count timer = mgr.mTimers.count timer)
    (running : next.phase.running = some timer ↔ mgr.phase.running = some timer)
    (executed : next.executed.count timer = mgr.executed.count timer)
    (arming : next.typeOf timer = mgr.typeOf timer) : next.places timer = mgr.places timer := by
  simp only [places, executing, timers, running, executed, arming]

theorem quiet_allKept (kept : mgr.AllKept) (timers : next.mTimers = mgr.mTimers)
    (creating : next.creating = mgr.creating) (cancelled : next.cancelled = mgr.cancelled)
    (executed : next.executed = mgr.executed)
    (table : next.table.map Timer.arming = mgr.table.map Timer.arming)
    (running : next.phase.running = mgr.phase.running) : next.AllKept := by
  have length : next.table.length = mgr.table.length := by
    simpa using congrArg List.length table
  rw [allKept_iff_places] at kept ⊢
  intro timer known pushed uncancelled
  rw [length] at known
  rw [creating] at pushed
  rw [cancelled] at uncancelled
  have arming : next.typeOf timer = mgr.typeOf timer :=
    congrArg (Option.map Prod.fst) (armingOf_eq_of_table table timer)
  rw [places_congr mgr (by rw [timers]) (by rw [running]) (by rw [executed]) arming]
  exact kept timer known pushed uncancelled

theorem create_allKept (kept : mgr.AllKept) (timerType : TimerType) (delayseconds timeout : Int) :
    (mgr.create timerType delayseconds timeout).AllKept := by
  rw [allKept_iff_places] at kept ⊢
  intro timer known pushed uncancelled
  simp only [create, List.mem_append, List.mem_singleton, not_or, List.length_append,
    List.length_singleton] at known pushed
  have old : timer < mgr.table.length := by omega
  have arming : (mgr.create timerType delayseconds timeout).typeOf timer = mgr.typeOf timer := by
    simp only [typeOf, armingOf, create, List.getElem?_append_left old]
  exact Eq.trans (places_congr mgr rfl Iff.rfl rfl arming) (kept timer old pushed.1 uncancelled)

theorem push_allKept (sound : mgr.Sound) (kept : mgr.AllKept) (listed : timer ∈ mgr.creating) :
    AllKept { mgr with
      mTimers := mgr.pushed timer
      creating := mgr.creating.erase timer
      notifying := mgr.notifying + 1 } := by
  rw [allKept_iff_places] at kept ⊢
  intro other known pushed uncancelled
  have count : (mgr.pushed timer).count other =
      mgr.mTimers.count other + if timer = other then 1 else 0 := by
    rw [(mgr.pushed_perm timer).count_eq, List.count_cons]
    simp only [beq_iff_eq]
  by_cases same : timer = other
  · subst same
    obtain ⟨-, unqueued, apart, unexecuted⟩ := sound.created timer listed
    simp only [places, executing, count, if_true, List.count_eq_zero_of_not_mem unqueued,
      if_neg apart, List.count_eq_zero_of_not_mem unexecuted, ite_self]
  · rw [if_neg same, Nat.add_zero] at count
    have before : other ∉ mgr.creating := by
      intro waiting
      exact pushed (List.mem_erase_of_ne (Ne.symm same) |>.mpr waiting)
    exact Eq.trans (places_congr mgr count Iff.rfl rfl rfl) (kept other known before uncancelled)

theorem cancel_allKept (kept : mgr.AllKept) (timer : Nat) :
    AllKept { mgr.setTimer timer Timer.cancel with cancelled := mgr.cancelled ++ [timer] } := by
  rw [allKept_iff_places] at kept ⊢
  intro other known pushed uncancelled
  simp only [setTimer, List.length_modify, List.mem_append, List.mem_singleton,
    not_or] at known uncancelled
  have arming : (mgr.setTimer timer Timer.cancel).typeOf other = mgr.typeOf other := by
    rw [typeOf, armingOf_setTimer, if_neg (Ne.symm uncancelled.2), typeOf]
  exact Eq.trans (places_congr mgr rfl Iff.rfl rfl arming) (kept other known pushed uncancelled.1)

theorem typeOf_startExecute (mgr : TimerMgr) (tmp other : Nat) :
    (mgr.setTimer tmp fun timer => timer.startExecute.1).typeOf other = mgr.typeOf other := by
  rw [typeOf, armingOf_setTimer]
  split
  · rename_i same
    rw [typeOf, armingOf]
    cases mgr.table[other]? with
    | none => rfl
    | some value =>
      cases kind : value.timerType with
      | timerTypeLoop => simp [Timer.startExecute, Timer.arming, kind]
      | timerTypeOnce =>
        by_cases used : value.executeOnceFlag <;>
          simp [Timer.startExecute, Timer.arming, kind, used]
  · rfl

structure Popped (mgr next : TimerMgr) (tmp top : Nat) : Prop where
  timers : (top :: next.mTimers).Perm mgr.mTimers
  running : next.phase.running = some tmp
  executed : next.executed = mgr.executed
  creating : next.creating = mgr.creating
  cancelled : next.cancelled = mgr.cancelled
  length : next.table.length = mgr.table.length
  types : ∀ timer, next.typeOf timer = mgr.typeOf timer

theorem Popped.places_eq {top : Nat} (popped : Popped mgr next tmp top)
    (idle : mgr.phase.running = none) (timer : Nat) :
    next.places timer + (if top = timer then 1 else 0) =
      mgr.places timer + if tmp = timer then 1 else 0 := by
  have count : mgr.mTimers.count timer =
      next.mTimers.count timer + if top = timer then 1 else 0 := by
    rw [← popped.timers.count_eq, List.count_cons]
    simp only [beq_iff_eq]
  simp only [places, executing, count, idle, popped.running, popped.executed, popped.types timer,
    Option.some.injEq, reduceCtorEq, if_false]
  omega

theorem Popped.allKept_iff {top : Nat} (popped : Popped mgr next tmp top) (sound : mgr.Sound)
    (kept : mgr.AllKept) (idle : mgr.phase.running = none) (read : tmp ∈ mgr.mTimers) :
    next.AllKept ↔ (top = tmp ∨ tmp ∈ mgr.cancelled ∧ top ∈ mgr.cancelled) := by
  have moves := popped.places_eq idle
  have queued : ∀ timer ∈ mgr.mTimers, timer < mgr.table.length ∧ timer ∉ mgr.creating :=
    fun timer inside => ⟨sound.listed timer inside,
      fun waiting => (sound.created timer waiting).2.1 inside⟩
  have known := queued tmp read
  have first := queued top (popped.timers.mem_iff.mp List.mem_cons_self)
  rw [allKept_iff_places] at kept ⊢
  rw [popped.creating, popped.cancelled, popped.length]
  constructor
  · intro placed
    by_cases same : top = tmp
    · exact .inl same
    · refine .inr ⟨?_, ?_⟩
      · by_contra uncancelled
        have before := kept tmp known.1 known.2 uncancelled
        have after := placed tmp known.1 known.2 uncancelled
        have moved := moves tmp
        rw [if_neg same, if_pos rfl] at moved
        omega
      · by_contra uncancelled
        have before := kept top first.1 first.2 uncancelled
        have after := placed top first.1 first.2 uncancelled
        have moved := moves top
        rw [if_pos rfl, if_neg (Ne.symm same)] at moved
        omega
  · intro right timer inside pushed uncancelled
    have before := kept timer inside pushed uncancelled
    have moved := moves timer
    rcases right with same | ⟨tmpCancelled, topCancelled⟩
    · rw [same] at moved
      omega
    · have apart : top ≠ timer ∧ tmp ≠ timer :=
        ⟨fun self => uncancelled (self ▸ topCancelled),
          fun self => uncancelled (self ▸ tmpCancelled)⟩
      rw [if_neg apart.1, if_neg apart.2] at moved
      omega

theorem Finished.allKept (finished : Finished mgr next tmp runs) (sound : mgr.Sound)
    (kept : mgr.AllKept) (begun : mgr.phase = .executing tmp runs) : next.AllKept := by
  have running : mgr.phase.running = some tmp := by rw [begun]; rfl
  have done : next.phase.running = none := by rw [finished.phase]; rfl
  have length : next.table.length = mgr.table.length := by
    simpa using congrArg List.length finished.table
  have types : ∀ timer, next.typeOf timer = mgr.typeOf timer :=
    fun timer => congrArg (Option.map Prod.fst) (armingOf_eq_of_table finished.table timer)
  rw [allKept_iff_places] at kept ⊢
  rw [finished.creating, finished.cancelled, length]
  intro timer known pushed uncancelled
  have before := kept timer known pushed uncancelled
  obtain ⟨kind, callback, flag, arming⟩ : ∃ kind callback flag,
      mgr.armingOf timer = some (kind, callback, flag) := by
    simp [armingOf, known, Timer.arming]
  have type : mgr.typeOf timer = some kind := by simp [typeOf, arming]
  by_cases same : timer = tmp
  · subst same
    simp only [places, executing, running, type, if_true] at before
    simp only [places, executing, done, types, type, reduceCtorEq, if_false]
    cases kind with
    | timerTypeLoop =>
      obtain rfl := sound.loops timer callback flag uncancelled arming
      rw [(finished.again flag arming).count_eq, List.count_cons_self]
      simp only [reduceCtorEq, Option.some.injEq, if_false] at before ⊢
      omega
    | timerTypeOnce =>
      simp only [if_true] at before ⊢
      rw [finished.ended (by simp [arming]), finished.executed]
      cases runs with
      | true =>
        simp only [if_true, List.count_append, List.count_singleton_self]
        omega
      | false =>
        have logged := List.count_pos_iff.mpr (sound.runs timer begun uncancelled)
        omega
  · have queue : next.mTimers.count timer = mgr.mTimers.count timer := by
      by_cases loops : ∃ flag, mgr.armingOf tmp = some (.timerTypeLoop, true, flag)
      · obtain ⟨flag, loop⟩ := loops
        rw [(finished.again flag loop).count_eq, List.count_cons_of_ne (Ne.symm same)]
      · rw [finished.ended fun flag loop => loops ⟨flag, loop⟩]
    have executed : next.executed.count timer = mgr.executed.count timer := by
      rw [finished.executed]
      cases runs with
      | true => simp [List.count_append, Ne.symm same]
      | false => rfl
    have apart : next.phase.running = some timer ↔ mgr.phase.running = some timer := by
      simp [done, running, Ne.symm same]
    exact Eq.trans (places_congr mgr queue apart executed (types timer)) before

theorem step_allKept_iff {action : TimerAction} (sound : mgr.Sound) (kept : mgr.AllKept)
    (stepped : mgr.step action = some next) : next.AllKept ↔ mgr.PopsRead action := by
  have free : ∀ action, (∀ promoted, action ≠ .pop promoted) → mgr.PopsRead action := by
    intro action noPop
    cases action with
    | pop promoted => exact absurd rfl (noPop promoted)
    | _ => trivial
  cases stepped_of_step stepped with
  | quiet _ _ noPop timers creating cancelled executed table phase =>
    refine iff_of_true (quiet_allKept kept timers creating cancelled executed table ?_)
      (free _ noPop)
    rcases phase with same | ⟨idle, still, -⟩
    · rw [same]
    · rw [idle, still]
  | create _ noPop timerType delayseconds timeout =>
    exact iff_of_true (create_allKept kept timerType delayseconds timeout) (free _ noPop)
  | push timer listed => exact iff_of_true (push_allKept sound kept listed) trivial
  | cancel timer => exact iff_of_true (cancel_allKept kept timer) trivial
  | stop promoted tmp due closed =>
    refine iff_of_true (quiet_allKept kept rfl rfl rfl rfl rfl (by rw [due]; rfl)) ?_
    simp only [PopsRead, due, closed]
    split <;> simp
  | pop promoted tmp top rest remaining timer due running queue found left =>
    have popped : Popped mgr { mgr.setTimer tmp (fun timer => timer.startExecute.1) with
        mTimers := remaining
        phase := .executing tmp timer.startExecute.2 } tmp top := by
      refine ⟨?_, rfl, rfl, rfl, rfl, by simp [setTimer], mgr.typeOf_startExecute tmp⟩
      rw [queue]
      exact (popped_perm left).cons top
    rw [popped.allKept_iff sound kept (by rw [due]; rfl)
      (sound.remembered tmp (by rw [due]; rfl))]
    simp only [PopsRead, due, queue, running, forall_const]
  | finish tmp runs executing =>
    exact iff_of_true ((finish_finished mgr tmp runs).allKept sound kept executing) trivial

theorem scheduled_sound : scheduled.Sound := by
  constructor <;> simp [scheduled, TimerPhase.remembered, TimerPhase.running, armingOf]

/-- No timer is lost or duplicated exactly if every pop takes the timer that was read. -/
theorem allKept_iff_popsRead {actions : List TimerAction} {finish : TimerMgr}
    (ran : run step scheduled actions = some finish) :
    Always step AllKept scheduled actions ↔ Throughout step PopsRead scheduled actions := by
  refine always_iff_throughout (fun _ _ _ sound stepped => step_sound sound stepped)
    (fun _ _ _ sound kept stepped => step_allKept_iff sound kept stepped) scheduled_sound ?_ ran
  intro timer known
  cases known

def quietTimers : List TimerAction :=
  [.addTimer 5, .push 0, .wakeUp, .addTimerLoop 0 9, .push 1, .wakeUp, .timerRun, .readTop,
    .testLeftTime, .wake, .tick 6, .timerRun, .readTop, .testLeftTime, .pop 0, .finish,
    .setExecuteTimer, .tick 4, .timerRun, .readTop, .testLeftTime, .pop 0, .addTimer 20, .push 2,
    .finish, .wakeUp, .setExecuteTimer, .tick 9, .timerRun, .readTop, .testLeftTime, .pop 0]

theorem allKept_quietTimers : Always step AllKept scheduled quietTimers :=
  (allKept_iff_popsRead (Option.some_get
    (show (run step scheduled quietTimers).isSome = true by decide)).symm).mpr (by decide)

/-- The push of timer 0 lands after `timer_run` has read timer 1. -/
theorem late_push_loses_timer :
    ∃ finish, run step scheduled
        [.addTimer 0, .tick 1, .addTimer 0, .push 1, .wakeUp, .timerRun, .readTop, .testLeftTime,
          .push 0, .pop 0, .finish] = some finish ∧
      finish.mTimers = [1] ∧ finish.executed = [1] ∧ finish.cancelled = [] ∧
      finish.creating = [] ∧ ¬finish.Kept 0 ∧ ¬finish.Kept 1 := by
  obtain ⟨finish, ran, holds⟩ := (Option.any_eq_true _ _).mp
    (show (run step scheduled
        [.addTimer 0, .tick 1, .addTimer 0, .push 1, .wakeUp, .timerRun, .readTop, .testLeftTime,
          .push 0, .pop 0, .finish]).any (fun finish =>
      decide (finish.mTimers = [1] ∧ finish.executed = [1] ∧ finish.cancelled = [] ∧
        finish.creating = [] ∧ ¬finish.Kept 0 ∧ ¬finish.Kept 1)) = true by decide)
  exact ⟨finish, ran, of_decide_eq_true holds⟩

end TimerMgr

end PssAsio
