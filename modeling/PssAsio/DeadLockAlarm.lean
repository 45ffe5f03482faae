import Mathlib.Data.List.Basic
import PssAsio.TransitionRuns

/-!
The dead-lock alarm, which measures from the end of the last handler.
-/

namespace PssAsio

open TransitionRuns

inductive WorkThreadState where
  | workThreadInit
  | workThreadBegin
  | workThreadEnd
  deriving DecidableEq, Repr

structure ModuleLogic where
  workThreadId : UInt16
  lastDisposeCommandId : UInt16
  workThreadState : WorkThreadState
  workThreadRunTime : Nat
  -- the source does not keep this time
  entered : Nat
  deriving DecidableEq, Repr

structure DeadLockMessage where
  workThreadId : UInt16
  commandId : UInt16
  buffer : String
  deriving DecidableEq, Repr

def logicThreadDeadLock : UInt16 := 0x0005

def intOf (count : Nat) : Int :=
  if count % 4294967296 < 2147483648 then (count % 4294967296 : Int)
  else (count % 4294967296 : Int) - 4294967296

theorem intOf_le (count : Nat) : intOf count ≤ count := by
  unfold intOf
  split <;> omega

theorem intOf_lt (count : Nat) : intOf count < 2147483648 := by
  unfold intOf
  split <;> omega

theorem intOf_of_lt {count : Nat} (small : count < 2147483648) : intOf count = count := by
  unfold intOf
  split <;> omega

theorem intOf_neg {count : Nat} (large : 2147483648 ≤ count) (bounded : count < 4294967296) :
    intOf count < 0 := by
  unfold intOf
  split <;> omega

namespace ModuleLogic

def construct (now workThreadId : Nat) : ModuleLogic :=
  ⟨workThreadId.toUInt16, 0, .workThreadInit, now, now⟩

variable (moduleLogic : ModuleLogic)

def Executing : Prop := moduleLogic.workThreadState = .workThreadBegin
  deriving Decidable

def beginLogic (now : Nat) (commandId : UInt16) : ModuleLogic :=
  { moduleLogic with
    lastDisposeCommandId := commandId
    workThreadState := .workThreadBegin
    entered := now }

def endLogic (now : Nat) : ModuleLogic :=
  { moduleLogic with workThreadState := .workThreadEnd, workThreadRunTime := now }

/-- Time is counted in ticks, `perSecond` of them to a second; `duration_cast` cuts off. -/
def getWorkThreadTimeout (perSecond now : Nat) (moduleLogic : ModuleLogic) : Int :=
  if moduleLogic.workThreadState = .workThreadBegin then
    intOf ((now - moduleLogic.workThreadRunTime) / perSecond)
  else 0

theorem getWorkThreadTimeout_lt (perSecond now : Nat) (moduleLogic : ModuleLogic) :
    moduleLogic.getWorkThreadTimeout perSecond now < 2147483648 := by
  unfold getWorkThreadTimeout
  split
  · exact intOf_lt _
  · decide

end ModuleLogic

/-- `checking` is the timeout and the place in the loop of a `run_check_task` that has begun. -/
structure ThreadWatch where
  now : Nat
  threadModuleList : List ModuleLogic
  checking : Option (UInt32 × Nat)
  delivered : List DeadLockMessage
  deriving DecidableEq, Repr

inductive WatchAction where
  | tick (elapsed : Nat)
  | beginLogic (thread : Nat) (commandId : UInt16)
  | endLogic (thread : Nat)
  | runCheckTask (timeoutSeconds : UInt32)
  | checkModule
  deriving DecidableEq, Repr

namespace ThreadWatch

def fresh (now threadCount : Nat) : ThreadWatch :=
  ⟨now, (List.range threadCount).map (ModuleLogic.construct now), none, []⟩

variable (watch : ThreadWatch)

def FirstFree : Prop :=
  ∀ moduleLogic ∈ watch.threadModuleList[0]?, ¬moduleLogic.Executing
  deriving Decidable

def doWorkThreadTimeout (workThreadId lastDisposeCommandId : UInt16) (workThreadTimeout : Int) :
    ThreadWatch :=
  { watch with
    threadModuleList :=
      watch.threadModuleList.modify 0 (·.beginLogic watch.now logicThreadDeadLock)
    delivered := watch.delivered ++ [⟨workThreadId, logicThreadDeadLock,
      "\x7b\"thread id\":" ++ toString workThreadId.toNat ++
      ", \"command id\":\"" ++ toString lastDisposeCommandId.toNat ++
      "\", \"work_thread_timeout\":" ++ toString workThreadTimeout ++ "\"\x7d"⟩] }

variable (perSecond : Nat)

def check (watch : ThreadWatch) (timeoutSeconds : UInt32) (moduleLogic : ModuleLogic) :
    ThreadWatch :=
  let workThreadTimeout := moduleLogic.getWorkThreadTimeout perSecond watch.now
  if intOf timeoutSeconds.toNat < workThreadTimeout then
    watch.doWorkThreadTimeout moduleLogic.workThreadId moduleLogic.lastDisposeCommandId
      workThreadTimeout
  else watch

def step (watch : ThreadWatch) : WatchAction → Option ThreadWatch
  | .tick elapsed => some { watch with now := watch.now + elapsed }
  | .beginLogic thread commandId =>
      match watch.threadModuleList[thread]? with
      | none => none
      | some moduleLogic =>
          -- thread 0 takes no other task while it is in the check
          if moduleLogic.Executing ∨ (thread = 0 ∧ watch.checking.isSome) then none
          else some { watch with
            threadModuleList :=
              watch.threadModuleList.set thread (moduleLogic.beginLogic watch.now commandId) }
  | .endLogic thread =>
      match watch.threadModuleList[thread]? with
      | none => none
      | some moduleLogic =>
          if moduleLogic.Executing then
            some { watch with
              threadModuleList :=
                watch.threadModuleList.set thread (moduleLogic.endLogic watch.now) }
          else none
  | .runCheckTask timeoutSeconds =>
      if watch.FirstFree ∧ watch.checking = none then
        some { watch with checking := some (timeoutSeconds, 0) }
      else none
  | .checkModule =>
      match watch.checking with
      | none => none
      | some (timeoutSeconds, index) =>
          if watch.FirstFree then
            match watch.threadModuleList[index]? with
            | none => some { watch with checking := none }
            | some moduleLogic =>
                some { watch.check perSecond timeoutSeconds moduleLogic with
                  checking := some (timeoutSeconds, index + 1) }
          else none

def IdleAtMost (idle : Nat) (watch : ThreadWatch) : WatchAction → Prop
  | .beginLogic thread _ =>
      ∀ moduleLogic ∈ watch.threadModuleList[thread]?,
        watch.now - moduleLogic.workThreadRunTime ≤ idle
  | _ => True

instance (idle : Nat) (watch : ThreadWatch) (action : WatchAction) :
    Decidable (IdleAtMost idle watch action) := by
  unfold IdleAtMost
  split <;> infer_instance

variable (timeoutSeconds : UInt32)

def underCheck : Option ModuleLogic :=
  match watch.checking with
  | none => none
  | some (timeout, index) =>
      if timeout = timeoutSeconds then watch.threadModuleList[index]? else none

/-- An alarm is only for a thread inside a handler that began more than the timeout ago. -/
def RaisesTruly (watch : ThreadWatch) :
    WatchAction → Prop
  | .checkModule =>
      ∀ moduleLogic ∈ watch.underCheck timeoutSeconds, ∀ next ∈ watch.step perSecond .checkModule,
        watch.delivered.length < next.delivered.length →
        moduleLogic.Executing ∧ moduleLogic.entered + timeoutSeconds.toNat * perSecond < watch.now
  | _ => True

instance (watch : ThreadWatch) (action : WatchAction) :
    Decidable (RaisesTruly perSecond timeoutSeconds watch action) := by
  unfold RaisesTruly
  split <;> infer_instance

variable {moduleLogic : ModuleLogic} {next watch : ThreadWatch}
  {perSecond idle threadCount now : Nat} {timeoutSeconds : UInt32}

theorem module_of_set {modules : List ModuleLogic} {changed thread : Nat}
    {before after : ModuleLogic} (held : modules[changed]? = some before)
    (found : (modules.set changed after)[thread]? = some moduleLogic) :
    modules[thread]? = some moduleLogic ∨ (changed = thread ∧ moduleLogic = after) := by
  by_cases same : changed = thread
  · subst same
    rw [List.getElem?_set_self (List.getElem?_eq_some_iff.mp held).1] at found
    exact .inr ⟨rfl, (Option.some.inj found).symm⟩
  · exact .inl (by rwa [List.getElem?_set_ne same] at found)

theorem step_module {action : WatchAction} (stepped : watch.step perSecond action = some next)
    {thread : Nat} (other : thread ≠ 0)
    (found : next.threadModuleList[thread]? = some moduleLogic) :
    watch.threadModuleList[thread]? = some moduleLogic ∨
    (∃ before commandId, action = .beginLogic thread commandId ∧
      watch.threadModuleList[thread]? = some before ∧
      moduleLogic = before.beginLogic watch.now commandId) ∨
    ¬moduleLogic.Executing := by
  cases action with
  | tick elapsed =>
    cases stepped
    exact .inl found
  | beginLogic changed commandId =>
    simp only [step] at stepped
    split at stepped
    · cases stepped
    · rename_i before held
      split at stepped
      · cases stepped
      · cases stepped
        obtain kept | ⟨rfl, rfl⟩ := module_of_set held found
        · exact .inl kept
        · exact .inr (.inl ⟨before, commandId, rfl, held, rfl⟩)
  | endLogic changed =>
    simp only [step] at stepped
    split at stepped
    · cases stepped
    · rename_i before held
      split at stepped
      · cases stepped
        obtain kept | ⟨rfl, rfl⟩ := module_of_set held found
        · exact .inl kept
        · exact .inr (.inr (by simp [ModuleLogic.Executing, ModuleLogic.endLogic]))
      · cases stepped
  | runCheckTask timeoutSeconds =>
    simp only [step] at stepped
    split at stepped
    · cases stepped
      exact .inl found
    · cases stepped
  | checkModule =>
    simp only [step] at stepped
    split at stepped
    · cases stepped
    · split at stepped
      · split at stepped
        · cases stepped
          exact .inl found
        · cases stepped
          refine .inl ?_
          simp only [check] at found
          split at found
          · simpa [doWorkThreadTimeout, List.getElem?_modify, Ne.symm other] using found
          · exact found
      · cases stepped

theorem step_length {action : WatchAction} (stepped : watch.step perSecond action = some next) :
    next.threadModuleList.length = watch.threadModuleList.length := by
  cases action <;> grind [step, check, doWorkThreadTimeout]

structure Prompt (idle threadCount : Nat) (watch : ThreadWatch) : Prop where
  modules : watch.threadModuleList.length = threadCount
  begun : ∀ thread moduleLogic, thread ≠ 0 →
    watch.threadModuleList[thread]? = some moduleLogic → moduleLogic.Executing →
    moduleLogic.entered ≤ moduleLogic.workThreadRunTime + idle

theorem fresh_prompt (idle now threadCount : Nat) :
    Prompt idle threadCount (fresh now threadCount) where
  modules := by simp [fresh]
  begun := by
    intro thread moduleLogic _ found executing
    simp only [fresh, List.getElem?_map, Option.map_eq_some_iff] at found
    obtain ⟨_, _, rfl⟩ := found
    cases executing

theorem step_prompt (watch : ThreadWatch) (action : WatchAction) (next : ThreadWatch)
    (prompt : Prompt idle threadCount watch) (idled : IdleAtMost idle watch action)
    (stepped : watch.step perSecond action = some next) : Prompt idle threadCount next where
  modules := (step_length stepped).trans prompt.modules
  begun := by
    intro thread moduleLogic other found executing
    obtain held | ⟨before, commandId, rfl, held, rfl⟩ | ended := step_module stepped other found
    · exact prompt.begun thread moduleLogic other held executing
    · have gap : watch.now - before.workThreadRunTime ≤ idle := idled before held
      change watch.now ≤ before.workThreadRunTime + idle
      omega
    · exact absurd executing ended

theorem delivers_overdue (looked : moduleLogic ∈ watch.underCheck timeoutSeconds)
    (stepped : next ∈ watch.step perSecond .checkModule)
    (more : watch.delivered.length < next.delivered.length) :
    watch.FirstFree ∧ (∃ thread : Nat, watch.threadModuleList[thread]? = some moduleLogic) ∧
      intOf timeoutSeconds.toNat < moduleLogic.getWorkThreadTimeout perSecond watch.now := by
  simp only [underCheck] at looked
  split at looked
  · cases looked
  · rename_i timeout index checking
    split at looked
    · rename_i same
      subst same
      have held : watch.threadModuleList[index]? = some moduleLogic := looked
      simp only [step, checking, held, Option.mem_def] at stepped
      split at stepped
      · rename_i free
        cases stepped
        simp only [check] at more
        split at more
        · rename_i overdue
          exact ⟨free, ⟨index, held⟩, overdue⟩
        · omega
      · cases stepped
    · cases looked

theorem getWorkThreadTimeout_gt {timeout : Nat}
    (overdue : (timeout : Int) < moduleLogic.getWorkThreadTimeout perSecond now) :
    moduleLogic.Executing ∧
      moduleLogic.workThreadRunTime + (timeout + 1) * perSecond ≤ now := by
  unfold ModuleLogic.getWorkThreadTimeout at overdue
  split at overdue
  · rename_i executing
    have whole := intOf_le ((now - moduleLogic.workThreadRunTime) / perSecond)
    have seconds : timeout + 1 ≤ (now - moduleLogic.workThreadRunTime) / perSecond := by omega
    have ticks : (timeout + 1) * perSecond ≤ now - moduleLogic.workThreadRunTime :=
      Nat.le_trans (Nat.mul_le_mul_right perSecond seconds) (Nat.div_mul_le_self _ _)
    have ticking : 0 < perSecond := by
      refine Nat.pos_of_ne_zero fun still => ?_
      rw [still, Nat.div_zero] at seconds
      omega
    have later : 0 < (timeout + 1) * perSecond := Nat.mul_pos (Nat.succ_pos _) ticking
    exact ⟨executing, by omega⟩
  · omega

/-- Less than a second of idle time cannot make up for a missing second. -/
theorem raisesTruly_of_prompt (signed : timeoutSeconds.toNat < 2147483648)
    (harmless : idle < perSecond ∨ timeoutSeconds.toNat + 1 = 2147483648 ∨ threadCount = 1)
    (prompt : Prompt idle threadCount watch) (action : WatchAction) :
    RaisesTruly perSecond timeoutSeconds watch action := by
  cases action with
  | checkModule =>
    intro moduleLogic looked next stepped more
    obtain ⟨free, ⟨thread, held⟩, overdue⟩ := delivers_overdue looked stepped more
    rw [intOf_of_lt signed] at overdue
    obtain ⟨executing, measured⟩ := getWorkThreadTimeout_gt overdue
    have other : thread ≠ 0 := by
      rintro rfl
      exact free moduleLogic held executing
    refine ⟨executing, ?_⟩
    obtain short | last | single := harmless
    · have begun := prompt.begun thread moduleLogic other held executing
      rw [Nat.succ_mul] at measured
      omega
    · -- no `int` is above the greatest one
      have below := ModuleLogic.getWorkThreadTimeout_lt perSecond watch.now moduleLogic
      omega
    · have inside := (List.getElem?_eq_some_iff.mp held).1
      rw [prompt.modules] at inside
      omega
  | tick elapsed | beginLogic thread commandId | endLogic thread | runCheckTask timeout => trivial

theorem alarm_for_idle_thread (working : 0 < threadCount)
    (unsigned : 2147483648 ≤ timeoutSeconds.toNat) :
    ¬Throughout (step perSecond) (RaisesTruly perSecond timeoutSeconds) (fresh now threadCount)
      [.runCheckTask timeoutSeconds, .checkModule] := by
  obtain ⟨others, rfl⟩ : ∃ others, threadCount = others + 1 := ⟨threadCount - 1, by omega⟩
  have negative := intOf_neg unsigned timeoutSeconds.toNat_lt
  simp [Throughout, step, fresh, FirstFree, RaisesTruly, underCheck, check, doWorkThreadTimeout,
    List.range_succ_eq_map, ModuleLogic.construct, ModuleLogic.Executing,
    ModuleLogic.getWorkThreadTimeout, negative]

theorem alarm_after_gap (ticking : 0 < perSecond) (several : 2 ≤ threadCount)
    (signed : timeoutSeconds.toNat + 1 < 2147483648) :
    ¬Throughout (step perSecond) (RaisesTruly perSecond timeoutSeconds) (fresh now threadCount)
      [.tick perSecond, .beginLogic 1 0, .tick (timeoutSeconds.toNat * perSecond),
        .runCheckTask timeoutSeconds, .checkModule, .checkModule] := by
  obtain ⟨others, rfl⟩ : ∃ others, threadCount = others + 2 := ⟨threadCount - 2, by omega⟩
  have measured : (now + perSecond + timeoutSeconds.toNat * perSecond - now) / perSecond =
      timeoutSeconds.toNat + 1 := by
    rw [Nat.add_assoc, Nat.add_sub_cancel_left, Nat.add_mul_div_right _ _ ticking,
      Nat.div_self ticking, Nat.add_comm]
  have timeout : intOf timeoutSeconds.toNat = timeoutSeconds.toNat := intOf_of_lt (by omega)
  have overdue : intOf (timeoutSeconds.toNat + 1) = timeoutSeconds.toNat + 1 := intOf_of_lt signed
  have quiet : ¬(timeoutSeconds.toNat : Int) < 0 := by omega
  have beyond : (timeoutSeconds.toNat : Int) < timeoutSeconds.toNat + 1 := by omega
  simp [Throughout, step, fresh, FirstFree, RaisesTruly, underCheck, check, doWorkThreadTimeout,
    List.range_succ_eq_map, ModuleLogic.construct, ModuleLogic.Executing, ModuleLogic.beginLogic,
    ModuleLogic.getWorkThreadTimeout, measured, timeout, overdue,
    quiet, beyond]

theorem idleAtMost_of_no_begin {actions : List WatchAction}
    (none : ∀ action ∈ actions, ∀ thread commandId, action ≠ .beginLogic thread commandId)
    (watch : ThreadWatch) : Throughout (step perSecond) (IdleAtMost idle) watch actions := by
  have kept : Throughout (step perSecond)
      (fun _ action => ∀ thread commandId, action ≠ .beginLogic thread commandId) watch actions :=
    throughout_of_mem none watch
  refine throughout_of_invariant (fun _ _ _ _ _ _ => trivial) ?_ trivial kept
  intro state action _ other
  cases action with
  | beginLogic thread commandId => exact absurd rfl (other thread commandId)
  | tick elapsed | endLogic thread | runCheckTask timeout | checkModule => trivial

theorem gap_idleAtMost (timeoutSeconds : UInt32) (long : perSecond ≤ idle) :
    Throughout (step perSecond) (IdleAtMost idle) (fresh now threadCount)
      [.tick perSecond, .beginLogic 1 0, .tick (timeoutSeconds.toNat * perSecond),
        .runCheckTask timeoutSeconds, .checkModule, .checkModule] := by
  refine ⟨trivial, ?_, ?_⟩
  · intro moduleLogic held
    simp only [fresh, List.getElem?_map, Option.mem_def, Option.map_eq_some_iff] at held
    obtain ⟨_, _, rfl⟩ := held
    simpa [ModuleLogic.construct, fresh] using long
  · split
    · exact idleAtMost_of_no_begin (by simp) _
    · trivial

theorem throughout_raisesTruly (signed : timeoutSeconds.toNat < 2147483648)
    (harmless : idle < perSecond ∨ timeoutSeconds.toNat + 1 = 2147483648 ∨ threadCount = 1)
    {actions : List WatchAction}
    (idled : Throughout (step perSecond) (IdleAtMost idle) (fresh now threadCount) actions) :
    Throughout (step perSecond) (RaisesTruly perSecond timeoutSeconds) (fresh now threadCount)
      actions :=
  throughout_of_invariant step_prompt
    (fun _ action prompt _ => raisesTruly_of_prompt signed harmless prompt action)
    (fresh_prompt idle now threadCount) idled

/-- A run raises true alarms if each handler begins less than a second after the one before it. -/
theorem raisesTruly_of_begins_within_second (ticking : 0 < perSecond)
    (signed : timeoutSeconds.toNat < 2147483648) {actions : List WatchAction}
    (begins : Throughout (step perSecond) (IdleAtMost (perSecond - 1)) (fresh now threadCount)
      actions) :
    Throughout (step perSecond) (RaisesTruly perSecond timeoutSeconds) (fresh now threadCount)
      actions :=
  throughout_raisesTruly signed (.inl (by omega)) begins

/-- All alarms are true exactly if the timeout is not negative and idle times stay below a second,
apart from the greatest timeout and a single thread. -/
theorem raisesTruly_iff_short_idle {perSecond threadCount : Nat} (now idle : Nat)
    (timeoutSeconds : UInt32) (ticking : 0 < perSecond) (working : 0 < threadCount) :
    (∀ actions,
      Throughout (step perSecond) (IdleAtMost idle) (fresh now threadCount) actions →
      Throughout (step perSecond) (RaisesTruly perSecond timeoutSeconds) (fresh now threadCount)
        actions) ↔
    timeoutSeconds.toNat < 2147483648 ∧
      (idle < perSecond ∨ timeoutSeconds.toNat + 1 = 2147483648 ∨ threadCount = 1) := by
  constructor
  · intro truthful
    have signed : timeoutSeconds.toNat < 2147483648 := by
      by_contra unsigned
      exact alarm_for_idle_thread working (Nat.le_of_not_lt unsigned)
        (truthful _ (idleAtMost_of_no_begin (by simp) _))
    refine ⟨signed, ?_⟩
    by_contra harmful
    exact alarm_after_gap ticking (by omega) (by omega)
      (truthful _ (gap_idleAtMost timeoutSeconds (by omega)))
  · rintro ⟨signed, harmless⟩ actions idled
    exact throughout_raisesTruly signed harmless idled

theorem half_second_idle_raisesTruly :
    Throughout (step 1000) (RaisesTruly 1000 60) (fresh 0 2)
      [.tick 500, .beginLogic 1 7, .tick 61000, .runCheckTask 60, .checkModule, .checkModule] :=
  (raisesTruly_iff_short_idle 0 500 60 (by decide) (by decide)).mpr
    (by decide) _ (by decide)

/-- A minute without messages, then a handler, and the check in the same second. -/
theorem idle_minute_false_alarm :
    let actions : List WatchAction :=
      [.tick 61, .beginLogic 1 7, .runCheckTask 60, .checkModule, .checkModule]
    ((run (step 1) (fresh 0 2) actions).map fun finish => finish.delivered.length) = some 1 ∧
      ((run (step 1) (fresh 0 2) actions).map fun finish =>
        finish.threadModuleList[1]?.map fun moduleLogic =>
          (moduleLogic.workThreadState, moduleLogic.entered, finish.now)) =
        some (some (.workThreadBegin, 61, 61)) ∧
      ¬Throughout (step 1) (RaisesTruly 1 60) (fresh 0 2) actions := by
  decide

end ThreadWatch

end PssAsio
