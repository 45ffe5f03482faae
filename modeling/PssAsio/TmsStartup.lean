import PssAsio.TmsScheduleCore

/-!
Calls before and after `TMS::Start`.
-/

namespace PssAsio

namespace TmsCall

variable {Func : Type}

def created : TmsCall Func → Option UInt32
  | .createLogic logicId => some logicId
  | _ => none

def event : TmsCall Func → Option (TmsEvent Func)
  | .createLogic _ => none
  | .addMessage logicId func => some ⟨logicId, func, .tmsEventImmediately, 0, 0⟩
  | .addMessageDelay logicId millisecond func =>
      some ⟨logicId, func, .tmsEventDelay, millisecond, 0⟩
  | .addMessageLoop logicId delayseconds millisecond func =>
      some ⟨logicId, func, .tmsEventTimer, millisecond, delayseconds⟩

def target (call : TmsCall Func) : Option UInt32 := call.event.map TmsEvent.logicId

def queuedOn (logicId : UInt32) (calls : List (TmsCall Func)) : List Func :=
  calls.filterMap fun
    | .addMessage other func => if other = logicId then some func else none
    | _ => none

def registered (calls : List (TmsCall Func)) : List (TmsTimer Func) :=
  calls.filterMap fun
    | .addMessageDelay logicId millisecond func =>
        some ⟨.timerTypeOnce, 0, millisecond, logicId, func⟩
    | .addMessageLoop logicId delayseconds millisecond func =>
        some ⟨.timerTypeLoop, delayseconds, millisecond, logicId, func⟩
    | _ => none

end TmsCall

namespace TmsSchedule

variable {Func : Type}

def startedWith (logicIds : List UInt32) : TmsSchedule Func :=
  ((init : TmsSchedule Func).performAll (logicIds.map .createLogic)).start

def live (tms : TmsSchedule Func) : TmsSchedule Func := { tms with tmsEvents := [] }

variable {tms : TmsSchedule Func} {calls : List (TmsCall Func)} {logicId : UInt32}

theorem perform_unstarted (unstarted : tms.tmsIsStart = false) (call : TmsCall Func) :
    (tms.perform call).tmsIsStart = false ∧
    (tms.perform call).live = tms.live.performAll (call.created.toList.map .createLogic) ∧
    (tms.perform call).tmsEvents = tms.tmsEvents ++ call.event.toList := by
  cases call with
  | createLogic logicId =>
    cases opened : tms.mapLogicList logicId <;>
      simp [perform, performAll, createLogic, live, unstarted, opened, TmsCall.created,
        TmsCall.event]
  | addMessage logicId func =>
    simp [perform, performAll, addMessage, keepEvent, live, unstarted, TmsCall.created,
      TmsCall.event]
  | addMessageDelay logicId millisecond func =>
    simp [perform, performAll, addMessageDelay, keepEvent, live, unstarted, TmsCall.created,
      TmsCall.event]
  | addMessageLoop logicId delayseconds millisecond func =>
    simp [perform, performAll, addMessageLoop, keepEvent, live, unstarted, TmsCall.created,
      TmsCall.event]

theorem performAll_unstarted (unstarted : tms.tmsIsStart = false) (calls : List (TmsCall Func)) :
    (tms.performAll calls).tmsIsStart = false ∧
    (tms.performAll calls).live =
      tms.live.performAll ((calls.filterMap TmsCall.created).map .createLogic) ∧
    (tms.performAll calls).tmsEvents = tms.tmsEvents ++ calls.filterMap TmsCall.event := by
  induction calls generalizing tms with
  | nil => exact ⟨unstarted, rfl, (List.append_nil _).symm⟩
  | cons call rest ih =>
    obtain ⟨still, lives, events⟩ := perform_unstarted unstarted call
    obtain ⟨later, restLives, restEvents⟩ := ih still
    refine ⟨later, ?_, ?_⟩
    · refine restLives.trans ?_
      rw [lives]
      cases created : call.created <;> simp [created, performAll]
    · refine restEvents.trans ?_
      rw [events]
      cases event : call.event <;> simp [event]

theorem perform_started (started : tms.tmsIsStart = true) (call : TmsCall Func) :
    (tms.perform call).tmsIsStart = true ∧ (tms.perform call).live = tms.live.perform call := by
  cases call with
  | createLogic logicId =>
    cases opened : tms.mapLogicList logicId <;>
      simp [perform, createLogic, live, started, opened]
  | addMessage logicId func =>
    cases opened : tms.mapLogicList logicId <;>
      simp [perform, addMessage, live, started, opened]
  | addMessageDelay logicId millisecond func =>
    cases opened : tms.mapLogicList logicId <;>
      simp [perform, addMessageDelay, addTimerFor, live, started, opened]
  | addMessageLoop logicId delayseconds millisecond func =>
    cases opened : tms.mapLogicList logicId <;>
      simp [perform, addMessageLoop, addTimerFor, live, started, opened]

theorem performAll_started (started : tms.tmsIsStart = true) (calls : List (TmsCall Func)) :
    (tms.performAll calls).tmsIsStart = true ∧
      (tms.performAll calls).live = tms.live.performAll calls := by
  induction calls generalizing tms with
  | nil => exact ⟨started, rfl⟩
  | cons call rest ih =>
    obtain ⟨still, same⟩ := perform_started started call
    obtain ⟨later, equal⟩ := ih still
    exact ⟨later, equal.trans (congrArg (fun tms => performAll tms rest) same)⟩

theorem replay_event {call : TmsCall Func} {event : TmsEvent Func}
    (left : call.event = some event) : tms.replay event = tms.perform call := by
  cases call <;> cases left <;> rfl

theorem replay_all (tms : TmsSchedule Func) (calls : List (TmsCall Func)) :
    (calls.filterMap TmsCall.event).foldl replay tms =
      tms.performAll (calls.filter fun call => call.event.isSome) := by
  induction calls generalizing tms with
  | nil => rfl
  | cons call rest ih =>
    cases left : call.event with
    | none => simp [left, ih]
    | some event => simp [left, ih, performAll, replay_event left]

theorem start_live (events : tms.tmsEvents = calls.filterMap TmsCall.event) :
    tms.start.tmsIsStart = true ∧
      tms.start.live = { tms.live with tmsIsStart := true }.performAll
        (calls.filter fun call => call.event.isSome) := by
  unfold start
  rw [events, replay_all]
  exact performAll_started rfl _

section Started

variable (started : tms.tmsIsStart = true)

include started

theorem perform_queue {queue : List Func} (opened : tms.mapLogicList logicId = some queue)
    (call : TmsCall Func) :
    (tms.perform call).mapLogicList logicId = some (queue ++ TmsCall.queuedOn logicId [call]) := by
  cases call with
  | createLogic other =>
    cases found : tms.mapLogicList other with
    | some _ => simp [perform, createLogic, found, opened, TmsCall.queuedOn]
    | none =>
      have apart : logicId ≠ other := by
        rintro rfl
        simp [opened] at found
      simp [perform, createLogic, found, opened, apart, TmsCall.queuedOn]
  | addMessage other func =>
    by_cases same : other = logicId
    · subst same
      simp [perform, addMessage, started, opened, TmsCall.queuedOn]
    · have apart : logicId ≠ other := fun equal => same equal.symm
      cases found : tms.mapLogicList other <;>
        simp [perform, addMessage, started, found, opened, same, apart, TmsCall.queuedOn]
  | addMessageDelay other millisecond func =>
    cases found : tms.mapLogicList other <;>
      simp [perform, addMessageDelay, addTimerFor, started, found, opened, TmsCall.queuedOn]
  | addMessageLoop other delayseconds millisecond func =>
    cases found : tms.mapLogicList other <;>
      simp [perform, addMessageLoop, addTimerFor, started, found, opened, TmsCall.queuedOn]

theorem perform_timers {call : TmsCall Func}
    (opened : ∀ logicId, call.target = some logicId → (tms.mapLogicList logicId).isSome) :
    (tms.perform call).timers = tms.timers ++ TmsCall.registered [call] := by
  cases call with
  | createLogic other =>
    cases found : tms.mapLogicList other <;>
      simp [perform, createLogic, found, TmsCall.registered]
  | addMessage other func =>
    cases found : tms.mapLogicList other <;>
      simp [perform, addMessage, started, found, TmsCall.registered]
  | addMessageDelay other millisecond func =>
    obtain ⟨queue, found⟩ := Option.isSome_iff_exists.mp (opened other rfl)
    simp [perform, addMessageDelay, addTimerFor, started, found, TmsCall.registered]
  | addMessageLoop other delayseconds millisecond func =>
    obtain ⟨queue, found⟩ := Option.isSome_iff_exists.mp (opened other rfl)
    simp [perform, addMessageLoop, addTimerFor, started, found, TmsCall.registered]

theorem perform_open (call : TmsCall Func) (opened : (tms.mapLogicList logicId).isSome) :
    ((tms.perform call).mapLogicList logicId).isSome := by
  obtain ⟨queue, found⟩ := Option.isSome_iff_exists.mp opened
  rw [perform_queue started found call]
  rfl

theorem performAll_queue {queue : List Func} (opened : tms.mapLogicList logicId = some queue)
    (calls : List (TmsCall Func)) :
    (tms.performAll calls).mapLogicList logicId =
      some (queue ++ TmsCall.queuedOn logicId calls) := by
  induction calls generalizing tms queue with
  | nil => simpa [performAll, TmsCall.queuedOn] using opened
  | cons call rest ih =>
    have queued := ih (perform_started started call).1 (perform_queue started opened call)
    have split : TmsCall.queuedOn logicId (call :: rest) =
        TmsCall.queuedOn logicId [call] ++ TmsCall.queuedOn logicId rest :=
      List.filterMap_append (l := [call])
    rw [split, ← List.append_assoc]
    exact queued

theorem performAll_timers (opened : ∀ call ∈ calls, ∀ logicId, call.target = some logicId →
      (tms.mapLogicList logicId).isSome) :
    (tms.performAll calls).timers = tms.timers ++ TmsCall.registered calls := by
  induction calls generalizing tms with
  | nil => exact (List.append_nil _).symm
  | cons call rest ih =>
    have added := perform_timers started (opened call (.head _))
    have rested := ih (perform_started started call).1 fun later member logicId aimed =>
      perform_open started call (opened later (.tail _ member) logicId aimed)
    have split : TmsCall.registered (call :: rest) =
        TmsCall.registered [call] ++ TmsCall.registered rest :=
      List.filterMap_append (l := [call])
    rw [split, ← List.append_assoc, ← added]
    exact rested

theorem performAll_messages
    (opened : ∀ logicId, .createLogic logicId ∈ calls → (tms.mapLogicList logicId).isSome) :
    tms.performAll (calls.filter fun call => call.event.isSome) = tms.performAll calls := by
  induction calls generalizing tms with
  | nil => rfl
  | cons call rest ih =>
    have kept : (tms.perform call).performAll (rest.filter fun call => call.event.isSome) =
        (tms.perform call).performAll rest :=
      ih (perform_started started call).1 fun logicId member =>
        perform_open started call (opened logicId (.tail _ member))
    cases call with
    | createLogic logicId =>
      obtain ⟨queue, found⟩ := Option.isSome_iff_exists.mp (opened logicId (.head _))
      have unchanged : tms.perform (.createLogic logicId) = tms := by
        simp [perform, createLogic, found]
      rw [unchanged] at kept
      exact kept.trans (congrArg (fun tms => performAll tms rest) unchanged.symm)
    | addMessage | addMessageDelay | addMessageLoop => exact kept

end Started

theorem create_open (quiet : ∀ logicId queue, tms.mapLogicList logicId = some queue → queue = [])
    {logicIds : List UInt32} (member : (tms.mapLogicList logicId).isSome ∨ logicId ∈ logicIds) :
    (tms.performAll (logicIds.map .createLogic)).mapLogicList logicId = some [] := by
  induction logicIds generalizing tms with
  | nil =>
    obtain ⟨queue, found⟩ :=
      Option.isSome_iff_exists.mp (member.resolve_right List.not_mem_nil)
    rw [← quiet logicId queue found]
    exact found
  | cons first rest ih =>
    have created : ((tms.perform (.createLogic first)).performAll
        (rest.map .createLogic)).mapLogicList logicId = some [] := ?_
    · exact created
    refine ih ?_ ?_
    · intro other queue
      simp only [perform, createLogic]
      cases found : tms.mapLogicList first with
      | some _ => exact quiet other queue
      | none =>
        by_cases same : other = first
        · subst same
          intro created
          simpa using created.symm
        · simpa [same] using quiet other queue
    · simp only [perform, createLogic]
      by_cases same : logicId = first
      · subst same
        cases found : tms.mapLogicList logicId <;> simp [found]
      · have before : (tms.mapLogicList logicId).isSome ∨ logicId ∈ rest := by
          simpa [same] using member
        cases found : tms.mapLogicList first <;> simpa [same] using before

theorem startedWith_eq (logicIds : List UInt32) :
    (startedWith logicIds : TmsSchedule Func) =
      { ((init : TmsSchedule Func).performAll (logicIds.map .createLogic)).live with
        tmsIsStart := true } := by
  have unstarted : (init : TmsSchedule Func).tmsIsStart = false := rfl
  obtain ⟨_, _, events⟩ := performAll_unstarted unstarted (logicIds.map .createLogic)
  refine start_quiet (events.trans ?_)
  simp [init, TmsCall.event]

theorem startedWith_timers (logicIds : List UInt32) :
    (startedWith logicIds : TmsSchedule Func).timers = [] := by
  have untouched : ∀ tms : TmsSchedule Func,
      (tms.performAll (logicIds.map .createLogic)).timers = tms.timers := by
    induction logicIds with
    | nil => exact fun _ => rfl
    | cons first rest ih =>
      intro tms
      refine (ih (tms.perform (.createLogic first))).trans ?_
      cases found : tms.mapLogicList first <;> simp [perform, createLogic, found]
  rw [startedWith_eq]
  exact untouched init

theorem startedWith_open {logicIds : List UInt32} (member : logicId ∈ logicIds) :
    (startedWith logicIds : TmsSchedule Func).mapLogicList logicId = some [] := by
  have quiet : ∀ logicId queue, (init : TmsSchedule Func).mapLogicList logicId = some queue →
      queue = [] := fun _ _ found => nomatch found
  rw [startedWith_eq]
  exact create_open quiet (.inr member)

theorem mem_created : logicId ∈ calls.filterMap TmsCall.created ↔ .createLogic logicId ∈ calls := by
  rw [List.mem_filterMap]
  constructor
  · rintro ⟨call, member, created⟩
    cases call <;> cases created
    exact member
  · exact fun member => ⟨_, member, rfl⟩

theorem start_eq_startedWith (before : List (TmsCall Func)) :
    ((init : TmsSchedule Func).performAll before).start.tmsIsStart = true ∧
    ((init : TmsSchedule Func).performAll before).start.live =
      (startedWith (before.filterMap TmsCall.created)).performAll before := by
  have unstarted : (init : TmsSchedule Func).tmsIsStart = false := rfl
  obtain ⟨_, lives, events⟩ := performAll_unstarted unstarted before
  obtain ⟨started, replayed⟩ := start_live events
  refine ⟨started, replayed.trans ?_⟩
  have threads : { ((init : TmsSchedule Func).performAll before).live with tmsIsStart := true } =
      startedWith (before.filterMap TmsCall.created) := by
    have made : (init : TmsSchedule Func).performAll
        ((before.filterMap TmsCall.created).map .createLogic) =
          ((init : TmsSchedule Func).performAll before).live := lives.symm
    rw [startedWith_eq, made]
    rfl
  rw [threads]
  refine performAll_messages (by rw [startedWith_eq]) fun logicId member => ?_
  rw [startedWith_open (mem_created.mpr member)]
  rfl

/-- Calls before and after the start leave what they leave on a `TMS` that was started before them.
-/
theorem startup_transparent (before after : List (TmsCall Func)) (created : ∀ call ∈ before ++
      after, ∀ logicId, call.target = some logicId → .createLogic logicId ∈ before) :
    let buffered := (((init : TmsSchedule Func).performAll before).start).performAll after
    let direct := (startedWith (before.filterMap TmsCall.created)).performAll (before ++ after)
    buffered.mapLogicList = direct.mapLogicList ∧ buffered.timers = direct.timers ∧
    (∀ logicId, .createLogic logicId ∈ before → buffered.mapLogicList logicId =
      some (TmsCall.queuedOn logicId (before ++ after))) ∧
    buffered.timers = TmsCall.registered (before ++ after) := by
  intro buffered direct
  obtain ⟨started, begun⟩ := start_eq_startedWith before
  have equal : buffered.live = direct := by
    refine (performAll_started started after).2.trans ?_
    rw [begun]
    exact (List.foldl_append ..).symm
  have running : (startedWith (before.filterMap TmsCall.created) :
      TmsSchedule Func).tmsIsStart = true := by rw [startedWith_eq]
  have queues : buffered.live.mapLogicList = direct.mapLogicList := by rw [equal]
  have timers : buffered.live.timers = direct.timers := by rw [equal]
  have opened : ∀ logicId, .createLogic logicId ∈ before →
      (startedWith (before.filterMap TmsCall.created) :
        TmsSchedule Func).mapLogicList logicId = some [] := fun logicId member =>
    startedWith_open (mem_created.mpr member)
  refine ⟨queues, timers, fun logicId member => ?_, timers.trans ?_⟩
  · exact (congrFun queues logicId).trans (performAll_queue running (opened logicId member) _)
  · refine (performAll_timers running fun call member logicId aimed => ?_).trans ?_
    · rw [opened logicId (created call member logicId aimed)]
      rfl
    · rw [startedWith_timers]
      rfl

theorem startup_transparent_mixed :
    let before : List (TmsCall Nat) :=
      [.createLogic 3, .addMessageLoop 3 1 10 7, .createLogic 4, .addMessage 4 8]
    let after := [TmsCall.addMessage 4 9, .addMessageDelay 3 5 6, .addMessage 3 5]
    let buffered := ((init.performAll before).start).performAll after
    buffered.mapLogicList 3 = some [5] ∧ buffered.mapLogicList 4 = some [8, 9] ∧
    buffered.timers = [⟨.timerTypeLoop, 1, 10, 3, 7⟩, ⟨.timerTypeOnce, 0, 5, 3, 6⟩] := by
  intro before after buffered
  have created : ∀ call ∈ before ++ after, ∀ logicId, call.target = some logicId →
      .createLogic logicId ∈ before := by
    simp [before, after, TmsCall.target, TmsCall.event]
  obtain ⟨_, _, queues, timers⟩ := startup_transparent before after created
  exact ⟨queues 3 (by decide), queues 4 (by decide), timers⟩

end TmsSchedule

end PssAsio
