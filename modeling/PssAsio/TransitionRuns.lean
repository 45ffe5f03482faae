import Mathlib.Logic.Basic

/-!
Finite runs of systems whose step function refuses the actions that are not enabled.
-/

namespace TransitionRuns

variable {State Action : Type} (step : State → Action → Option State)

@[grind =]
def run : State → List Action → Option State
  | state, [] => some state
  | state, action :: rest => (step state action).bind fun next => run next rest

@[grind =]
def Throughout (allowed : State → Action → Prop) : State → List Action → Prop
  | _, [] => True
  | state, action :: rest => allowed state action ∧
      match step state action with
      | some next => Throughout allowed next rest
      | none => True

@[grind =]
def Always (holds : State → Prop) : State → List Action → Prop
  | state, [] => holds state
  | state, action :: rest => holds state ∧
      match step state action with
      | some next => Always holds next rest
      | none => True

instance decidableThroughout (allowed : State → Action → Prop)
    [∀ state action, Decidable (allowed state action)] :
    ∀ start actions, Decidable (Throughout step allowed start actions)
  | _, [] => inferInstanceAs (Decidable True)
  | state, action :: rest =>
      have : Decidable (match step state action with
          | some next => Throughout step allowed next rest
          | none => True) :=
        match step state action with
        | some next => decidableThroughout allowed next rest
        | none => inferInstanceAs (Decidable True)
      inferInstanceAs (Decidable (_ ∧ _))

instance decidableAlways (holds : State → Prop) [DecidablePred holds] :
    ∀ start actions, Decidable (Always step holds start actions)
  | state, [] => inferInstanceAs (Decidable (holds state))
  | state, action :: rest =>
      have : Decidable (match step state action with
          | some next => Always step holds next rest
          | none => True) :=
        match step state action with
        | some next => decidableAlways holds next rest
        | none => inferInstanceAs (Decidable True)
      inferInstanceAs (Decidable (_ ∧ _))

variable {step}

variable {finish start : State} {actions : List Action} {support holds : State → Prop}
  {allowed : State → Action → Prop}

theorem run_cons_eq_some {action : Action} {rest : List Action} :
    run step start (action :: rest) = some finish ↔
      ∃ next, step start action = some next ∧ run step next rest = some finish := by
  simp [run, Option.bind_eq_some_iff]

theorem run_append (start : State) (first second : List Action) :
    run step start (first ++ second) =
      (run step start first).bind fun middle => run step middle second := by
  induction first generalizing start with
  | nil => rfl
  | cons action rest ih =>
    simp only [List.cons_append, run]
    cases step start action with
    | none => rfl
    | some next => exact ih next

theorem run_total (perform : State → Action → State) (start : State) (actions : List Action) :
    run (fun state action => some (perform state action)) start actions =
      some (actions.foldl perform start) := by
  induction actions generalizing start with
  | nil => rfl
  | cons action rest ih => exact ih (perform start action)

theorem run_ends (total : ∀ state action, ∃ next, step state action = some next) (start : State)
    (actions : List Action) : ∃ finish, run step start actions = some finish := by
  induction actions generalizing start with
  | nil => exact ⟨start, rfl⟩
  | cons action rest ih =>
    obtain ⟨next, stepped⟩ := total start action
    obtain ⟨finish, ended⟩ := ih next
    exact ⟨finish, run_cons_eq_some.mpr ⟨next, stepped, ended⟩⟩

theorem run_invariant (allowed : State → Action → Prop) (invariant : State → Prop)
    (preserved : ∀ state action next, invariant state → allowed state action → step state action =
      some next → invariant next) (initial : invariant start)
    (kept : Throughout step allowed start actions) (ran : run step start actions = some finish) :
    invariant finish := by
  induction actions generalizing start with
  | nil =>
    simp only [run, Option.some.injEq] at ran
    exact ran ▸ initial
  | cons action rest ih =>
    obtain ⟨next, stepped, ended⟩ := run_cons_eq_some.mp ran
    obtain ⟨permitted, later⟩ := kept
    rw [stepped] at later
    exact ih (preserved start action next initial permitted stepped) later ended

theorem throughout_of_invariant {strict loose : State → Action → Prop} {invariant : State → Prop}
    (preserved : ∀ state action next, invariant state → strict state action → step state action =
      some next → invariant next)
    (permits : ∀ state action, invariant state → strict state action → loose state action)
    (initial : invariant start) (kept : Throughout step strict start actions) :
    Throughout step loose start actions := by
  induction actions generalizing start with
  | nil => trivial
  | cons action rest ih =>
    obtain ⟨permitted, later⟩ := kept
    refine ⟨permits start action initial permitted, ?_⟩
    cases stepped : step start action with
    | none => trivial
    | some next =>
      rw [stepped] at later
      exact ih (preserved start action next initial permitted stepped) later

theorem throughout_congr {first second : State → Action → Prop}
    (supported : ∀ state action next, support state → step state action = some next → support next)
    (same : ∀ state action, support state → (first state action ↔ second state action))
    (grounded : support start) :
    Throughout step first start actions ↔ Throughout step second start actions := by
  constructor
  · exact throughout_of_invariant
      (fun state action next held _ stepped => supported state action next held stepped)
      (fun state action held => (same state action held).mp) grounded
  · exact throughout_of_invariant
      (fun state action next held _ stepped => supported state action next held stepped)
      (fun state action held => (same state action held).mpr) grounded

theorem always_of_invariant {invariant : State → Prop}
    (preserved : ∀ state action next, invariant state → allowed state action → step state action =
      some next → invariant next) (implied : ∀ state, invariant state → holds state)
    (initial : invariant start) (kept : Throughout step allowed start actions) :
    Always step holds start actions := by
  induction actions generalizing start with
  | nil => exact implied start initial
  | cons action rest ih =>
    obtain ⟨permitted, later⟩ := kept
    refine ⟨implied start initial, ?_⟩
    cases stepped : step start action with
    | none => trivial
    | some next =>
      rw [stepped] at later
      exact ih (preserved start action next initial permitted stepped) later

theorem throughout_of_forall (allowed : State → Action → Prop)
    (always : ∀ state action, allowed state action) (start : State) (actions : List Action) :
    Throughout step allowed start actions := by
  induction actions generalizing start with
  | nil => trivial
  | cons action rest ih =>
    refine ⟨always start action, ?_⟩
    split
    · exact ih _
    · trivial

theorem throughout_of_mem {allowed : Action → Prop} (all : ∀ action ∈ actions, allowed action)
    (start : State) : Throughout step (fun _ action => allowed action) start actions := by
  induction actions generalizing start with
  | nil => trivial
  | cons action rest ih =>
    obtain ⟨first, later⟩ := List.forall_mem_cons.mp all
    refine ⟨first, ?_⟩
    split
    · exact ih later _
    · trivial

theorem throughout_iff_mem_of_run {allowed : Action → Prop}
    (ran : run step start actions = some finish) :
    Throughout step (fun _ action => allowed action) start actions ↔
      ∀ action ∈ actions, allowed action := by
  refine ⟨fun kept => ?_, fun all => throughout_of_mem all start⟩
  induction actions generalizing start with
  | nil => simp
  | cons action rest ih =>
    obtain ⟨next, stepped, ended⟩ := run_cons_eq_some.mp ran
    obtain ⟨first, later⟩ := kept
    rw [stepped] at later
    exact List.forall_mem_cons.mpr ⟨first, ih ended later⟩

theorem throughout_iff_mem {allowed : Action → Prop}
    (total : ∀ state action, ∃ next, step state action = some next) (start : State)
    (actions : List Action) :
    Throughout step (fun _ action => allowed action) start actions ↔
      ∀ action ∈ actions, allowed action := by
  obtain ⟨finish, ran⟩ := run_ends total start actions
  exact throughout_iff_mem_of_run ran

theorem throughout_and {first second : State → Action → Prop}
    (firstKept : Throughout step first start actions)
    (secondKept : Throughout step second start actions) :
    Throughout step (fun state action => first state action ∧ second state action) start
      actions := by
  induction actions generalizing start with
  | nil => trivial
  | cons action rest ih =>
    refine ⟨⟨firstKept.1, secondKept.1⟩, ?_⟩
    obtain ⟨-, firstLater⟩ := firstKept
    obtain ⟨-, secondLater⟩ := secondKept
    split
    · rename_i next stepped
      rw [stepped] at firstLater secondLater
      exact ih firstLater secondLater
    · trivial

theorem throughout_append {middle : State} {first second : List Action}
    (ran : run step start first = some middle)
    (kept : Throughout step allowed start (first ++ second)) :
    Throughout step allowed start first ∧ Throughout step allowed middle second := by
  induction first generalizing start with
  | nil => exact ⟨trivial, Option.some.inj ran ▸ kept⟩
  | cons action rest ih =>
    obtain ⟨next, stepped, ended⟩ := run_cons_eq_some.mp ran
    obtain ⟨permitted, later⟩ := kept
    simp only [stepped] at later
    obtain ⟨front, back⟩ := ih ended later
    refine ⟨⟨permitted, ?_⟩, back⟩
    simpa only [stepped] using front

theorem run_preserves (invariant : State → Prop)
    (preserved : ∀ state action next, invariant state → step state action = some next → invariant
      next) (initial : invariant start) (ran : run step start actions = some finish) :
    invariant finish :=
  run_invariant (fun _ _ => True) invariant
    (fun state action next holds _ stepped => preserved state action next holds stepped) initial
    (throughout_of_forall _ (fun _ _ => trivial) start actions) ran

/-- A run of steps that lower a rank is no longer than the rank at its start. -/
theorem run_length_le (rank : State → Nat)
    (falls : ∀ state action next, support state → step state action = some next →
      support next ∧ (allowed state action → rank next < rank state)) (grounded : support start)
    (kept : Throughout step allowed start actions) (ran : run step start actions = some finish) :
    actions.length ≤ rank start := by
  induction actions generalizing start with
  | nil => exact Nat.zero_le _
  | cons action rest ih =>
    obtain ⟨next, stepped, later⟩ := run_cons_eq_some.mp ran
    obtain ⟨permitted, keptLater⟩ := kept
    rw [stepped] at keptLater
    obtain ⟨supported, lower⟩ := falls start action next grounded stepped
    exact Nat.lt_of_le_of_lt (ih supported keptLater later) (lower permitted)

/-- Neither of two systems that answer every allowed action side by side refuses one. -/
theorem run_simulates {Model : Type} {modelStep : Model → Action → Option Model}
    {related : State → Model → Prop}
    (matched : ∀ state model action, related state model → allowed state action → ∃ next modelNext,
      step state action = some next ∧ modelStep model action = some modelNext ∧ related next
      modelNext) {modelStart : Model} (initial : related start modelStart)
    (kept : Throughout step allowed start actions) :
    ∃ finish modelFinish, run step start actions = some finish ∧
      run modelStep modelStart actions = some modelFinish ∧ related finish modelFinish := by
  induction actions generalizing start modelStart with
  | nil => exact ⟨start, modelStart, rfl, rfl, initial⟩
  | cons action rest ih =>
    obtain ⟨permitted, later⟩ := kept
    obtain ⟨next, modelNext, stepped, modelStepped, beside⟩ :=
      matched start modelStart action initial permitted
    rw [stepped] at later
    obtain ⟨finish, modelFinish, ran, modelRan, ended⟩ := ih beside later
    exact ⟨finish, modelFinish, run_cons_eq_some.mpr ⟨next, stepped, ran⟩,
      run_cons_eq_some.mpr ⟨modelNext, modelStepped, modelRan⟩, ended⟩

/-- A run that does not raise a quantity no step lowers. -/
theorem throughout_of_level {level : State → Int}
    (supported : ∀ state action next, support state → step state action = some next → support next)
    (rises : ∀ state action next, support state → step state action = some next → level state ≤
      level next ∧ (level next ≤ level state → allowed state action)) (grounded : support start)
    (ran : run step start actions = some finish) (ended : level finish ≤ level start) :
    Throughout step allowed start actions := by
  induction actions generalizing start with
  | nil => trivial
  | cons action rest ih =>
    obtain ⟨next, stepped, later⟩ := run_cons_eq_some.mp ran
    have carried := supported start action next grounded stepped
    obtain ⟨first, unraised⟩ := rises start action next grounded stepped
    obtain ⟨-, above⟩ := run_preserves (fun state => support state ∧ level next ≤ level state)
      (fun state other after held moved =>
        ⟨supported state other after held.1 moved,
          Int.le_trans held.2 (rises state other after held.1 moved).1⟩)
      ⟨carried, Int.le_refl _⟩ later
    refine ⟨unraised (Int.le_trans above ended), ?_⟩
    rw [stepped]
    exact ih carried later (Int.le_trans ended first)

/-- A run that ends outside of states that no step leaves. -/
theorem throughout_of_escaped {lost : State → Prop}
    (supported : ∀ state action next, support state → step state action = some next → support next)
    (falls : ∀ state action next, support state → step state action = some next → allowed state
      action ∨ lost next)
    (stays : ∀ state action next, support state → step state action = some next → lost state → lost
      next) (grounded : support start) (ran : run step start actions = some finish)
    (escaped : ¬lost finish) : Throughout step allowed start actions := by
  induction actions generalizing start with
  | nil => trivial
  | cons action rest ih =>
    obtain ⟨next, stepped, later⟩ := run_cons_eq_some.mp ran
    have carried := supported start action next grounded stepped
    refine ⟨?_, by rw [stepped]; exact ih carried later⟩
    rcases falls start action next grounded stepped with permitted | fallen
    · exact permitted
    · obtain ⟨-, stillLost⟩ := run_preserves (fun state => support state ∧ lost state)
        (fun state other after held moved =>
          ⟨supported state other after held.1 moved, stays state other after held.1 moved held.2⟩)
        ⟨carried, fallen⟩ later
      exact absurd stillLost escaped

theorem always_start (always : Always step holds start actions) : holds start := by
  cases actions with
  | nil => exact always
  | cons _ _ => exact always.1

theorem always_finish (always : Always step holds start actions)
    (ran : run step start actions = some finish) : holds finish := by
  induction actions generalizing start with
  | nil => exact Option.some.inj ran ▸ always
  | cons action rest ih =>
    obtain ⟨next, stepped, later⟩ := run_cons_eq_some.mp ran
    obtain ⟨-, rested⟩ := always
    rw [stepped] at rested
    exact ih rested later

theorem always_imp {first second : State → Prop} (implied : ∀ state, first state → second state)
    (always : Always step first start actions) : Always step second start actions := by
  induction actions generalizing start with
  | nil => exact implied start always
  | cons action rest ih =>
    obtain ⟨here, later⟩ := always
    refine ⟨implied start here, ?_⟩
    split
    · rename_i next stepped
      rw [stepped] at later
      exact ih later
    · trivial

theorem always_of_end
    (carried : ∀ state action next, step state action = some next → allowed state action → holds
      next → holds state) (ran : run step start actions = some finish) (ended : holds finish)
    (kept : Throughout step allowed start actions) : Always step holds start actions := by
  induction actions generalizing start with
  | nil => exact Option.some.inj ran ▸ ended
  | cons action rest ih =>
    obtain ⟨next, stepped, later⟩ := run_cons_eq_some.mp ran
    obtain ⟨permitted, keptLater⟩ := kept
    rw [stepped] at keptLater
    have always := ih later keptLater
    refine ⟨carried start action next stepped permitted (always_start always), ?_⟩
    rw [stepped]
    exact always

/-- The runs inside a property are those of allowed steps, if these are the steps that keep it. -/
theorem always_iff_throughout
    (supported : ∀ state action next, support state → step state action = some next → support next)
    (decisive : ∀ state action next, support state → holds state → step state action = some next →
      (holds next ↔ allowed state action)) (grounded : support start) (initial : holds start)
    (ran : run step start actions = some finish) :
    Always step holds start actions ↔ Throughout step allowed start actions := by
  induction actions generalizing start with
  | nil => exact ⟨fun _ => trivial, fun _ => initial⟩
  | cons action rest ih =>
    obtain ⟨next, stepped, ended⟩ := run_cons_eq_some.mp ran
    have kept := decisive start action next grounded initial stepped
    have later := fun held => ih (supported start action next grounded stepped) held ended
    simp only [Always, Throughout, stepped]
    constructor
    · rintro ⟨_, always⟩
      have held : holds next := always_start always
      exact ⟨kept.mp held, (later held).mp always⟩
    · rintro ⟨permitted, through⟩
      exact ⟨initial, (later (kept.mpr permitted)).mpr through⟩

/-- The same with a demand on the steps beside the property. -/
theorem always_and_throughout_iff {demanded : State → Action → Prop}
    (supported : ∀ state action next, support state → holds state → holds next → step state action =
      some next → support next)
    (decisive : ∀ state action, support state → holds state → (allowed state action ↔ demanded state
      action ∧ ∀ next, step state action = some next → holds next)) (grounded : support start)
    (initial : holds start) :
    Always step holds start actions ∧ Throughout step demanded start actions ↔
      Throughout step allowed start actions := by
  induction actions generalizing start with
  | nil => exact ⟨fun _ => trivial, fun _ => ⟨initial, trivial⟩⟩
  | cons action rest ih =>
    simp only [Always, Throughout, decisive start action grounded initial]
    cases stepped : step start action with
    | none => simp [initial]
    | some next =>
      have later := fun held =>
        ih (supported start action next grounded initial held stepped) held
      constructor
      · rintro ⟨⟨-, always⟩, first, through⟩
        have held : holds next := always_start always
        refine ⟨⟨first, fun other same => Option.some.inj same ▸ held⟩, ?_⟩
        exact (later held).mp ⟨always, through⟩
      · rintro ⟨⟨first, kept⟩, through⟩
        obtain ⟨always, demands⟩ := (later (kept next rfl)).mpr through
        exact ⟨⟨initial, always⟩, first, demands⟩

theorem always_iff_throughout_of_kept
    (supported : ∀ state action next, support state → holds state → holds next → step state action =
      some next → support next)
    (decisive : ∀ state action, support state → holds state → (allowed state action ↔ ∀ next, step
      state action = some next → holds next)) (grounded : support start) (initial : holds start) :
    Always step holds start actions ↔ Throughout step allowed start actions := by
  have undemanding : Throughout step (fun _ _ => True) start actions :=
    throughout_of_forall _ (fun _ _ => trivial) start actions
  rw [← always_and_throughout_iff supported (fun state action held inside =>
    (decisive state action held inside).trans (true_and _).symm.to_iff) grounded initial]
  exact (and_iff_left undemanding).symm

end TransitionRuns
