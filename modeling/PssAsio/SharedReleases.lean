import Mathlib.Logic.Function.Basic
import PssAsio.TransitionRuns

/-!
Resources that callers look up, use and release, with a ledger of the releases.
-/

namespace SharedReleases

open TransitionRuns Function

variable {Caller Resource : Type}

structure Ledger (Caller Resource : Type) where
  listed : Resource → Prop
  made : Resource → Prop
  released : Resource → Nat
  holds : Caller → Option Resource
  erases : Caller → Option Resource
  missed : Nat
  late : Nat

namespace Ledger

variable (ledger : Ledger Caller Resource)

def At (caller : Caller) (resource : Resource) : Prop :=
  ledger.holds caller = some resource ∨ ledger.erases caller = some resource

structure Untouched (resource : Resource) : Prop where
  unlisted : ¬ledger.listed resource
  unmade : ¬ledger.made resource
  unreleased : ledger.released resource = 0
  alone : ∀ caller, ¬ledger.At caller resource

def Unreleased (resource : Resource) : Prop :=
  ledger.made resource → ∀ caller, ledger.erases caller ≠ some resource

def Alone (caller : Caller) (resource : Resource) : Prop :=
  ∀ other, ledger.At other resource → other = caller

structure Settled : Prop where
  found : ledger.missed = 0
  timely : ledger.late = 0
  kept : ∀ resource, ledger.made resource → ledger.listed resource → ledger.released resource = 0
  once : ∀ resource, ledger.made resource → ¬ledger.listed resource → ledger.released resource = 1

def AtRest : Prop :=
  ∀ caller, ledger.holds caller = none ∧ ledger.erases caller = none

structure Blank : Prop where
  unlisted : ∀ resource, ¬ledger.listed resource
  unmade : ∀ resource, ¬ledger.made resource
  unreleased : ∀ resource, ledger.released resource = 0
  resting : ledger.AtRest
  found : ledger.missed = 0
  timely : ledger.late = 0

/-! What holds whether the steps are in order or not. -/

structure Sound : Prop where
  unmade : ∀ resource, ¬ledger.made resource → ledger.released resource = 0
  erased : ∀ caller resource, ledger.erases caller = some resource → ledger.made resource →
    1 ≤ ledger.released resource

def Doomed : Prop :=
  ∃ caller resource, ledger.holds caller = some resource ∧ 1 ≤ ledger.released resource

def Broken : Prop :=
  0 < ledger.missed ∨ 0 < ledger.late ∨ ∃ resource, 2 ≤ ledger.released resource

inductive Standing (ledger : Ledger Caller Resource) (resource : Resource) : Prop where
  | unmade (unmade : ¬ledger.made resource) (unreleased : ledger.released resource = 0)
  | kept (listed : ledger.listed resource) (unreleased : ledger.released resource = 0)
      (quiet : ∀ caller, ledger.erases caller ≠ some resource)
  | erasing (eraser : Caller) (made : ledger.made resource) (listed : ledger.listed resource)
      (once : ledger.released resource = 1) (here : ledger.erases eraser = some resource)
      (unheld : ∀ caller, ledger.holds caller ≠ some resource)
      (alone : ∀ caller, ledger.erases caller = some resource → caller = eraser)
  | gone (unlisted : ¬ledger.listed resource) (once : ledger.released resource = 1)
      (left : ∀ caller, ¬ledger.At caller resource)

structure Good : Prop where
  standing : ∀ resource, ledger.Standing resource
  found : ledger.missed = 0
  timely : ledger.late = 0

variable {ledger} {resource : Resource}

theorem Blank.sound (blank : ledger.Blank) : ledger.Sound where
  unmade := fun resource _ => blank.unreleased resource
  erased := fun _ resource _ made => absurd made (blank.unmade resource)

theorem Blank.good (blank : ledger.Blank) : ledger.Good where
  standing := fun resource => .unmade (blank.unmade resource) (blank.unreleased resource)
  found := blank.found
  timely := blank.timely

theorem Blank.untouched (blank : ledger.Blank) (resource : Resource) :
    ledger.Untouched resource := by
  refine ⟨blank.unlisted resource, blank.unmade resource, blank.unreleased resource, ?_⟩
  rintro caller (holding | erasing)
  · rw [(blank.resting caller).1] at holding
    cases holding
  · rw [(blank.resting caller).2] at erasing
    cases erasing

theorem Good.settled (good : ledger.Good) (rest : ledger.AtRest) : ledger.Settled where
  found := good.found
  timely := good.timely
  kept := by
    intro resource made listed
    cases good.standing resource with
    | unmade unmade unreleased => exact unreleased
    | kept listed unreleased quiet => exact unreleased
    | erasing eraser made listed once here unheld alone =>
      rw [(rest eraser).2] at here
      cases here
    | gone unlisted once left => exact absurd listed unlisted
  once := by
    intro resource made unlisted
    cases good.standing resource with
    | unmade unmade unreleased => exact absurd made unmade
    | kept listed unreleased quiet => exact absurd listed unlisted
    | erasing eraser made listed once here unheld alone => exact once
    | gone unlisted once left => exact once

theorem Good.released_le_one (good : ledger.Good) (resource : Resource) :
    ledger.released resource ≤ 1 := by
  cases good.standing resource with
  | unmade unmade unreleased | kept listed unreleased quiet
  | erasing eraser made listed once here unheld alone | gone unlisted once left => omega

theorem Standing.of_held {caller : Caller} (standing : ledger.Standing resource)
    (held : ledger.holds caller = some resource) :
    ledger.released resource = 0 ∧ (ledger.made resource → ledger.listed resource) := by
  cases standing with
  | unmade unmade unreleased => exact ⟨unreleased, fun made => absurd made unmade⟩
  | kept listed unreleased quiet => exact ⟨unreleased, fun _ => listed⟩
  | erasing eraser made listed once here unheld alone => exact absurd held (unheld caller)
  | gone unlisted once left => exact absurd (.inl held) (left caller)

structure Same (ledger next : Ledger Caller Resource) (resource : Resource) : Prop where
  listed : next.listed resource ↔ ledger.listed resource
  made : next.made resource ↔ ledger.made resource
  released : next.released resource = ledger.released resource
  holds : ∀ caller, next.holds caller = some resource → ledger.holds caller = some resource
  erases : ∀ caller, next.erases caller = some resource ↔ ledger.erases caller = some resource

theorem Standing.of_same {next : Ledger Caller Resource} (standing : ledger.Standing resource)
    (same : Same ledger next resource) : next.Standing resource := by
  cases standing with
  | unmade unmade unreleased =>
    exact .unmade (fun made => unmade (same.made.mp made)) (same.released.trans unreleased)
  | kept listed unreleased quiet =>
    exact .kept (same.listed.mpr listed) (same.released.trans unreleased)
      fun caller erasing => quiet caller ((same.erases caller).mp erasing)
  | erasing eraser made listed once here unheld alone =>
    exact .erasing eraser (same.made.mpr made) (same.listed.mpr listed)
      (same.released.trans once) ((same.erases eraser).mpr here)
      (fun caller holding => unheld caller (same.holds caller holding))
      fun caller erasing => alone caller ((same.erases caller).mp erasing)
  | gone unlisted once left =>
    exact .gone (fun listed => unlisted (same.listed.mp listed)) (same.released.trans once)
      fun caller found => left caller (found.imp (same.holds caller) (same.erases caller).mp)

theorem Settled.unbroken (settled : ledger.Settled) (sound : ledger.Sound) : ¬ledger.Broken := by
  rintro (missed | late | ⟨resource, twice⟩)
  · have found := settled.found
    omega
  · have timely := settled.timely
    omega
  · by_cases made : ledger.made resource
    · by_cases listed : ledger.listed resource
      · have kept := settled.kept resource made listed
        omega
      · have once := settled.once resource made listed
        omega
    · have zero := sound.unmade resource made
      omega

theorem AtRest.safe (rest : ledger.AtRest) : ¬ledger.Doomed := by
  rintro ⟨caller, resource, holding, -⟩
  rw [(rest caller).1] at holding
  cases holding

variable [DecidableEq Caller] [DecidableEq Resource]

inductive Event (ledger : Ledger Caller Resource) : Ledger Caller Resource → Prop → Prop where
  | pass : Event ledger ledger True
  | use (caller : Caller) (resource : Resource) (after : Option Resource)
      (held : ledger.holds caller = some resource) (last : after = none ∨ after = some resource) :
      Event ledger { ledger with
        holds := update ledger.holds caller after
        late := if ledger.released resource = 0 then ledger.late else ledger.late + 1 } True
  | take (caller : Caller) (resource : Resource) (idle : ledger.holds caller = none)
      (present : ledger.listed resource) :
      Event ledger { ledger with
        holds := update ledger.holds caller (some resource) }
        (ledger.Unreleased resource)
  | miss : Event ledger { ledger with missed := ledger.missed + 1 } False
  | release (caller : Caller) (resource : Resource) (held : ledger.holds caller = some resource)
      (free : ledger.erases caller = none) (real : ledger.made resource) :
      Event ledger { ledger with
        holds := update ledger.holds caller none
        erases := update ledger.erases caller (some resource)
        released := update ledger.released resource (ledger.released resource + 1) }
        (ledger.Alone caller resource)
  | releaseNothing (caller : Caller) (resource : Resource)
      (held : ledger.holds caller = some resource) (free : ledger.erases caller = none)
      (unreal : ¬ledger.made resource) :
      Event ledger { ledger with
        holds := update ledger.holds caller none
        erases := update ledger.erases caller (some resource) } True
  | erase (caller : Caller) (resource : Resource)
      (erasing : ledger.erases caller = some resource) :
      Event ledger { ledger with
        listed := fun other => ledger.listed other ∧ other ≠ resource
        erases := update ledger.erases caller none } True
  | create (caller : Caller) (resource : Resource) (makes : Prop) (after : Option Resource)
      (idle : ledger.holds caller = none) (untouched : ledger.Untouched resource)
      (last : after = none ∨ after = some resource) :
      Event ledger { ledger with
        listed := fun other => ledger.listed other ∨ other = resource
        made := fun other => ledger.made other ∨ other = resource ∧ makes
        holds := update ledger.holds caller after } True

variable {next : Ledger Caller Resource} {condition : Prop}

theorem Event.of_iff {reworded : Prop} (event : Event ledger next condition)
    (same : reworded ↔ condition) : Event ledger next reworded :=
  propext same ▸ event

section Tables

variable {table : Caller → Option Resource} {caller other : Caller} {entry : Option Resource}
  {item : Resource}

omit [DecidableEq Resource]

theorem update_eq_some :
    update table caller entry other = some resource ↔
      other = caller ∧ entry = some resource ∨ other ≠ caller ∧ table other = some resource := by
  by_cases same : other = caller
  · simp [same]
  · simp [same]

theorem update_elsewhere (differs : item ≠ resource)
    (before : table caller = none ∨ table caller = some resource)
    (after : entry = none ∨ entry = some resource) :
    update table caller entry other = some item ↔ table other = some item := by
  by_cases same : other = caller
  · subst same
    rcases before with before | before <;> rcases after with after | after <;>
      simp [before, after, differs.symm]
  · rw [update_of_ne same]

theorem held_of_update (held : table caller = some resource)
    (last : entry = none ∨ entry = some resource)
    (holding : update table caller entry other = some item) : table other = some item := by
  rcases update_eq_some.mp holding with ⟨rfl, here⟩ | ⟨-, before⟩
  · rcases last with rfl | rfl
    · cases here
    · exact held.trans here
  · exact before

end Tables

theorem Sound.event (sound : ledger.Sound) (event : Event ledger next condition) : next.Sound := by
  cases event with
  | pass => exact sound
  | use caller resource after held last | take caller resource idle present | miss =>
    exact ⟨sound.unmade, sound.erased⟩
  | release caller resource held free real =>
    constructor
    · intro other unreal
      have differs : other ≠ resource := fun same => unreal (same ▸ real)
      simpa only [update_of_ne differs] using sound.unmade other unreal
    · intro eraser other erasing made
      by_cases same : other = resource
      · simp [same]
      · simp only [update_of_ne same]
        rcases update_eq_some.mp erasing with ⟨-, entry⟩ | ⟨-, before⟩
        · exact absurd (Option.some.inj entry).symm same
        · exact sound.erased eraser other before made
  | releaseNothing caller resource held free unreal =>
    refine ⟨sound.unmade, fun eraser other erasing made => ?_⟩
    rcases update_eq_some.mp erasing with ⟨-, entry⟩ | ⟨-, before⟩
    · exact absurd ((Option.some.inj entry).symm ▸ made) unreal
    · exact sound.erased eraser other before made
  | erase caller resource erasing =>
    refine ⟨sound.unmade, fun eraser other later made => ?_⟩
    rcases update_eq_some.mp later with ⟨-, entry⟩ | ⟨-, before⟩
    · cases entry
    · exact sound.erased eraser other before made
  | create caller resource makes after idle untouched last =>
    constructor
    · intro other unreal
      exact sound.unmade other fun made => unreal (.inl made)
    · rintro eraser other erasing (made | ⟨rfl, -⟩)
      · exact sound.erased eraser other erasing made
      · exact absurd (.inr erasing) (untouched.alone eraser)

theorem Untouched.event (untouched : ledger.Untouched resource)
    (event : Event ledger next condition) (unlisted : ¬next.listed resource) :
    next.Untouched resource := by
  obtain ⟨-, unmade, unreleased, alone⟩ := untouched
  cases event with
  | pass | miss => exact ⟨unlisted, unmade, unreleased, alone⟩
  | use caller other after held last =>
    exact ⟨unlisted, unmade, unreleased,
      fun place found => alone place (found.imp_left (held_of_update held last))⟩
  | take caller other idle present =>
    have differs : resource ≠ other := fun same => unlisted (same ▸ present)
    exact ⟨unlisted, unmade, unreleased, fun place found =>
      alone place (found.imp_left (update_elsewhere differs (.inl idle) (.inr rfl)).mp)⟩
  | release caller other held free real =>
    have differs : resource ≠ other := fun same => unmade (same ▸ real)
    exact ⟨unlisted, unmade, (update_of_ne differs _ _).trans unreleased,
      fun place found => alone place
        (found.imp (update_elsewhere differs (.inr held) (.inl rfl)).mp
          (update_elsewhere differs (.inl free) (.inr rfl)).mp)⟩
  | releaseNothing caller other held free unreal =>
    have differs : resource ≠ other := fun same => alone caller (.inl (same ▸ held))
    exact ⟨unlisted, unmade, unreleased, fun place found => alone place
      (found.imp (update_elsewhere differs (.inr held) (.inl rfl)).mp
        (update_elsewhere differs (.inl free) (.inr rfl)).mp)⟩
  | erase caller other erasing =>
    have differs : resource ≠ other := fun same => alone caller (.inr (same ▸ erasing))
    exact ⟨unlisted, unmade, unreleased, fun place found =>
      alone place (found.imp_right (update_elsewhere differs (.inr erasing) (.inl rfl)).mp)⟩
  | create caller other makes after idle untouched last =>
    have differs : resource ≠ other := fun same => unlisted (.inr same)
    exact ⟨unlisted, fun made => unmade (made.resolve_right fun new => differs new.1), unreleased,
      fun place found =>
        alone place (found.imp_left (update_elsewhere differs (.inl idle) last).mp)⟩

theorem Doomed.event (sound : ledger.Sound) (doomed : ledger.Doomed)
    (event : Event ledger next condition) : next.Doomed ∨ next.Broken := by
  obtain ⟨holder, resource, holding, released⟩ := doomed
  cases event with
  | pass | erase caller other erasing => exact .inl ⟨holder, resource, holding, released⟩
  | use caller used after held last =>
    by_cases same : holder = caller
    · subst same
      cases held.symm.trans holding
      have nonzero : ledger.released resource ≠ 0 := by omega
      exact .inr (.inr (.inl (by simp [nonzero])))
    · exact .inl ⟨holder, resource, update_eq_some.mpr (.inr ⟨same, holding⟩), released⟩
  | take caller taken idle present | create caller other makes after idle untouched last =>
    have differs : holder ≠ caller := by
      rintro rfl
      rw [idle] at holding
      cases holding
    exact .inl ⟨holder, resource, update_eq_some.mpr (.inr ⟨differs, holding⟩), released⟩
  | miss => exact .inr (.inl (Nat.succ_pos _))
  | release caller other held free real =>
    by_cases same : holder = caller
    · subst same
      cases held.symm.trans holding
      refine .inr (.inr (.inr ⟨resource, ?_⟩))
      simp only [update_self]
      omega
    · refine .inl ⟨holder, resource, update_eq_some.mpr (.inr ⟨same, holding⟩), ?_⟩
      by_cases again : resource = other
      · simp [again]
      · simpa only [update_of_ne again] using released
  | releaseNothing caller other held free unreal =>
    by_cases same : holder = caller
    · subst same
      cases held.symm.trans holding
      have zero := sound.unmade resource unreal
      omega
    · exact .inl ⟨holder, resource, update_eq_some.mpr (.inr ⟨same, holding⟩), released⟩

theorem Broken.event (broken : ledger.Broken) (event : Event ledger next condition) :
    next.Broken := by
  cases event with
  | pass | take caller resource idle present | releaseNothing caller resource held free unreal
  | erase caller resource erasing | create caller resource makes after idle untouched last =>
    exact broken
  | use caller resource after held last =>
    rcases broken with missed | late | twice
    · exact .inl missed
    · refine .inr (.inl ?_)
      change 0 < if ledger.released resource = 0 then ledger.late else ledger.late + 1
      split
      · exact late
      · omega
    · exact .inr (.inr twice)
  | miss => exact .inl (Nat.succ_pos _)
  | release caller resource held free real =>
    rcases broken with missed | late | ⟨other, twice⟩
    · exact .inl missed
    · exact .inr (.inl late)
    · refine .inr (.inr ⟨other, ?_⟩)
      by_cases same : other = resource
      · subst same
        simp only [update_self]
        omega
      · simpa only [update_of_ne same] using twice

theorem doomed_or_broken_of_disorder (sound : ledger.Sound) (event : Event ledger next condition)
    (disorder : ¬condition) : next.Doomed ∨ next.Broken := by
  cases event with
  | pass | use caller resource after held last | releaseNothing caller resource held free unreal
  | erase caller resource erasing | create caller resource makes after idle untouched last =>
    exact absurd trivial disorder
  | take caller resource idle present =>
    simp only [Unreleased, ne_eq, not_forall, not_not] at disorder
    obtain ⟨made, eraser, erasing⟩ := disorder
    exact .inl ⟨caller, resource, update_self _ _ _,
      sound.erased eraser resource erasing made⟩
  | miss => exact .inr (.inl (Nat.succ_pos _))
  | release caller resource held free real =>
    simp only [Alone, not_forall] at disorder
    obtain ⟨other, holding | erasing, differs⟩ := disorder
    · exact .inl ⟨other, resource, update_eq_some.mpr (.inr ⟨differs, holding⟩), by simp⟩
    · have before := sound.erased other resource erasing real
      refine .inr (.inr (.inr ⟨resource, ?_⟩))
      simp only [update_self]
      omega

/-! The steps in order: at every other resource a step changes nothing. -/

theorem Good.event (good : ledger.Good) (event : Event ledger next condition)
    (inOrder : condition) : next.Good := by
  cases event with
  | pass => exact good
  | use caller resource after held last =>
    have unreleased := ((good.standing resource).of_held held).1
    refine ⟨fun item => (good.standing item).of_same ?_, good.found, ?_⟩
    · exact ⟨.rfl, .rfl, rfl, fun _ => held_of_update held last, fun _ => .rfl⟩
    · simpa only [unreleased, if_true] using good.timely
  | take caller resource idle present =>
    refine ⟨fun item => ?_, good.found, good.timely⟩
    by_cases same : item = resource
    · subst same
      cases good.standing item with
      | unmade unmade unreleased => exact .unmade unmade unreleased
      | kept listed unreleased quiet => exact .kept listed unreleased quiet
      | erasing eraser made listed once here unheld alone =>
        exact absurd here (inOrder made eraser)
      | gone unlisted once left => exact absurd present unlisted
    · exact (good.standing item).of_same ⟨.rfl, .rfl, rfl,
        fun _ => (update_elsewhere same (.inl idle) (.inr rfl)).mp, fun _ => .rfl⟩
  | miss => exact inOrder.elim
  | release caller resource held free real =>
    refine ⟨fun item => ?_, good.found, good.timely⟩
    by_cases same : item = resource
    · subst same
      obtain ⟨unreleased, listed⟩ := (good.standing item).of_held held
      refine .erasing caller real (listed real) (by simp [unreleased])
        (update_self _ _ _) ?_ ?_
      · intro other holding
        rcases update_eq_some.mp holding with ⟨-, entry⟩ | ⟨apart, before⟩
        · cases entry
        · exact apart (inOrder other (.inl before))
      · intro other erasing
        rcases update_eq_some.mp erasing with ⟨here, -⟩ | ⟨-, before⟩
        · exact here
        · exact inOrder other (.inr before)
    · exact (good.standing item).of_same ⟨.rfl, .rfl, update_of_ne same _ _,
        fun _ => (update_elsewhere same (.inr held) (.inl rfl)).mp,
        fun _ => update_elsewhere same (.inl free) (.inr rfl)⟩
  | releaseNothing caller resource held free unreal =>
    refine ⟨fun item => ?_, good.found, good.timely⟩
    by_cases same : item = resource
    · subst same
      exact .unmade unreal ((good.standing item).of_held held).1
    · exact (good.standing item).of_same ⟨.rfl, .rfl, rfl,
        fun _ => (update_elsewhere same (.inr held) (.inl rfl)).mp,
        fun _ => update_elsewhere same (.inl free) (.inr rfl)⟩
  | erase caller resource erasing =>
    refine ⟨fun item => ?_, good.found, good.timely⟩
    by_cases same : item = resource
    · subst same
      cases good.standing item with
      | unmade unmade unreleased => exact .unmade unmade unreleased
      | kept listed unreleased quiet => exact absurd erasing (quiet caller)
      | erasing eraser made listed once here unheld alone =>
        refine .gone (fun listed => listed.2 rfl) once ?_
        rintro other (holding | later)
        · exact unheld other holding
        · rcases update_eq_some.mp later with ⟨-, entry⟩ | ⟨apart, before⟩
          · cases entry
          · exact apart ((alone other before).trans (alone caller erasing).symm)
      | gone unlisted once left => exact absurd (.inr erasing) (left caller)
    · exact (good.standing item).of_same ⟨and_iff_left same, .rfl, rfl, fun _ => id,
        fun _ => update_elsewhere same (.inr erasing) (.inl rfl)⟩
  | create caller resource makes after idle untouched last =>
    refine ⟨fun item => ?_, good.found, good.timely⟩
    by_cases same : item = resource
    · subst same
      exact .kept (.inr rfl) untouched.unreleased
        fun other erasing => untouched.alone other (.inr erasing)
    · exact (good.standing item).of_same ⟨or_iff_left same, or_iff_left fun new => same new.1, rfl,
        fun _ => (update_elsewhere same (.inl idle) last).mp, fun _ => .rfl⟩

/-! A system whose steps are events of its ledger. -/

section Runs

variable {State Action : Type} {step : State → Action → Option State}
  {view : State → Ledger Caller Resource} {support : State → Prop}
  {inOrder : State → Action → Prop}
  (supported : ∀ state action next, support state → step state action = some next → support next)
  (events : ∀ state action next, support state → step state action = some next →
    Event (view state) (view next) (inOrder state action))
  {start finish : State} {actions : List Action} (grounded : support start)
  (blank : (view start).Blank) (ran : run step start actions = some finish)

include supported events grounded blank ran

theorem good_of_throughout (kept : Throughout step inOrder start actions) : (view finish).Good := by
  obtain ⟨-, good⟩ := run_invariant inOrder (fun state => support state ∧ (view state).Good)
    (fun state action next held ordered stepped => ⟨supported state action next held.1 stepped,
      held.2.event (events state action next held.1 stepped) ordered⟩)
    ⟨grounded, blank.good⟩ kept ran
  exact good

theorem settled_iff_throughout (rest : (view finish).AtRest) :
    (view finish).Settled ↔ Throughout step inOrder start actions := by
  have carried : ∀ state action next, support state ∧ (view state).Sound →
      step state action = some next → support next ∧ (view next).Sound :=
    fun state action next held stepped => ⟨supported state action next held.1 stepped,
      held.2.event (events state action next held.1 stepped)⟩
  obtain ⟨-, sound⟩ := run_preserves _ carried ⟨grounded, blank.sound⟩ ran
  constructor
  · intro settled
    have falls : ∀ state action next, support state ∧ (view state).Sound →
        step state action = some next →
        inOrder state action ∨ ((view next).Doomed ∨ (view next).Broken) := by
      intro state action next held stepped
      by_cases ordered : inOrder state action
      · exact .inl ordered
      · exact .inr (doomed_or_broken_of_disorder held.2
          (events state action next held.1 stepped) ordered)
    have stays : ∀ state action next, support state ∧ (view state).Sound →
        step state action = some next → (view state).Doomed ∨ (view state).Broken →
        (view next).Doomed ∨ (view next).Broken := by
      rintro state action next held stepped (doomed | broken)
      · exact doomed.event held.2 (events state action next held.1 stepped)
      · exact .inr (broken.event (events state action next held.1 stepped))
    have escaped : ¬((view finish).Doomed ∨ (view finish).Broken) := by
      rintro (doomed | broken)
      · exact rest.safe doomed
      · exact settled.unbroken sound broken
    exact throughout_of_escaped carried falls stays ⟨grounded, blank.sound⟩ ran escaped
  · intro kept
    exact (good_of_throughout supported events grounded blank ran kept).settled rest

end Runs

end Ledger

end SharedReleases
