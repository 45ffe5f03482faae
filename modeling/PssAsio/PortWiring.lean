import Mathlib.Logic.Function.Basic

/-!
Ports joined by wires, occupants of ports, and a target for every occupant.
-/

namespace PortWiring

open Function

variable {Port Occupant Value : Type}

inductive Joins (forwards backwards : Bool) (source sink : Port) : Port → Port → Prop where
  | forth : forwards → Joins forwards backwards source sink source sink
  | back : backwards → Joins forwards backwards source sink sink source

def Avoids (wire : Port → Port → Prop) (port : Port) : Prop :=
  ∀ other, ¬wire port other ∧ ¬wire other port

def SeatedOnce (occupant : Port → Option Occupant) : Prop :=
  ∀ port other seated, occupant port = some seated → occupant other = some seated → port = other

structure Settled (name : Occupant → Value) (idle : Value) (wire : Port → Port → Prop)
    (occupant : Port → Option Occupant) (target : Occupant → Value) : Prop where
  wired : ∀ {port other first second}, wire port other → occupant port = some first →
    occupant other = some second → target first = name second
  unwired : ∀ {first}, target first ≠ idle → ∃ port other second,
    wire port other ∧ occupant port = some first ∧ occupant other = some second

def redirect [DecidableEq Occupant] (forwards backwards : Bool) (first second : Option Occupant)
    (forth back : Value) (target : Occupant → Value) : Occupant → Value :=
  match first, second with
  | some source, some sink =>
      let sent := if forwards then update target source forth else target
      if backwards then update sent sink back else sent
  | _, _ => target

section Redirect

variable [DecidableEq Occupant] {forwards backwards : Bool} {forth back : Value}
  {target : Occupant → Value}

theorem redirect_source {source sink : Occupant} (apart : source ≠ sink) :
    redirect forwards backwards (some source) (some sink) forth back target source =
      if forwards then forth else target source := by
  simp only [redirect]
  split <;> split <;> simp [apart]

theorem redirect_sink {source sink : Occupant} (apart : source ≠ sink) :
    redirect forwards backwards (some source) (some sink) forth back target sink =
      if backwards then back else target sink := by
  simp only [redirect]
  split <;> split <;> simp [apart.symm]

end Redirect

variable {name : Occupant → Value} {idle : Value} {wire : Port → Port → Prop}
  {occupant : Port → Option Occupant} {target : Occupant → Value}

theorem settled_unique {other : Occupant → Value}
    (settled : Settled name idle wire occupant target)
    (resettled : Settled name idle wire occupant other) : target = other := by
  funext seated
  by_cases here : target seated = idle
  · by_contra differ
    have elsewhere : other seated ≠ idle := fun same => differ (here.trans same.symm)
    obtain ⟨port, next, second, joined, sits, meets⟩ := resettled.unwired elsewhere
    exact differ ((settled.wired joined sits meets).trans
      (resettled.wired joined sits meets).symm)
  · obtain ⟨port, next, second, joined, sits, meets⟩ := settled.unwired here
    exact (settled.wired joined sits meets).trans (resettled.wired joined sits meets).symm

theorem idle_of_alone (settled : Settled name idle wire occupant target)
    (once : SeatedOnce occupant) {port : Port} {seated : Occupant}
    (sits : occupant port = some seated)
    (alone : ∀ other, wire port other → occupant other = none) : target seated = idle := by
  by_contra busy
  obtain ⟨place, other, second, joined, here, meets⟩ := settled.unwired busy
  have same := once place port seated here sits
  subst same
  rw [alone other joined] at meets
  cases meets

theorem settled_update [DecidableEq Port] {port : Port} (avoids : Avoids wire port)
    (seated : Option Occupant) (settled : Settled name idle wire occupant target) :
    Settled name idle wire (update occupant port seated) target := by
  have kept : ∀ {place other}, wire place other →
      update occupant port seated place = occupant place ∧
        update occupant port seated other = occupant other := by
    intro place other joined
    have here : place ≠ port := fun same => (avoids other).1 (same ▸ joined)
    have there : other ≠ port := fun same => (avoids place).2 (same ▸ joined)
    exact ⟨update_of_ne here _ _, update_of_ne there _ _⟩
  constructor
  · intro place other first second joined sits meets
    rw [(kept joined).1] at sits
    rw [(kept joined).2] at meets
    exact settled.wired joined sits meets
  · intro first busy
    obtain ⟨place, other, second, joined, sits, meets⟩ := settled.unwired busy
    exact ⟨place, other, second, joined, (kept joined).1.trans sits, (kept joined).2.trans meets⟩

theorem seated_apart {source sink : Port} (apart : source ≠ sink) (once : SeatedOnce occupant)
    {first second : Occupant} (sits : occupant source = some first)
    (meets : occupant sink = some second) : first ≠ second := by
  rintro rfl
  exact apart (once source sink first sits meets)

section Pair

variable [DecidableEq Occupant] {forwards backwards : Bool} {source sink : Port}
  {forth back : Value}

theorem redirect_joined (apart : source ≠ sink) (once : SeatedOnce occupant)
    {value : Occupant → Value}
    (valued : ∀ first second, occupant source = some first → occupant sink = some second →
      forth = value second ∧ back = value first)
    {port other : Port} (joined : Joins forwards backwards source sink port other)
    {first second : Occupant} (sits : occupant port = some first)
    (meets : occupant other = some second) :
    redirect forwards backwards (occupant source) (occupant sink) forth back target first =
      value second := by
  cases joined with
  | forth sent =>
    rw [sits, meets, redirect_source (seated_apart apart once sits meets), if_pos sent]
    exact (valued first second sits meets).1
  | back sent =>
    rw [sits, meets, redirect_sink (seated_apart apart once meets sits), if_pos sent]
    exact (valued second first meets sits).2

theorem redirect_unjoined {seated : Occupant}
    (unjoined : ∀ port other second, Joins forwards backwards source sink port other →
      occupant port = some seated → occupant other ≠ some second) :
    redirect forwards backwards (occupant source) (occupant sink) forth back target seated =
      target seated := by
  cases here : occupant source with
  | none => rfl
  | some first =>
    cases there : occupant sink with
    | none => rfl
    | some second =>
      have notSource : forwards → seated ≠ first := by
        rintro sent rfl
        exact unjoined source sink second (.forth sent) here there
      have notSink : backwards → seated ≠ second := by
        rintro sent rfl
        exact unjoined sink source first (.back sent) there here
      simp only [redirect]
      split <;> split <;> simp_all

theorem redirect_away (once : SeatedOnce occupant) (leaves : Avoids wire source)
    (misses : Avoids wire sink) {port other : Port} (wired : wire port other)
    {seated : Occupant} (sits : occupant port = some seated) :
    redirect forwards backwards (occupant source) (occupant sink) forth back target seated =
      target seated := by
  apply redirect_unjoined
  intro place next second joined here
  cases joined with
  | forth => exact absurd (once port source seated sits here ▸ wired) (leaves other).1
  | back => exact absurd (once port sink seated sits here ▸ wired) (misses other).1

/-- The occupants of the two joined ports are sent to each other. -/
theorem settled_join (apart : source ≠ sink) (once : SeatedOnce occupant)
    (leaves : Avoids wire source) (misses : Avoids wire sink)
    (named : ∀ first second, occupant source = some first → occupant sink = some second →
      forth = name second ∧ back = name first)
    (settled : Settled name idle wire occupant target) :
    Settled name idle (fun port other => wire port other ∨
        Joins forwards backwards source sink port other) occupant
      (redirect forwards backwards (occupant source) (occupant sink) forth back target) := by
  constructor
  · rintro port other first second (wired | joined) sits meets
    · rw [redirect_away once leaves misses wired sits]
      exact settled.wired wired sits meets
    · exact redirect_joined apart once named joined sits meets
  · intro seated busy
    by_contra none
    rw [redirect_unjoined fun port other second joined sits meets =>
      none ⟨port, other, second, .inr joined, sits, meets⟩] at busy
    obtain ⟨port, other, second, wired, sits, meets⟩ := settled.unwired busy
    exact none ⟨port, other, second, .inl wired, sits, meets⟩

/-- The occupants that the wires connected are made idle. -/
theorem settled_cut (apart : source ≠ sink) (once : SeatedOnce occupant)
    (leaves : Avoids wire source) (misses : Avoids wire sink)
    (settled : Settled name idle (fun port other => wire port other ∨
      Joins forwards backwards source sink port other) occupant target) :
    Settled name idle wire occupant
      (redirect forwards backwards (occupant source) (occupant sink) idle idle target) := by
  constructor
  · intro port other first second wired sits meets
    rw [redirect_away once leaves misses wired sits]
    exact settled.wired (.inl wired) sits meets
  · intro seated busy
    have unjoined : ∀ port other second, Joins forwards backwards source sink port other →
        occupant port = some seated → occupant other ≠ some second := by
      intro port other second joined sits meets
      exact busy (redirect_joined apart once (fun _ _ _ _ => ⟨rfl, rfl⟩) joined sits meets)
    rw [redirect_unjoined unjoined] at busy
    obtain ⟨port, other, second, wired | joined, sits, meets⟩ := settled.unwired busy
    · exact ⟨port, other, second, wired, sits, meets⟩
    · exact absurd meets (unjoined port other second joined sits)

end Pair

end PortWiring
