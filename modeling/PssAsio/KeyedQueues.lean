import Mathlib.Data.List.Basic
import Mathlib.Logic.Function.Basic

/-!
First-in first-out queues under keys, with their history.
-/

namespace KeyedQueues

open Function

variable {Key Task Owner : Type} [DecidableEq Key]

structure Queues (Key Task : Type) where
  queue : Key → Option (List Task)
  handed : List (Key × Task)
  executed : List (Key × Task)

namespace Queues

def empty : Queues Key Task := ⟨fun _ => none, [], []⟩

variable (queues : Queues Key Task)

variable (key : Key)

def create : Queues Key Task :=
  match queues.queue key with
  | some _ => queues
  | none => { queues with queue := update queues.queue key (some []) }

def put (task : Task) : Queues Key Task × Bool :=
  match queues.queue key with
  | some tasks =>
      ({ queues with
        queue := update queues.queue key (some (tasks ++ [task]))
        handed := queues.handed ++ [(key, task)] }, true)
  | none => ({ queues with handed := queues.handed ++ [(key, task)] }, false)

def pop : Option (Queues Key Task) :=
  match queues.queue key with
  | some (task :: rest) =>
      some { queues with
        queue := update queues.queue key (some rest)
        executed := queues.executed ++ [(key, task)] }
  | _ => none

def keyed (log : List (Key × Task)) : List Task :=
  (log.filter fun entry => entry.1 = key).map Prod.snd

structure Accounted : Prop where
  balance : ∀ key tasks, queues.queue key = some tasks →
    keyed key queues.handed = keyed key queues.executed ++ tasks
  taken : ∀ entry ∈ queues.executed, entry ∈ queues.handed

theorem keyed_append (first second : List (Key × Task)) :
    keyed key (first ++ second) = keyed key first ++ keyed key second := by
  simp only [keyed, List.filter_append, List.map_append]

theorem keyed_self (task : Task) : keyed key [(key, task)] = [task] := by
  simp [keyed]

variable {key : Key} {queues next : Queues Key Task}

theorem keyed_other {other : Key} (differs : other ≠ key) (task : Task) :
    keyed key [(other, task)] = [] := by
  simp [keyed, differs]

theorem mem_keyed {task : Task} {log : List (Key × Task)} :
    task ∈ keyed key log ↔ (key, task) ∈ log := by
  constructor
  · intro member
    obtain ⟨entry, listed, rfl⟩ := List.mem_map.mp member
    obtain ⟨inside, same⟩ := List.mem_filter.mp listed
    exact of_decide_eq_true same ▸ inside
  · intro member
    exact List.mem_map.mpr ⟨(key, task), List.mem_filter.mpr ⟨member, by simp⟩, rfl⟩

theorem empty_accounted : (empty : Queues Key Task).Accounted where
  balance := by
    intro key tasks opened
    cases opened
  taken := by
    intro entry member
    cases member

theorem create_open {other : Key} : ((queues.create key).queue other).isSome = true ↔
      (queues.queue other).isSome = true ∨ other = key := by
  unfold create
  cases found : queues.queue key with
  | some tasks =>
    constructor
    · exact Or.inl
    · rintro (opened | rfl)
      · exact opened
      · rw [found]
        rfl
  | none =>
    by_cases same : other = key
    · simp [same]
    · simp [same]

theorem create_handed (queues : Queues Key Task) (key : Key) :
    (queues.create key).handed = queues.handed := by
  unfold create
  split <;> rfl

theorem create_executed (queues : Queues Key Task) (key : Key) :
    (queues.create key).executed = queues.executed := by
  unfold create
  split <;> rfl

theorem create_accounted (accounted : queues.Accounted) (fresh : queues.handed = []) (key : Key) :
    (queues.create key).Accounted where
  balance := by
    intro other tasks opened
    have idle : queues.executed = [] := by
      apply List.eq_nil_iff_forall_not_mem.mpr
      intro entry member
      have before := accounted.taken entry member
      rw [fresh] at before
      cases before
    rw [create_handed, create_executed, fresh, idle]
    unfold create at opened
    split at opened
    · simpa only [fresh, idle] using accounted.balance other tasks opened
    · by_cases same : other = key
      · simp only [same, update_self, Option.some.injEq] at opened
        rw [← opened, List.append_nil]
      · simp only [update_of_ne same] at opened
        simpa only [fresh, idle] using accounted.balance other tasks opened
  taken := by
    intro entry member
    rw [create_executed] at member
    rw [create_handed]
    exact accounted.taken entry member

theorem put_handed (queues : Queues Key Task) (key : Key) (task : Task) :
    (queues.put key task).1.handed = queues.handed ++ [(key, task)] := by
  unfold put
  split <;> rfl

theorem put_executed (queues : Queues Key Task) (key : Key) (task : Task) :
    (queues.put key task).1.executed = queues.executed := by
  unfold put
  split <;> rfl

theorem put_open (queues : Queues Key Task) (key other : Key) (task : Task) :
    ((queues.put key task).1.queue other).isSome = (queues.queue other).isSome := by
  unfold put
  cases found : queues.queue key with
  | none => rfl
  | some tasks =>
    by_cases same : other = key
    · simp [same, found]
    · simp [update_of_ne same]

theorem put_accounted (accounted : queues.Accounted) (key : Key) (task : Task) :
    (queues.put key task).1.Accounted where
  balance := by
    intro other tasks opened
    rw [put_handed, put_executed, keyed_append]
    unfold put at opened
    by_cases same : other = key
    · subst same
      rw [keyed_self]
      cases found : queues.queue other with
      | none => simp [found] at opened
      | some earlier =>
        simp only [found, update_self, Option.some.injEq] at opened
        rw [← opened, accounted.balance other earlier found, List.append_assoc]
    · rw [keyed_other (Ne.symm same), List.append_nil]
      apply accounted.balance other tasks
      cases found : queues.queue key with
      | none => simpa [found] using opened
      | some earlier => simpa [found, update_of_ne same] using opened
  taken := by
    intro entry member
    rw [put_executed] at member
    rw [put_handed]
    exact List.mem_append_left _ (accounted.taken entry member)

theorem pop_eq_some (popped : queues.pop key = some next) :
    ∃ task rest, queues.queue key = some (task :: rest) ∧
      next = { queues with
        queue := update queues.queue key (some rest)
        executed := queues.executed ++ [(key, task)] } := by
  unfold pop at popped
  split at popped
  · rename_i task rest found
    exact ⟨task, rest, found, (Option.some.inj popped).symm⟩
  · cases popped

theorem pop_accounted (accounted : queues.Accounted) (popped : queues.pop key = some next) :
    next.Accounted := by
  obtain ⟨task, rest, found, rfl⟩ := pop_eq_some popped
  have earlier := accounted.balance key _ found
  constructor
  · intro other tasks opened
    rw [keyed_append]
    by_cases same : other = key
    · subst same
      simp only [update_self, Option.some.injEq] at opened
      rw [earlier, keyed_self, ← opened, List.append_assoc, List.singleton_append]
    · rw [keyed_other (Ne.symm same), List.append_nil]
      apply accounted.balance other tasks
      simpa [update_of_ne same] using opened
  · intro entry member
    rcases List.mem_append.mp member with before | added
    · exact accounted.taken entry before
    · rw [List.mem_singleton.mp added]
      apply mem_keyed.mp
      rw [earlier]
      exact List.mem_append_right _ List.mem_cons_self

theorem pop_open (popped : queues.pop key = some next) (other : Key) :
    (next.queue other).isSome = (queues.queue other).isSome := by
  obtain ⟨task, rest, found, rfl⟩ := pop_eq_some popped
  by_cases same : other = key
  · simp [same, found]
  · simp [update_of_ne same]

section Owned

variable [DecidableEq Owner] (owner : Task → Option Owner) (route : Owner → Key)

def owned (name : Owner) (log : List (Key × Task)) : List Task :=
  (log.filter fun entry => owner entry.2 = some name).map Prod.snd

def Routed (log : List (Key × Task)) : Prop :=
  ∀ entry ∈ log, ∀ name, owner entry.2 = some name → entry.1 = route name

variable {owner route}

omit [DecidableEq Key] [DecidableEq Owner] in
theorem Routed.append {first second : List (Key × Task)} (before : Routed owner route first)
    (after : Routed owner route second) : Routed owner route (first ++ second) := by
  intro entry member
  rcases List.mem_append.mp member with inFirst | inSecond
  · exact before entry inFirst
  · exact after entry inSecond

theorem owned_eq_filter_keyed {log : List (Key × Task)} (routed : Routed owner route log)
    (name : Owner) :
    owned owner name log = (keyed (route name) log).filter fun task => owner task = some name := by
  simp only [owned, keyed, List.filter_map, List.filter_filter]
  congr 1
  apply List.filter_congr
  intro entry member
  by_cases owns : owner entry.2 = some name
  · simp [owns, routed entry member name owns]
  · simp [owns]

theorem Accounted.owned_balance (accounted : queues.Accounted)
    (routed : Routed owner route queues.handed) {name : Owner} {tasks : List Task}
    (opened : queues.queue (route name) = some tasks) :
    owned owner name queues.handed =
      owned owner name queues.executed ++ tasks.filter fun task => owner task = some name := by
  have ran : Routed owner route queues.executed :=
    fun entry member => routed entry (accounted.taken entry member)
  rw [owned_eq_filter_keyed routed, owned_eq_filter_keyed ran, ← List.filter_append,
    accounted.balance _ tasks opened]

end Owned

end Queues

end KeyedQueues
