import Mathlib.Logic.Function.Basic

/-!
Two partial maps that invert each other.
-/

namespace PartialInverse

open Function

variable {α β : Type} {forward : α → Option β} {backward : β → Option α}

def Inverse (forward : α → Option β) (backward : β → Option α) : Prop :=
  ∀ key value, backward value = some key ↔ forward key = some value

variable [DecidableEq α]

theorem inverse_forget_iff (inverse : Inverse forward backward) (key : α) :
    Inverse (update forward key none) backward ↔ forward key = none := by
  constructor
  · intro forgotten
    cases held : forward key with
    | none => rfl
    | some value =>
      have back := (forgotten key value).mp ((inverse key value).mpr held)
      simp at back
  · intro absent
    rwa [← absent, update_eq_self]

variable [DecidableEq β]

theorem inverse_assign_iff (inverse : Inverse forward backward) (key : α) {value : β}
    (fresh : backward value = none) :
    Inverse (update forward key (some value))
      (update backward value (some key)) ↔ forward key = none := by
  constructor
  · intro assigned
    cases held : forward key with
    | none => rfl
    | some old =>
      have owner := (inverse key old).mpr held
      have other : old ≠ value := by
        rintro rfl
        rw [fresh] at owner
        cases owner
      have back := (assigned key old).mp (by rwa [update_of_ne other])
      simp only [update_self, Option.some.injEq] at back
      exact absurd back.symm other
  · intro absent otherKey otherValue
    have unused : forward otherKey ≠ some value := by
      intro used
      rw [← inverse, fresh] at used
      cases used
    have pair := inverse otherKey otherValue
    by_cases sameKey : otherKey = key <;> by_cases sameValue : otherValue = value
    · simp [sameKey, sameValue]
    · subst sameKey
      simp [update_of_ne sameValue, pair, absent, Ne.symm sameValue]
    · subst sameValue
      simp [update_of_ne sameKey, unused, Ne.symm sameKey]
    · rw [update_of_ne sameKey, update_of_ne sameValue, pair]

theorem inverse_remove_iff (inverse : Inverse forward backward) (key : α) (value : β) :
    Inverse (update forward key none) (update backward value none) ↔
      (forward key = none ∨ forward key = some value) ∧
        (backward value = none ∨ backward value = some key) := by
  constructor
  · intro removed
    constructor
    · cases held : forward key with
      | none => exact .inl rfl
      | some old =>
        by_cases same : old = value
        · exact .inr (by rw [same])
        · have back := (removed key old).mp
            (by rw [update_of_ne same]; exact (inverse key old).mpr held)
          simp at back
    · cases held : backward value with
      | none => exact .inl rfl
      | some owner =>
        by_cases same : owner = key
        · exact .inr (by rw [same])
        · have back := (removed owner value).mpr
            (by rw [update_of_ne same]; exact (inverse owner value).mp held)
          simp at back
  · rintro ⟨left, right⟩ otherKey otherValue
    have pair := inverse otherKey otherValue
    by_cases sameKey : otherKey = key <;> by_cases sameValue : otherValue = value
    · simp [sameKey, sameValue]
    · subst sameKey
      rw [update_of_ne sameValue, update_self, pair]
      rcases left with absent | held
      · simp [absent]
      · simp [held, Ne.symm sameValue]
    · subst sameValue
      rw [update_of_ne sameKey, update_self, ← pair]
      rcases right with absent | held
      · simp [absent]
      · simp [held, Ne.symm sameKey]
    · rw [update_of_ne sameKey, update_of_ne sameValue, pair]

end PartialInverse
