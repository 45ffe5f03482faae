import Mathlib.Data.Nat.Digits.Defs

/-!
Keys that join a name and a number with one separating character.
-/

namespace SeparatedKeys

open Function

theorem append_separator_inj {separator : Char} {first second firstEnd secondEnd : List Char}
    (clean : separator ∉ firstEnd) (clear : separator ∉ secondEnd)
    (same : first ++ separator :: firstEnd = second ++ separator :: secondEnd) :
    first = second ∧ firstEnd = secondEnd := by
  rcases List.append_eq_append_iff.mp same with ⟨middle, longer, rest⟩ | ⟨middle, longer, rest⟩
  · cases middle with
    | nil => exact ⟨by simpa using longer.symm, by simpa using rest⟩
    | cons head tail =>
      simp only [List.cons_append, List.cons.injEq] at rest
      exact absurd (rest.2 ▸ by simp) clean
  · cases middle with
    | nil => exact ⟨by simpa using longer, by simpa using rest.symm⟩
    | cons head tail =>
      simp only [List.cons_append, List.cons.injEq] at rest
      exact absurd (rest.2 ▸ by simp) clear

theorem notMem_toString {separator : Char} (noDigit : separator.isDigit = false) (number : Nat) :
    separator ∉ (toString number).toList := by
  intro member
  have digit := Nat.isDigit_of_mem_toDigits (by decide) (by decide)
    (Nat.toList_repr ▸ member : separator ∈ Nat.toDigits 10 number)
  rw [noDigit] at digit
  cases digit

theorem toString_toList_inj {number other : Nat}
    (same : (toString number).toList = (toString other).toList) : number = other := by
  simp only [Nat.toString_eq_repr, Nat.toList_repr] at same
  have parsed := congrArg (Nat.ofDigitChars 10 · 0) same
  simpa using parsed

theorem key_inj {separator : String} {letter : Char} (single : separator.toList = [letter])
    (noDigit : letter.isDigit = false) {name otherName : String} {number otherNumber : Nat}
    (same : name ++ separator ++ toString number =
      otherName ++ separator ++ toString otherNumber) :
    name = otherName ∧ number = otherNumber := by
  have listed := congrArg String.toList same
  simp only [String.toList_append, single, List.append_assoc] at listed
  obtain ⟨names, numbers⟩ := append_separator_inj (notMem_toString noDigit number)
    (notMem_toString noDigit otherNumber) listed
  exact ⟨String.toList_inj.mp names, toString_toList_inj numbers⟩

/-! A table that is read through the keys of its names. -/

section Tables

variable {Name Key Info : Type} (key : Name → Key)

def OwnKey (name : Name) : Prop := ∀ other, key other = key name → other = name

def Mirrors (table : Key → Info) (latest : Name → Info) : Prop :=
  ∀ name, table (key name) = latest name

def SharedUnset (unset : Info) (latest : Name → Info) : Prop :=
  ∀ name, ¬OwnKey key name → latest name = unset

variable {key} {unset : Info} {table : Key → Info} {latest : Name → Info}
  [DecidableEq Name] [DecidableEq Key]

/-- For a shared key the table stays exact only if nothing is stored. -/
theorem mirrors_update_iff (mirrors : Mirrors key table latest)
    (shared : SharedUnset key unset latest) (name : Name) (info : Info) :
    Mirrors key (update table (key name) info) (update latest name info) ↔
      OwnKey key name ∨ info = unset := by
  constructor
  · intro stored
    by_cases own : OwnKey key name
    · exact .inl own
    · refine .inr ?_
      simp only [OwnKey, not_forall] at own
      obtain ⟨other, same, different⟩ := own
      have another : ¬OwnKey key other := fun unique => different (unique name same.symm).symm
      have found := stored other
      rwa [same, update_self, update_of_ne different, shared other another]
        at found
  · intro allowed other
    by_cases self : other = name
    · subst self
      rw [update_self, update_self]
    · rw [update_of_ne self]
      by_cases same : key other = key name
      · have another : ¬OwnKey key other := fun unique => self (unique name same.symm).symm
        have mine : ¬OwnKey key name := fun unique => self (unique other same)
        rw [same, update_self, allowed.resolve_left mine, shared other another]
      · rw [update_of_ne same, mirrors other]

omit [DecidableEq Key] in
theorem sharedUnset_update (shared : SharedUnset key unset latest) {name : Name} {info : Info}
    (allowed : OwnKey key name ∨ info = unset) :
    SharedUnset key unset (update latest name info) := by
  intro other another
  by_cases self : other = name
  · subst self
    rw [update_self, allowed.resolve_left another]
  · rw [update_of_ne self, shared other another]

end Tables

end SeparatedKeys
