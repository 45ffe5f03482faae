import Mathlib.Data.List.Basic
import Mathlib.Data.List.Infix

/-!
Occurrences of one list inside another.
-/

namespace TextOccurrences

variable {Letter : Type}

def OccursAt (old text : List Letter) (position : Nat) : Prop := old <+: text.drop position

/-- Each piece but the last ends at the first occurrence of `old` in the rest of the text. -/
inductive Cuts (old : List Letter) : List Letter → List (List Letter) → Prop where
  | last (text : List Letter) (absent : ∀ position, ¬OccursAt old text position) :
      Cuts old text [text]
  | cut (before after : List Letter) (pieces : List (List Letter))
      (first : ∀ position < before.length, ¬OccursAt old (before ++ (old ++ after)) position)
      (later : Cuts old after pieces) : Cuts old (before ++ (old ++ after)) (before :: pieces)

variable {old text : List Letter}

theorem occursAt_append (before after : List Letter) :
    OccursAt old (before ++ (old ++ after)) before.length := by
  rw [OccursAt, List.drop_left]
  exact List.prefix_append old after

theorem eq_of_occursAt {position : Nat} (nonempty : old ≠ [])
    (occurs : OccursAt old text position) :
    ∃ before after, text = before ++ (old ++ after) ∧ before.length = position := by
  obtain ⟨after, joined⟩ := occurs
  have inside : position ≤ text.length := by
    by_contra beyond
    rw [List.drop_of_length_le (by omega)] at joined
    exact nonempty (List.append_eq_nil_iff.mp joined).1
  refine ⟨text.take position, after, ?_, List.length_take_of_le inside⟩
  rw [joined, List.take_append_drop]

theorem intercalate_cons_of_ne_nil (separator piece : List Letter) {pieces : List (List Letter)}
    (more : pieces ≠ []) :
    separator.intercalate (piece :: pieces) =
      piece ++ (separator ++ separator.intercalate pieces) := by
  cases pieces with
  | nil => exact absurd rfl more
  | cons next rest => simp [List.intercalate, List.intersperse]

namespace Cuts

variable {pieces : List (List Letter)}

theorem ne_nil (cuts : Cuts old text pieces) : pieces ≠ [] := by
  cases cuts <;> exact List.cons_ne_nil _ _

theorem intercalate (cuts : Cuts old text pieces) : old.intercalate pieces = text := by
  induction cuts with
  | last text absent => simp [List.intercalate]
  | cut before after pieces first later ih =>
    rw [intercalate_cons_of_ne_nil old before later.ne_nil, ih]

theorem length_le (nonempty : old ≠ []) (cuts : Cuts old text pieces) :
    pieces.length ≤ text.length + 1 := by
  have positive : 0 < old.length := List.length_pos_iff.mpr nonempty
  induction cuts with
  | last text absent => simp
  | cut before after pieces first later ih =>
    simp only [List.length_cons, List.length_append]
    omega

end Cuts

section Search

variable [DecidableEq Letter]

def find (old : List Letter) : List Letter → Option Nat
  | [] => if old = [] then some 0 else none
  | letter :: rest =>
      if old <+: letter :: rest then some 0 else (find old rest).map Nat.succ

theorem find_eq_none (absent : find old text = none) (position : Nat) :
    ¬OccursAt old text position := by
  induction text generalizing position with
  | nil =>
    intro occurs
    rw [OccursAt, List.drop_nil, List.prefix_nil] at occurs
    simp [find, occurs] at absent
  | cons letter rest ih =>
    simp only [find] at absent
    split at absent
    · cases absent
    · rename_i elsewhere
      cases position with
      | zero => exact elsewhere
      | succ position => exact ih (Option.map_eq_none_iff.mp absent) position

theorem find_eq_some {position : Nat} (found : find old text = some position) :
    OccursAt old text position ∧ ∀ earlier < position, ¬OccursAt old text earlier := by
  induction text generalizing position with
  | nil =>
    simp only [find, Option.ite_none_right_eq_some, Option.some.injEq] at found
    obtain ⟨rfl, rfl⟩ := found
    exact ⟨List.nil_prefix, fun earlier below => by omega⟩
  | cons letter rest ih =>
    simp only [find] at found
    split at found
    · rename_i here
      cases found
      exact ⟨here, fun earlier below => by omega⟩
    · rename_i elsewhere
      obtain ⟨tailPosition, inTail, rfl⟩ := Option.map_eq_some_iff.mp found
      obtain ⟨occurs, leftmost⟩ := ih inTail
      refine ⟨occurs, fun earlier below => ?_⟩
      cases earlier with
      | zero => exact elsewhere
      | succ earlier => exact leftmost earlier (by omega)

theorem find_of_first {before after : List Letter}
    (first : ∀ position < before.length, ¬OccursAt old (before ++ (old ++ after)) position) :
    find old (before ++ (old ++ after)) = some before.length := by
  cases found : find old (before ++ (old ++ after)) with
  | none => exact absurd (occursAt_append before after) (find_eq_none found before.length)
  | some position =>
    obtain ⟨occurs, leftmost⟩ := find_eq_some found
    have notBefore : ¬position < before.length := fun below => first position below occurs
    have notAfter : ¬before.length < position :=
      fun above => leftmost before.length above (occursAt_append before after)
    rw [show position = before.length by omega]

theorem find_of_absent (absent : ∀ position, ¬OccursAt old text position) :
    find old text = none := by
  cases found : find old text with
  | none => rfl
  | some position => exact absurd (find_eq_some found).1 (absent position)

theorem exists_cuts (nonempty : old ≠ []) (text : List Letter) :
    ∃ pieces, Cuts old text pieces := by
  generalize size : text.length = count
  induction count using Nat.strongRecOn generalizing text with
  | ind count ih =>
    cases found : find old text with
    | none => exact ⟨[text], .last text (find_eq_none found)⟩
    | some position =>
      obtain ⟨occurs, leftmost⟩ := find_eq_some found
      obtain ⟨before, after, rfl, rfl⟩ := eq_of_occursAt nonempty occurs
      have positive : 0 < old.length := List.length_pos_iff.mpr nonempty
      have shorter : after.length < count := by
        simp only [List.length_append] at size
        omega
      obtain ⟨pieces, later⟩ := ih after.length shorter after rfl
      exact ⟨before :: pieces, .cut before after pieces leftmost later⟩

theorem Cuts.unique {pieces others : List (List Letter)} (cuts : Cuts old text pieces)
    (otherCuts : Cuts old text others) : pieces = others := by
  induction cuts generalizing others with
  | last text absent =>
    generalize same : text = other at otherCuts
    cases otherCuts with
    | last _ _ => rfl
    | cut before after pieces _ _ =>
      subst same
      exact absurd (occursAt_append before after) (absent before.length)
  | cut before after pieces first later ih =>
    generalize same : before ++ (old ++ after) = other at otherCuts
    cases otherCuts with
    | last _ absent =>
      subst same
      exact absurd (occursAt_append before after) (absent before.length)
    | cut otherBefore otherAfter otherPieces otherFirst otherLater =>
      have searched := find_of_first first
      rw [same, find_of_first otherFirst] at searched
      obtain ⟨sameBefore, sameRest⟩ := List.append_inj same (Option.some.inj searched).symm
      have sameAfter := List.append_cancel_left sameRest
      subst sameAfter
      rw [sameBefore, ih otherLater]

end Search

end TextOccurrences
