import Mathlib.Algebra.BigOperators.Group.List.Basic
import Mathlib.Algebra.Order.BigOperators.Group.List
import Mathlib.Algebra.Group.Action.Defs
import Mathlib.Algebra.GroupWithZero.Nat
import Mathlib.Algebra.Order.Group.Nat
import Mathlib.Order.Fin.Basic

/-!
# Consecutive intervals

A list of widths cuts an initial segment of the natural numbers into
consecutive half-open intervals.  They are pairwise disjoint and together are
the whole segment.
-/

namespace Intervals

/-- Where the `k`-th interval starts. -/
def start (widths : List ℕ) (k : ℕ) : ℕ :=
  (widths.take k).sum

@[simp] theorem start_zero (widths : List ℕ) : start widths 0 = 0 := rfl

theorem start_cons_succ (w : ℕ) (widths : List ℕ) (k : ℕ) :
    start (w :: widths) (k + 1) = w + start widths k := by
  simp [start]

/-- Every interval ends where the next one starts. -/
theorem start_succ (widths : List ℕ) {k : ℕ} (hk : k < widths.length) :
    start widths (k + 1) = start widths k + widths[k] := by
  rw [start, start, List.take_add_one, List.getElem?_eq_getElem hk,
    Option.toList_some, List.sum_append, List.sum_singleton]

@[simp] theorem start_length (widths : List ℕ) :
    start widths widths.length = widths.sum := by
  rw [start, List.take_length]

theorem start_mono (widths : List ℕ) : Monotone (start widths) := by
  refine monotone_nat_of_le_succ fun k => ?_
  by_cases hk : k < widths.length
  · rw [start_succ widths hk]
    exact Nat.le_add_right _ _
  · rw [start, start, List.take_of_length_le (by omega),
      List.take_of_length_le (by omega)]

/-- The intervals cover the segment, each number once. -/
theorem existsUnique_interval (widths : List ℕ) {r : ℕ}
    (hr : r < widths.sum) :
    ∃! k : Fin widths.length,
      start widths k ≤ r ∧ r < start widths k + widths[k] := by
  have hexists : ∃ k : Fin widths.length,
      start widths k ≤ r ∧ r < start widths k + widths[k] := by
    induction widths generalizing r with
    | nil => simp at hr
    | cons w widths ih =>
        by_cases hw : r < w
        · exact ⟨⟨0, by simp⟩, by simp, by simpa using hw⟩
        · rw [List.sum_cons] at hr
          obtain ⟨⟨k, hk⟩, hlow, hhigh⟩ := ih (r := r - w) (by omega)
          refine ⟨⟨k + 1, by simpa using hk⟩, ?_⟩
          simp only [start_cons_succ, Fin.getElem_fin, List.getElem_cons_succ]
            at hlow hhigh ⊢
          omega
  obtain ⟨k, hlow, hhigh⟩ := hexists
  refine ⟨k, ⟨hlow, hhigh⟩, fun j hj => ?_⟩
  have hbefore {i j : Fin widths.length} (hij : i < j) :
      start widths i + widths[i] ≤ start widths j := by
    rw [Fin.getElem_fin, ← start_succ widths i.isLt]
    exact start_mono widths (Nat.succ_le_of_lt hij)
  rcases lt_trichotomy j k with hlt | heq | hgt
  · have := hbefore hlt
    omega
  · exact heq
  · have := hbefore hgt
    omega

/-- Widths of at most `w` add up to at most `w` times their number. -/
theorem start_le_mul {widths : List ℕ} {w : ℕ} (hw : ∀ x ∈ widths, x ≤ w)
    (k : ℕ) : start widths k ≤ widths.length * w := by
  have hle : start widths k ≤ widths.sum := by
    rw [← start_length]
    by_cases hk : k ≤ widths.length
    · exact start_mono widths hk
    · rw [start, List.take_of_length_le (by omega), start_length]
  have hsum := List.sum_le_card_nsmul widths w hw
  rw [smul_eq_mul] at hsum
  omega

end Intervals
