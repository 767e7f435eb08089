import Mathlib.Analysis.Convex.Basic
import Mathlib.Algebra.Order.Archimedean.Basic
import Mathlib.Data.Int.ConditionallyCompleteOrder

/-! # Arithmetic progressions in an interval

A point that advances by the same amount in every step. Steps that divide the way to
a target inside the interval never leave it; integer steps other than zero do, after
no more steps than fit between the two ends.
-/

namespace Progression

/-! ## Towards a target -/

variable {K : Type*} [Field K] [LinearOrder K] [IsStrictOrderedRing K]

/-- The way from `p` to `q` in `m` equal steps stays between the ends of the interval. -/
theorem toward_mem_Icc {lo hi p q : K} {n m : ℕ} (hp : p ∈ Set.Icc lo hi)
    (hq : q ∈ Set.Icc lo hi) (le : n ≤ m) : p + n * ((q - p) / m) ∈ Set.Icc lo hi := by
  have ratio : (n : K) / m ∈ Set.Icc (0 : K) 1 :=
    ⟨by positivity, div_le_one_of_le₀ (by exact_mod_cast le) (Nat.cast_nonneg m)⟩
  have between := (convex_Icc lo hi).add_smul_sub_mem hp hq ratio
  rw [smul_eq_mul] at between
  convert between using 2
  ring

/-- The last of the `m` steps arrives. -/
theorem toward_arrives (p q : K) {m : ℕ} (pos : 0 < m) : p + m * ((q - p) / m) = q := by
  have nonzero : (m : K) ≠ 0 := by exact_mod_cast pos.ne'
  rw [mul_div_cancel₀ _ nonzero]
  ring

/-! ## Out of the interval -/

/-- From inside the interval the steps that fit into it, and one more, lead out. -/
theorem leaves_of_mem {lo hi p v : ℤ} (hp : p ∈ Set.Icc lo hi) (hv : v ≠ 0) :
    p + (1 + (hi - lo) / |v|) * v ∉ Set.Icc lo hi := by
  have size : 0 < |v| := abs_pos.mpr hv
  have far : hi - lo < (1 + (hi - lo) / |v|) * |v| := by
    have := Int.lt_ediv_add_one_mul_self (hi - lo) size
    linarith
  intro inside
  obtain ⟨plo, phi⟩ := hp
  obtain ⟨qlo, qhi⟩ := inside
  rcases abs_choice v with up | down
  · rw [up] at far qlo qhi
    linarith
  · rw [down] at far qlo qhi
    linarith

/-- The number of steps of `leaves_of_mem`, as a positive count. -/
theorem exists_steps {lo hi v : ℤ} (le : lo ≤ hi) :
    ∃ n : ℕ, 1 ≤ n ∧ (n : ℤ) = 1 + (hi - lo) / |v| := by
  have nonneg : 0 ≤ (hi - lo) / |v| := Int.ediv_nonneg (by omega) (abs_nonneg v)
  exact ⟨(1 + (hi - lo) / |v|).toNat, by omega, by omega⟩

/-- Wherever it starts, a progression with a step other than zero is outside at some step. -/
theorem exists_leaves (lo hi p : ℤ) {v : ℤ} (hv : v ≠ 0) :
    ∃ n : ℕ, 1 ≤ n ∧ p + n * v ∉ Set.Icc lo hi := by
  by_cases first : p + v ∈ Set.Icc lo hi
  · have le : lo ≤ hi := first.1.trans first.2
    obtain ⟨n, one, count⟩ := exists_steps (v := v) le
    refine ⟨n + 1, by omega, ?_⟩
    have out := leaves_of_mem first hv
    rw [← count] at out
    convert out using 2
    push_cast
    ring
  · exact ⟨1, le_rfl, by simpa using first⟩

end Progression
