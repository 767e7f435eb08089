import QnxAtc.Computer.Prediction
import Mathlib.Algebra.Order.Ring.Abs

/-! # The equal-velocity shortcut against the loop it saves

`checkAxes` skips the look-ahead for velocities that agree within a tolerance. Planes of
exactly one velocity keep their distance and nothing is lost. Within the tolerance they
drift by at most a millionth a second, which a loop over the horizon would add up.
-/

namespace QnxAtc

/-- The difference below which two speeds count as equal. -/
def negligibleDifference : ℚ := 1 / 1000000

/-- Not in conflict now, but no further outside the box than the drift over the horizon. -/
def NearMiss (T : Int32) (plane1 plane2 : MsgPlaneInfo) : Prop :=
  ¬ Conflict plane1 plane2 ∧
    |plane1.positionX - plane2.positionX| ≤ constraintX + T.toInt * negligibleDifference ∧
      |plane1.positionY - plane2.positionY| ≤ constraintY + T.toInt * negligibleDifference ∧
        |plane1.positionZ - plane2.positionZ| ≤ constraintZ + T.toInt * negligibleDifference

/-- On one axis the distance changes by at most the tolerance in a second. -/
theorem distance_le_of_sameSpeed {x1 x2 v1 v2 bound t horizon : ℚ} (same : sameSpeed v1 v2)
    (ht : 0 ≤ t) (hle : t ≤ horizon) (later : |(x1 + v1 * t) - (x2 + v2 * t)| ≤ bound) :
    |x1 - x2| ≤ bound + horizon * negligibleDifference := by
  have drift : |(v1 - v2) * t| ≤ horizon * negligibleDifference := by
    have slow : |v1 - v2| ≤ negligibleDifference := le_of_lt same
    rw [abs_mul, abs_of_nonneg ht, mul_comm horizon]
    exact mul_le_mul slow hle ht (by norm_num [negligibleDifference])
  calc |x1 - x2| = |((x1 + v1 * t) - (x2 + v2 * t)) - (v1 - v2) * t| := by
        congr 1
        ring
    _ ≤ |(x1 + v1 * t) - (x2 + v2 * t)| + |(v1 - v2) * t| := abs_sub _ _
    _ ≤ bound + horizon * negligibleDifference := add_le_add later drift

/-- A conflict that only the loop would find is a near miss now. -/
theorem nearMiss_of_later {T : Int32} {plane1 plane2 : MsgPlaneInfo}
    (same : SameVelocity plane1 plane2) (miss : ¬ Conflict plane1 plane2) {k : Nat}
    (hk : (k : Int) ≤ T.toInt) (later : Conflict (plane1.future k) (plane2.future k)) :
    NearMiss T plane1 plane2 := by
  have begun : (0 : ℚ) ≤ k := by positivity
  have within : (k : ℚ) ≤ T.toInt := by exact_mod_cast hk
  exact ⟨miss, distance_le_of_sameSpeed same.1 begun within later.1,
    distance_le_of_sameSpeed same.2.1 begun within later.2.1,
    distance_le_of_sameSpeed same.2.2 begun within later.2.2⟩

/-- For velocities within the tolerance and a horizon that is not negative, the shortcut
answers; so does the loop in its place, unless the horizon is the largest `int`; and when
it does, it answers `true` wherever the shortcut does, the same answer for equal
velocities, and another one only for a near miss. -/
theorem shortcut_close_to_loop (plane1 plane2 : MsgPlaneInfo) (T : Int32) (hT : 0 ≤ T.toInt)
    (same : SameVelocity plane1 plane2) :
    ∃ now, checkAxes T plane1 plane2 = .ok now ∧
      (T.toInt + 1 < intValues → ∃ looped, lookAhead T plane1 plane2 intValues 0 = .ok looped) ∧
      ∀ looped, lookAhead T plane1 plane2 intValues 0 = .ok looped →
        (now = true → looped = true) ∧
        (plane1.velocityX = plane2.velocityX ∧ plane1.velocityY = plane2.velocityY ∧
          plane1.velocityZ = plane2.velocityZ → now = looped) ∧
        (now ≠ looped → NearMiss T plane1 plane2) := by
  have shortcut : checkAxes T plane1 plane2 = .ok (decide (Conflict plane1 plane2)) :=
    if_pos same
  have hits := lookAhead_true_iff T plane1 plane2 intValues 0 rfl
  refine ⟨_, shortcut, ?_, ?_⟩
  · intro below
    cases loop : lookAhead T plane1 plane2 intValues 0 with
    | ok looped => exact ⟨looped, rfl⟩
    | error fault =>
        have largest :=
          ((lookAhead_error_iff T plane1 plane2 intValues 0 rfl (.inl rfl)).mp ⟨fault, loop⟩).1
        omega
  · intro looped loop
    rw [loop, Except.ok.injEq] at hits
    have found : Conflict plane1 plane2 → looped = true := by
      intro now
      exact hits.mpr ⟨0, le_rfl, by simpa using hT, by simpa using now⟩
    have missed : ¬ Conflict plane1 plane2 → looped = true → NearMiss T plane1 plane2 := by
      intro miss h
      obtain ⟨k, _, hk, later⟩ := hits.mp h
      exact nearMiss_of_later same miss hk later
    refine ⟨fun now => found (of_decide_eq_true now), ?_, ?_⟩
    · rintro ⟨hx, hy, hz⟩
      rw [Bool.eq_iff_iff, decide_eq_true_iff]
      refine ⟨found, fun h => ?_⟩
      obtain ⟨k, _, _, later⟩ := hits.mp h
      exact (conflict_future_iff hx hy hz k).mp later
    · intro differ
      by_cases now : Conflict plane1 plane2
      · exact absurd ((decide_eq_true now).trans (found now).symm) differ
      · refine missed now ?_
        rw [decide_eq_false now] at differ
        exact (Bool.not_eq_false _).mp (Ne.symm differ)

/-- Two planes a ten-thousandth outside the box that drift into it within 180 seconds. -/
theorem shortcut_misses_drift :
    ¬ ∀ (plane1 plane2 : MsgPlaneInfo) (T : Int32), 0 ≤ T.toInt → SameVelocity plane1 plane2 →
        checkAxes T plane1 plane2 = lookAhead T plane1 plane2 intValues 0 := by
  intro claim
  have agree := claim ⟨1, 50000, 50000, 20000, 100 + 9 / 10000000, 0, 0⟩
    ⟨2, 53000 + 1 / 10000, 50000, 20000, 100, 0, 0⟩ 180 (by decide) (by decide +kernel)
  have shortcut : checkAxes 180 ⟨1, 50000, 50000, 20000, 100 + 9 / 10000000, 0, 0⟩
      ⟨2, 53000 + 1 / 10000, 50000, 20000, 100, 0, 0⟩ = .ok false := by decide +kernel
  have loop : lookAhead 180 ⟨1, 50000, 50000, 20000, 100 + 9 / 10000000, 0, 0⟩
      ⟨2, 53000 + 1 / 10000, 50000, 20000, 100, 0, 0⟩ intValues 0 = .ok true :=
    (lookAhead_true_iff _ _ _ _ 0 rfl).mpr ⟨180, by decide, by decide, by decide +kernel⟩
  rw [shortcut, loop] at agree
  cases agree

theorem shortcut_close_to_loop_formation :
    ∃ now, checkAxes 180 ⟨1, 50000, 50000, 20000, 100, 0, 0⟩
        ⟨2, 52000, 50000, 20000, 100, 0, 0⟩ = .ok now ∧
      lookAhead 180 ⟨1, 50000, 50000, 20000, 100, 0, 0⟩
        ⟨2, 52000, 50000, 20000, 100, 0, 0⟩ intValues 0 = .ok now := by
  obtain ⟨now, shortcut, loops, agrees⟩ := shortcut_close_to_loop
    ⟨1, 50000, 50000, 20000, 100, 0, 0⟩ ⟨2, 52000, 50000, 20000, 100, 0, 0⟩ 180
    (by decide) (by decide +kernel)
  obtain ⟨looped, loop⟩ := loops (by decide)
  have equal : now = looped := (agrees looped loop).2.1 ⟨rfl, rfl, rfl⟩
  exact ⟨now, shortcut, equal ▸ loop⟩

end QnxAtc
