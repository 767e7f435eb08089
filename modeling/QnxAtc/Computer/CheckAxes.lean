import QnxAtc.Messages.Structs
import Mathlib.Algebra.Order.Group.Unbundled.Abs
import Mathlib.Tactic.Linarith

/-! # Conflict prediction for one pair

`checkAxes` of `ComputerSystem.cpp`. The look-ahead loop tries the whole seconds
0, 1, 2, .. up to the operator's horizon; its counter is an `int`, so the values
it has left bound the recursion and running out of them is signed overflow.
-/

namespace QnxAtc

def constraintX : ℚ := 3000
def constraintY : ℚ := 3000
def constraintZ : ℚ := 1000

/-- Two planes have the same speed on an axis when the difference is negligible. -/
def sameSpeed (speed1 speed2 : ℚ) : Prop :=
  let negligibleDifference : ℚ := 1 / 1000000
  |speed1 - speed2| < negligibleDifference

def SameVelocity (plane1 plane2 : MsgPlaneInfo) : Prop :=
  sameSpeed plane1.velocityX plane2.velocityX ∧ sameSpeed plane1.velocityY plane2.velocityY ∧
    sameSpeed plane1.velocityZ plane2.velocityZ

/-- The separation box is violated on all three axes together. -/
def Conflict (plane1 plane2 : MsgPlaneInfo) : Prop :=
  |plane1.positionX - plane2.positionX| ≤ constraintX ∧
    |plane1.positionY - plane2.positionY| ≤ constraintY ∧
      |plane1.positionZ - plane2.positionZ| ≤ constraintZ

/-- The record a plane would have after `t` seconds of straight flight. -/
def MsgPlaneInfo.future (plane : MsgPlaneInfo) (t : ℚ) : MsgPlaneInfo :=
  { plane with
    positionX := plane.positionX + plane.velocityX * t
    positionY := plane.positionY + plane.velocityY * t
    positionZ := plane.positionZ + plane.velocityZ * t }

instance (speed1 speed2 : ℚ) : Decidable (sameSpeed speed1 speed2) :=
  inferInstanceAs (Decidable (|speed1 - speed2| < 1 / 1000000))

instance (plane1 plane2 : MsgPlaneInfo) : Decidable (SameVelocity plane1 plane2) :=
  inferInstanceAs (Decidable (_ ∧ _ ∧ _))

instance (plane1 plane2 : MsgPlaneInfo) : Decidable (Conflict plane1 plane2) :=
  inferInstanceAs (Decidable (_ ∧ _ ∧ _))

/-- The number of non-negative values of an `int`. -/
def intValues : Nat := 2 ^ 31

/-- The loop from counter value `t` on, with `left` values of the counter to go. -/
def lookAhead (timeConstraintCollisionFreq : Int32) (plane1 plane2 : MsgPlaneInfo) :
    Nat → Nat → Except Fault Bool
  | 0, _ => .error .counterOverflow
  | left + 1, t =>
      if (t : Int) ≤ timeConstraintCollisionFreq.toInt then
        if Conflict (plane1.future t) (plane2.future t) then .ok true
        else lookAhead timeConstraintCollisionFreq plane1 plane2 left (t + 1)
      else .ok false

def checkAxes (timeConstraintCollisionFreq : Int32) (plane1 plane2 : MsgPlaneInfo) :
    Except Fault Bool :=
  if SameVelocity plane1 plane2 then .ok (decide (Conflict plane1 plane2))
  else lookAhead timeConstraintCollisionFreq plane1 plane2 intValues 0

/-! ## The loop -/

theorem Int32.toInt_lt_intValues (n : Int32) : n.toInt < intValues := n.toInt_lt

/-- The loop answers `true` exactly when a second it still has to try is a conflict. -/
theorem lookAhead_true_iff (T : Int32) (plane1 plane2 : MsgPlaneInfo) (left t : Nat)
    (hcount : left + t = intValues) :
    lookAhead T plane1 plane2 left t = .ok true ↔
      ∃ k : Nat, t ≤ k ∧ (k : Int) ≤ T.toInt ∧ Conflict (plane1.future k) (plane2.future k) := by
  have hT := Int32.toInt_lt_intValues T
  induction left generalizing t with
  | zero =>
      simp only [lookAhead, reduceCtorEq, false_iff, not_exists, not_and]
      intro k hk hle
      omega
  | succ left ih =>
      unfold lookAhead
      split
      · split
        · rename_i hle hit
          exact iff_of_true rfl ⟨t, le_rfl, hle, hit⟩
        · rename_i miss
          refine (ih (t + 1) (by omega)).trans ?_
          constructor
          · rintro ⟨k, hk, rest⟩
            exact ⟨k, by omega, rest⟩
          · rintro ⟨k, hk, hle, hit⟩
            have hne : k ≠ t := by
              rintro rfl
              exact miss hit
            exact ⟨k, by omega, hle, hit⟩
      · rename_i beyond
        simp only [Except.ok.injEq, Bool.false_eq_true, false_iff, not_exists, not_and]
        intro k hk hle
        omega

/-- The loop overflows exactly when its horizon is the largest `int` and no second
it still has to try is a conflict. -/
theorem lookAhead_error_iff (T : Int32) (plane1 plane2 : MsgPlaneInfo) (left t : Nat)
    (hcount : left + t = intValues) (ht : t = 0 ∨ (t : Int) ≤ T.toInt + 1) :
    (∃ fault, lookAhead T plane1 plane2 left t = .error fault) ↔
      T.toInt + 1 = intValues ∧
        ∀ k : Nat, t ≤ k → (k : Int) ≤ T.toInt →
          ¬ Conflict (plane1.future k) (plane2.future k) := by
  have hT := Int32.toInt_lt_intValues T
  induction left generalizing t with
  | zero =>
      have hpos : (0 : Nat) < intValues := by decide
      refine iff_of_true ⟨_, rfl⟩ ⟨by omega, ?_⟩
      intro k hk hle
      omega
  | succ left ih =>
      unfold lookAhead
      split
      · rename_i hle
        split
        · rename_i hit
          refine iff_of_false (by simp) ?_
          intro h
          exact h.2 t le_rfl hle hit
        · rename_i miss
          refine (ih (t + 1) (by omega) (by omega)).trans (and_congr_right fun _ => ?_)
          constructor
          · intro h k hk hkT
            by_cases heq : k = t
            · rw [heq]
              exact miss
            · exact h k (by omega) hkT
          · intro h k hk hkT
            exact h k (by omega) hkT
      · rename_i beyond
        refine iff_of_false (by simp) ?_
        intro h
        have hmax := h.1
        omega

/-! ## The whole test -/

@[simp] theorem MsgPlaneInfo.future_zero (plane : MsgPlaneInfo) : plane.future 0 = plane := by
  simp [MsgPlaneInfo.future]

/-- A sampled second within the horizon is a conflict; for planes of one velocity the
only sample is the present. -/
def PredictedConflict (T : Int32) (plane1 plane2 : MsgPlaneInfo) : Prop :=
  if SameVelocity plane1 plane2 then Conflict plane1 plane2
  else ∃ k : Nat, (k : Int) ≤ T.toInt ∧ Conflict (plane1.future k) (plane2.future k)

/-- The look-ahead for these planes never ends. -/
def Endless (T : Int32) (plane1 plane2 : MsgPlaneInfo) : Prop :=
  T.toInt + 1 = intValues ∧ ¬ SameVelocity plane1 plane2 ∧ ¬ PredictedConflict T plane1 plane2

theorem checkAxes_true_iff (T : Int32) (plane1 plane2 : MsgPlaneInfo) :
    checkAxes T plane1 plane2 = .ok true ↔ PredictedConflict T plane1 plane2 := by
  unfold checkAxes PredictedConflict
  split
  · simp
  · rw [lookAhead_true_iff T plane1 plane2 intValues 0 rfl]
    simp

theorem checkAxes_error_iff (T : Int32) (plane1 plane2 : MsgPlaneInfo) :
    (∃ fault, checkAxes T plane1 plane2 = .error fault) ↔ Endless T plane1 plane2 := by
  unfold checkAxes Endless PredictedConflict
  by_cases same : SameVelocity plane1 plane2
  · simp [same]
  · have loop := lookAhead_error_iff T plane1 plane2 intValues 0 rfl (.inl rfl)
    rw [if_neg same, if_neg same]
    refine loop.trans (and_congr_right fun _ => ?_)
    simp [same]

/-- What the test answers, and when it answers. -/
theorem checkAxes_eq_ok {T : Int32} {plane1 plane2 : MsgPlaneInfo} {hit : Bool} :
    checkAxes T plane1 plane2 = .ok hit ↔
      ¬ Endless T plane1 plane2 ∧ (hit = true ↔ PredictedConflict T plane1 plane2) := by
  have ends := checkAxes_error_iff T plane1 plane2
  have hits := checkAxes_true_iff T plane1 plane2
  cases answer : checkAxes T plane1 plane2 with
  | error fault => simp [ends.mp ⟨fault, answer⟩]
  | ok answered =>
      rw [answer] at ends hits
      have finite : ¬ Endless T plane1 plane2 := by
        intro endless
        obtain ⟨fault, h⟩ := ends.mpr endless
        cases h
      rw [← hits]
      cases hit <;> cases answered <;> simp [finite]

theorem checkAxes_total (T : Int32) (plane1 plane2 : MsgPlaneInfo)
    (hT : T.toInt + 1 < intValues) : ∃ answer, checkAxes T plane1 plane2 = .ok answer := by
  cases h : checkAxes T plane1 plane2 with
  | ok answer => exact ⟨answer, rfl⟩
  | error fault =>
      have endless := (checkAxes_error_iff T plane1 plane2).mp ⟨fault, h⟩
      have hmax := endless.1
      omega

instance (T : Int32) (plane1 plane2 : MsgPlaneInfo) :
    Decidable (PredictedConflict T plane1 plane2) :=
  decidable_of_iff (checkAxes T plane1 plane2 = .ok true) (checkAxes_true_iff T plane1 plane2)

end QnxAtc
