import QnxAtc.Computer.Alert
import QnxAtc.Operator.System

/-! # The horizon the operator chooses

A console line installs any `int` as `timeConstraintCollisionFreq`, unchecked by the
functions it passes. A negative horizon empties the look-ahead loop, which then misses
even a present violation; the largest one leaves its counter nowhere to stop.
-/

namespace QnxAtc

open FixedArray OrderedPairs

/-- A time constraint line installs the number that was typed. -/
theorem processMessage_changeTimeConstraint (c : OperatorInput) {seconds : Int32}
    {msg : MessageInterProcess}
    (sent : (ConsoleCommand.changeTimeConstraint seconds).request = some (.computer, msg)) :
    (c.processMessage msg).timeConstraintCollisionFreq = seconds := by
  cases sent
  have large : sizeofInt ≤ (UInt64.ofNat sizeofInt).toNat := by decide
  have payload : loadInt (overwrite MessageInterProcess.zero.data (intBytes seconds)).toList =
      seconds := by
    rw [toList_overwrite _ (by simp [dataCapacity]), loadInt_intBytes_append]
  simp only [commandMessage, OperatorInput.processMessage, if_pos large, payload]

/-! ## Termination of the look-ahead -/

/-- Some second the loop comes to is a conflict. -/
def ConflictWithin (T : Int32) (plane1 plane2 : MsgPlaneInfo) : Prop :=
  ∃ k : Nat, (k : Int) ≤ T.toInt ∧ Conflict (plane1.future k) (plane2.future k)

theorem not_endless_iff {T : Int32} {plane1 plane2 : MsgPlaneInfo} :
    ¬ Endless T plane1 plane2 ↔ T.toInt + 1 ≠ intValues ∨ SameVelocity plane1 plane2 ∨
      ConflictWithin T plane1 plane2 := by
  unfold Endless PredictedConflict ConflictWithin
  by_cases same : SameVelocity plane1 plane2
  · simp [same]
  · simp only [same, if_false, not_false_eq_true, true_and, false_or, not_and, not_not]
    exact imp_iff_not_or

/-- With the horizon a time constraint line installs, the test of two planes ends without
overflow exactly when that horizon is not the largest `int`, or no look-ahead is made
because the velocities agree, or the loop comes to a conflict. -/
theorem checkAxes_ends_iff (c : OperatorInput) (seconds : Int32) (msg : MessageInterProcess)
    (sent : (ConsoleCommand.changeTimeConstraint seconds).request = some (.computer, msg))
    (plane1 plane2 : MsgPlaneInfo) :
    (∃ answer,
        checkAxes (c.processMessage msg).timeConstraintCollisionFreq plane1 plane2 = .ok answer) ↔
      seconds.toInt + 1 ≠ intValues ∨ SameVelocity plane1 plane2 ∨
        ConflictWithin seconds plane1 plane2 := by
  rw [processMessage_changeTimeConstraint c sent, ← not_endless_iff]
  constructor
  · rintro ⟨answer, h⟩
    exact (checkAxes_eq_ok.mp h).1
  · intro ends
    exact ⟨decide (PredictedConflict seconds plane1 plane2),
      checkAxes_eq_ok.mpr ⟨ends, decide_eq_true_iff⟩⟩

/-- Two planes that fly apart on one line are never in conflict. -/
theorem not_conflict_apart (k : Nat) :
    ¬ Conflict (MsgPlaneInfo.future ⟨1, 10000, 50000, 20000, -100, 0, 0⟩ k)
      (MsgPlaneInfo.future ⟨2, 90000, 50000, 20000, 100, 0, 0⟩ k) := by
  intro close
  have gap := (abs_le.mp close.1).1
  have later : (0 : ℚ) ≤ k := by positivity
  simp only [MsgPlaneInfo.future, constraintX] at gap
  linarith

/-- With the horizon 2147483647 the counter overflows. -/
theorem checkAxes_never_ends :
    ¬ ∀ (c : OperatorInput) (seconds : Int32) (msg : MessageInterProcess),
        (ConsoleCommand.changeTimeConstraint seconds).request = some (.computer, msg) →
        ∀ plane1 plane2 : MsgPlaneInfo, ∃ answer,
          checkAxes (c.processMessage msg).timeConstraintCollisionFreq plane1 plane2 =
            .ok answer := by
  intro claim
  obtain ⟨answer, ends⟩ := claim ⟨true, 180⟩ 2147483647 _ rfl
    ⟨1, 10000, 50000, 20000, -100, 0, 0⟩ ⟨2, 90000, 50000, 20000, 100, 0, 0⟩
  rw [processMessage_changeTimeConstraint _ rfl] at ends
  rcases not_endless_iff.mp (checkAxes_eq_ok.mp ends).1 with below | same | ⟨k, _, close⟩
  · exact below (by decide)
  · revert same
    decide +kernel
  · exact not_conflict_apart k close

theorem checkAxes_ends_iff_headOn :
    ∃ answer, checkAxes ((OperatorInput.mk true 180).processMessage
        (commandMessage .changeTimeConstraintCollisions (-1) (intBytes 2147483647) sizeofInt)
          ).timeConstraintCollisionFreq
        ⟨1, 30000, 50000, 20000, 100, 0, 0⟩ ⟨2, 32000, 50000, 20000, -100, 0, 0⟩ = .ok answer :=
  (checkAxes_ends_iff ⟨true, 180⟩ 2147483647 _ rfl _ _).mpr
    (.inr (.inr ⟨0, by decide, by decide +kernel⟩))

/-! ## Present violations -/

/-- The pair list holds the IDs of these two records. -/
def InPairList (T : Int32) (planes : List MsgPlaneInfo) (p : MsgPlaneInfo × MsgPlaneInfo) : Prop :=
  ∃ pairs, collisionPairs T planes = .ok pairs ∧ (p.1.id, p.2.id) ∈ pairs

theorem inPairList_iff {T : Int32} {planes : List MsgPlaneInfo} {p : MsgPlaneInfo × MsgPlaneInfo} :
    InPairList T planes p ↔ (∀ q ∈ orderedPairs planes, ¬ Endless T q.1 q.2) ∧
      ∃ q ∈ orderedPairs planes, PredictedConflict T q.1 q.2 ∧
        (q.1.id, q.2.id) = (p.1.id, p.2.id) := by
  unfold InPairList
  constructor
  · rintro ⟨pairs, found, listed⟩
    obtain ⟨finite, rfl⟩ := collisionPairs_eq_ok.mp found
    obtain ⟨q, hq, ids⟩ := List.mem_map.mp listed
    obtain ⟨visited, meets⟩ := List.mem_filter.mp hq
    exact ⟨finite, q, visited, of_decide_eq_true meets, ids⟩
  · rintro ⟨finite, q, visited, meets, ids⟩
    refine ⟨_, collisionPairs_eq_ok.mpr ⟨finite, rfl⟩, ?_⟩
    rw [predictedPairs, ← ids]
    exact List.mem_map_of_mem (List.mem_filter.mpr ⟨visited, decide_eq_true meets⟩)

/-- A horizon that has begun covers the present. -/
theorem predictedConflict_of_now {T : Int32} {plane1 plane2 : MsgPlaneInfo} (hT : 0 ≤ T.toInt)
    (now : Conflict plane1 plane2) : PredictedConflict T plane1 plane2 := by
  unfold PredictedConflict
  split
  · exact now
  · exact ⟨0, by simpa using hT, by simpa using now⟩

/-- A negative horizon leaves the loop no second to try. -/
theorem predictedConflict_of_negative {T : Int32} {plane1 plane2 : MsgPlaneInfo}
    (hT : T.toInt < 0) :
    PredictedConflict T plane1 plane2 ↔ SameVelocity plane1 plane2 ∧ Conflict plane1 plane2 := by
  unfold PredictedConflict
  by_cases same : SameVelocity plane1 plane2
  · simp [same]
  · simp only [same, if_false, false_and, iff_false, not_exists, not_and]
    intro k hk
    omega

/-- A pair of a snapshot that is in conflict now is reported exactly when every look-ahead
over the snapshot ends and the installed horizon is not negative or, for a negative
one, the two IDs are those of records in conflict now that agree in velocity. -/
theorem present_violation_reported_iff (c : OperatorInput) (seconds : Int32)
    (msg : MessageInterProcess)
    (sent : (ConsoleCommand.changeTimeConstraint seconds).request = some (.computer, msg))
    (planes : List MsgPlaneInfo) (p : MsgPlaneInfo × MsgPlaneInfo)
    (visited : p ∈ orderedPairs planes) (now : Conflict p.1 p.2) :
    InPairList (c.processMessage msg).timeConstraintCollisionFreq planes p ↔
      (∀ q ∈ orderedPairs planes, ¬ Endless seconds q.1 q.2) ∧
        (0 ≤ seconds.toInt ∨ ∃ q ∈ orderedPairs planes,
          (SameVelocity q.1 q.2 ∧ Conflict q.1 q.2) ∧ (q.1.id, q.2.id) = (p.1.id, p.2.id)) := by
  rw [processMessage_changeTimeConstraint c sent, inPairList_iff]
  refine and_congr_right fun _ => ?_
  by_cases hT : 0 ≤ seconds.toInt
  · exact iff_of_true ⟨p, visited, predictedConflict_of_now hT now, rfl⟩ (.inl hT)
  · simp only [predictedConflict_of_negative (lt_of_not_ge hT), hT, false_or]

/-- With the horizon -1 two planes in one place with different velocities are missed. -/
theorem present_violation_missed :
    ¬ ∀ (c : OperatorInput) (seconds : Int32) (msg : MessageInterProcess),
        (ConsoleCommand.changeTimeConstraint seconds).request = some (.computer, msg) →
        ∀ (planes : List MsgPlaneInfo), ∀ p ∈ orderedPairs planes, Conflict p.1 p.2 →
          InPairList (c.processMessage msg).timeConstraintCollisionFreq planes p := by
  intro claim
  have reported := claim ⟨true, 180⟩ (-1) _ rfl
    [⟨1, 50000, 50000, 20000, 100, 0, 0⟩, ⟨2, 50000, 50000, 20000, 200, 0, 0⟩] _
    List.mem_cons_self (by decide +kernel)
  rw [processMessage_changeTimeConstraint _ rfl, inPairList_iff] at reported
  obtain ⟨_, q, hq, meets, _⟩ := reported
  cases List.mem_singleton.mp hq
  revert meets
  decide +kernel

theorem present_violation_reported_iff_crossing :
    InPairList ((OperatorInput.mk true 180).processMessage
        (commandMessage .changeTimeConstraintCollisions (-1) (intBytes 60) sizeofInt)
          ).timeConstraintCollisionFreq
      [⟨1, 50000, 50000, 20000, 100, 0, 0⟩, ⟨2, 50000, 50000, 20000, 200, 0, 0⟩]
      (⟨1, 50000, 50000, 20000, 100, 0, 0⟩, ⟨2, 50000, 50000, 20000, 200, 0, 0⟩) := by
  have finite : ∀ q ∈ orderedPairs [⟨1, 50000, 50000, 20000, 100, 0, 0⟩,
      ⟨2, 50000, 50000, 20000, 200, 0, 0⟩], ¬ Endless 60 q.1 q.2 := by
    intro q _ endless
    exact absurd endless.1 (by decide)
  exact (present_violation_reported_iff ⟨true, 180⟩ 60 _ rfl _ _ List.mem_cons_self
    (by decide +kernel)).mpr ⟨finite, .inl (by decide)⟩

end QnxAtc
