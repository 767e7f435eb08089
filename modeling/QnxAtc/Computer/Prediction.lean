import QnxAtc.Aircraft.Flight
import QnxAtc.Computer.CheckAxes

/-! # The predictor against the motion it predicts

Two programs extrapolate the same flight: the aircraft adds its speed once in every
round of its loop, the Computer multiplies it by a number of seconds. For aircraft
that fly as filed, on integer speeds, the two agree for every horizon, the
equal-velocity shortcut included.
-/

namespace QnxAtc

/-! ## Motion in closed form -/

theorem Aircraft.planeInfo_move_iterate (a : Aircraft) (k : Nat) :
    (Aircraft.move^[k] a).planeInfo = a.planeInfo.future k := by
  rw [Aircraft.move_iterate]
  simp only [Aircraft.planeInfo, MsgPlaneInfo.future, mul_comm]

/-- Planes of one velocity keep their distance. -/
theorem conflict_future_iff {plane1 plane2 : MsgPlaneInfo}
    (hx : plane1.velocityX = plane2.velocityX) (hy : plane1.velocityY = plane2.velocityY)
    (hz : plane1.velocityZ = plane2.velocityZ) (t : ℚ) :
    Conflict (plane1.future t) (plane2.future t) ↔ Conflict plane1 plane2 := by
  simp only [Conflict, MsgPlaneInfo.future, hx, hy, hz, add_sub_add_right_eq_sub]

/-- Integers that differ by less than the tolerance are equal. -/
theorem sameSpeed_intCast {m n : Int} (h : sameSpeed m n) : m = n := by
  have close : |m - n| < 1 := by
    have hlt : |(m : ℚ) - n| < 1 := lt_trans h (by norm_num)
    exact_mod_cast hlt
  have gap := abs_lt.mp close
  omega

/-- For integer velocities the look-ahead is the search for a conflict at any second. -/
theorem checkAxes_true_iff_of_int (T : Int32) (hT : 0 ≤ T.toInt) {plane1 plane2 : MsgPlaneInfo}
    {vx1 vy1 vz1 vx2 vy2 vz2 : Int}
    (h1 : plane1.velocityX = vx1 ∧ plane1.velocityY = vy1 ∧ plane1.velocityZ = vz1)
    (h2 : plane2.velocityX = vx2 ∧ plane2.velocityY = vy2 ∧ plane2.velocityZ = vz2) :
    checkAxes T plane1 plane2 = .ok true ↔
      ∃ k : Nat, (k : Int) ≤ T.toInt ∧ Conflict (plane1.future k) (plane2.future k) := by
  rw [checkAxes_true_iff, PredictedConflict]
  by_cases same : SameVelocity plane1 plane2
  · rw [if_pos same]
    obtain ⟨sx, sy, sz⟩ := same
    have ex : plane1.velocityX = plane2.velocityX := by
      rw [h1.1, h2.1] at sx ⊢
      rw [sameSpeed_intCast sx]
    have ey : plane1.velocityY = plane2.velocityY := by
      rw [h1.2.1, h2.2.1] at sy ⊢
      rw [sameSpeed_intCast sy]
    have ez : plane1.velocityZ = plane2.velocityZ := by
      rw [h1.2.2, h2.2.2] at sz ⊢
      rw [sameSpeed_intCast sz]
    constructor
    · intro now
      exact ⟨0, by simpa using hT, (conflict_future_iff ex ey ez _).mpr now⟩
    · intro later
      obtain ⟨k, _, hit⟩ := later
      exact (conflict_future_iff ex ey ez _).mp hit
  · rw [if_neg same]

/-! ## Aircraft that fly as filed -/

/-- The aircraft of a file line has state `a` after a number of loop iterations, flown
without commands, and reports `r` there in answer to some message. -/
def ReportsAfter (data : PlaneData) (iterations : Nat) (a : Aircraft) (r : MsgPlaneInfo) : Prop :=
  ∃ inputs t buffer, CommandFree inputs ∧
    Machine.run AircraftThread.step (AircraftThread.start (.ofPlaneData data)) inputs = some t ∧
    inputs.countP Input.isMove = iterations ∧ t.phase = .receiving ∧ t.aircraft = a ∧
    (a.handle buffer).reply.record? = some r

/-- An aircraft that arrives at once and stays inside answers a poll in its first iteration. -/
theorem ReportsAfter.first (data : PlaneData) (now : data.arrivaTime.toInt ≤ 0)
    (inside : ¬ (Aircraft.ofPlaneData data).move.OutOfBounds) :
    ReportsAfter data 1 (Aircraft.ofPlaneData data).move
      (Aircraft.ofPlaneData data).move.planeInfo := by
  have due : ¬ ((0 : Nat) : Int) < (Aircraft.ofPlaneData data).arrivalTime.toInt := by
    simpa [Aircraft.ofPlaneData] using now
  refine ⟨[.opened true, .sent true, .attached true, .move],
    ⟨(Aircraft.ofPlaneData data).move, .receiving,
      [.sentEnter (createEnterAirspaceMessage (Aircraft.ofPlaneData data).id)]⟩,
    Message.asBuffer ⟨false, .requestPosition, data.id, none, 0⟩, ?_, ?_, rfl, rfl, rfl, ?_⟩
  · intro buffer hb
    simp at hb
  · simp only [Machine.run, AircraftThread.start, AircraftThread.step, if_neg due,
      AircraftThread.moved, if_neg inside, if_true, Option.bind_some, List.nil_append]
  · simp [Aircraft.handle, Aircraft.handleIntraProcess, Message.asBuffer, Reply.record?]

theorem ReportsAfter.state {data : PlaneData} {iterations : Nat} {a : Aircraft}
    {r : MsgPlaneInfo} (h : ReportsAfter data iterations a r) :
    a = Aircraft.move^[iterations] (.ofPlaneData data) ∧ r = a.planeInfo := by
  obtain ⟨inputs, t, buffer, free, run, count, _, rfl, record⟩ := h
  have flown := AircraftThread.run_aircraft free run
  rw [count] at flown
  exact ⟨flown, t.aircraft.handle_record record⟩

theorem ReportsAfter.velocity {data : PlaneData} {iterations : Nat} {a : Aircraft}
    {r : MsgPlaneInfo} (h : ReportsAfter data iterations a r) :
    r.velocityX = data.speedX.toInt ∧ r.velocityY = data.speedY.toInt ∧
      r.velocityZ = data.speedZ.toInt := by
  obtain ⟨ha, hr⟩ := h.state
  rw [hr, ha, Aircraft.move_iterate]
  exact ⟨rfl, rfl, rfl⟩

end QnxAtc
