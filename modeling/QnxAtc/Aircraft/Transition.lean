import QnxAtc.Aircraft.Flight
import QnxAtc.Library.Progression

/-! # Position commands

A position command sets the speed that covers the way to the target in three updates.
Since the airspace is convex, nothing but a further command can make the aircraft leave
on that way. The speed it had before is not kept anywhere, so after the third update it
flies on with the speed of the transition.
-/

namespace QnxAtc

open FixedArray

/-- A position command that carries its whole payload. -/
def MessageInterProcess.IsPositionCommand (m : MessageInterProcess) : Prop :=
  m.header = true ∧ m.type = .requestChangePosition ∧
    sizeofMsgChangePosition ≤ m.dataSize.toNat

/-- The payload of a position command, as the aircraft decodes it. -/
def MessageInterProcess.positionCmd (m : MessageInterProcess) : MsgChangePosition :=
  .ofBytes m.data.toList

namespace Aircraft

/-- The aircraft at a given position, on the course it has. -/
def movedTo (a : Aircraft) (target : MsgChangePosition) : Aircraft :=
  { a with posX := target.x, posY := target.y, posZ := target.z }

/-- The aircraft on its way to a given position. -/
def towards (a : Aircraft) (target : MsgChangePosition) : Aircraft :=
  { a with
    speedX := transitionSpeed target.x a.posX
    speedY := transitionSpeed target.y a.posY
    speedZ := transitionSpeed target.z a.posZ }

theorem handle_positionCommand (a : Aircraft) {buffer : MessageInterProcess}
    (command : buffer.IsPositionCommand) :
    a.handle buffer = ⟨a.towards buffer.positionCmd, .empty, false⟩ := by
  obtain ⟨header, type, size⟩ := command
  simp [handle, handleInterProcess, header, type, size, towards,
    MessageInterProcess.positionCmd]

theorem transitionSpeed_eq (target current : ℚ) :
    transitionSpeed target current = (target - current) / (3 : ℕ) := by
  norm_num [transitionSpeed]

/-! ## Three updates -/

theorem position_towards_three (a : Aircraft) (target : MsgChangePosition) :
    (move^[3] (a.towards target)).position = (target.x, target.y, target.z) := by
  have arrives : ∀ p q : ℚ, p + (3 : ℕ) * transitionSpeed q p = q := by
    intro p q
    rw [transitionSpeed_eq]
    exact Progression.toward_arrives p q (by omega)
  rw [move_iterate]
  simp only [position, towards, arrives]

/-- Between two points of the airspace the transition stays inside it. -/
theorem towards_inside {a : Aircraft} {target : MsgChangePosition} (here : ¬ a.OutOfBounds)
    (there : ¬ (a.movedTo target).OutOfBounds) {n : Nat} (le : n ≤ 3) :
    ¬ (move^[n] (a.towards target)).OutOfBounds := by
  rw [not_outOfBounds_iff] at here there ⊢
  rw [move_iterate]
  simp only [towards, transitionSpeed_eq]
  exact ⟨Progression.toward_mem_Icc here.1 there.1 le,
    Progression.toward_mem_Icc here.2.1 there.2.1 le,
    Progression.toward_mem_Icc here.2.2 there.2.2 le⟩

/-- What the code does after the transition: it flies on from the target at the
transition's speed. -/
theorem position_after_transition (a : Aircraft) (target : MsgChangePosition) (n : Nat) :
    (move^[3 + n] (a.towards target)).position =
      (move^[n] ((a.towards target).movedTo target)).position := by
  rw [Nat.add_comm, Function.iterate_add_apply]
  have there := a.position_towards_three target
  have course : (move^[3] (a.towards target)).velocity = (a.towards target).velocity :=
    velocity_move_iterate _ _
  simp only [position, velocity, Prod.mk.injEq] at there course
  rw [move_iterate _ n, move_iterate _ n]
  simp only [position, movedTo, there, course]

/-! ## The course afterwards -/

/-- The point one third of the way beyond the target. -/
def beyond (a : Aircraft) (target : MsgChangePosition) : Aircraft :=
  { a with
    posX := target.x + (target.x - a.posX) / 3
    posY := target.y + (target.y - a.posY) / 3
    posZ := target.z + (target.z - a.posZ) / 3 }

theorem position_towards_four (a : Aircraft) (target : MsgChangePosition) :
    (move^[4] (a.towards target)).position = (a.beyond target).position := by
  rw [a.position_after_transition target 1]
  simp only [Function.iterate_one, position, move, movedTo, towards, beyond, transitionSpeed_eq]
  norm_num

/-- The transition is flown at the old velocity exactly when the target is where the
aircraft would be after three updates anyway. -/
theorem velocity_towards_iff (a : Aircraft) (target : MsgChangePosition) :
    (a.towards target).velocity = a.velocity ↔
      (target.x, target.y, target.z) = (move^[3] a).position := by
  have third : ∀ p q v : ℚ, transitionSpeed q p = v ↔ q = p + (3 : ℕ) * v := by
    intro p q v
    rw [transitionSpeed_eq, div_eq_iff (by norm_num)]
    constructor <;> intro h <;> linarith
  rw [move_iterate]
  simp only [velocity, position, towards, Prod.mk.injEq, third]

/-- One update from the target, the positions of the two courses agree only if the
courses do. -/
theorem position_move_movedTo_iff (a : Aircraft) (target : MsgChangePosition) :
    ((a.towards target).movedTo target).move.position = (a.movedTo target).move.position ↔
      (a.towards target).velocity = a.velocity := by
  simp only [position, velocity, move, movedTo, Prod.mk.injEq, add_right_inj]

theorem position_move_iterate_congr {a b : Aircraft} (position : a.position = b.position)
    (velocity : a.velocity = b.velocity) (n : Nat) :
    (move^[n] a).position = (move^[n] b).position := by
  simp only [Aircraft.position, Aircraft.velocity, Prod.mk.injEq] at position velocity
  rw [move_iterate, move_iterate]
  simp only [Aircraft.position, position, velocity]

end Aircraft

namespace AircraftThread

/-- The thread that answers a position command is on the way to its target. -/
theorem answered_positionCommand (t : AircraftThread) {buffer : MessageInterProcess}
    (command : buffer.IsPositionCommand) :
    t.answered buffer = ⟨t.aircraft.towards buffer.positionCmd, .waiting,
      t.log ++ [.received buffer, .replied .empty]⟩ := by
  simp [answered, t.aircraft.handle_positionCommand command]

/-- A full position command with a target in the airspace, received by an aircraft in
the course of a run. -/
structure Commanded (a : Aircraft) (t : AircraftThread) (buffer : MessageInterProcess) :
    Prop where
  reached : Machine.Reaches step (start a) t
  receiving : t.phase = .receiving
  command : buffer.IsPositionCommand
  target : ¬ (t.aircraft.movedTo buffer.positionCmd).OutOfBounds

namespace Commanded

variable {a : Aircraft} {t : AircraftThread} {buffer : MessageInterProcess}

theorem logInvariant (h : Commanded a t buffer) : LogInvariant a t := by
  obtain ⟨inputs, run⟩ := h.reached
  exact logInvariant_run run

/-- What is sent and where the aircraft is, any number of updates after the command. -/
theorem flight (h : Commanded a t buffer) {later : List Input} {t' : AircraftThread}
    (readOnly : ReadOnlyInputs later)
    (run : Machine.run step (t.answered buffer) later = some t') :
    Flight (t.aircraft.towards buffer.positionCmd) (t.answered buffer).log
      (later.countP Input.isMove) t' := by
  rw [t.answered_positionCommand h.command] at run ⊢
  have flown := (Flight.start (.inr rfl)).run readOnly run
  rwa [Nat.zero_add] at flown

theorem no_exit (h : Commanded a t buffer) :
    (t.answered buffer).log.countP Event.isExit = 0 := by
  have entered : Entered t.log := by
    simpa [LogShape, h.receiving] using h.logInvariant.shape
  rw [t.answered_positionCommand h.command, List.countP_eq_zero]
  intro e mem
  simp only [List.mem_append, List.mem_cons, List.not_mem_nil, or_false] at mem
  rcases mem with mem | rfl | rfl
  · simp [entered.no_exit e mem]
  · simp [Event.isExit]
  · simp [Event.isExit]

theorem inside (h : Commanded a t buffer) {n : Nat} (le : n ≤ 3) :
    ¬ (Aircraft.move^[n] (t.aircraft.towards buffer.positionCmd)).OutOfBounds :=
  Aircraft.towards_inside (h.logInvariant.checked h.receiving) h.target le

/-- Any number of rounds can follow as long as they stay inside the airspace. -/
theorem rounds_run (h : Commanded a t buffer) {rcvs : Nat → Received MessageInterProcess}
    (readOnly : ∀ i, (rcvs i).ReadOnly) (n : Nat)
    (stays : ∀ i, 1 ≤ i → i ≤ n →
      ¬ (Aircraft.move^[i] (t.aircraft.towards buffer.positionCmd)).OutOfBounds) :
    ∃ t', Machine.run step (t.answered buffer) (.pulse :: rounds rcvs n) = some t' ∧
      t'.aircraft = Aircraft.move^[n] (t.aircraft.towards buffer.positionCmd) ∧
      t'.phase = .moving := by
  rw [t.answered_positionCommand h.command]
  obtain ⟨log, run⟩ := run_rounds (t.aircraft.towards buffer.positionCmd)
    (t.log ++ [.received buffer, .replied .empty]) readOnly n stays
  exact ⟨_, run, rfl, rfl⟩

end Commanded

/-- After a position command with a target in the airspace the next three updates send no
EXIT_AIRSPACE whatever read-only messages arrive, and the third one is at the target. -/
theorem position_command_arrives (a : Aircraft) (t : AircraftThread)
    (buffer : MessageInterProcess) (h : Commanded a t buffer) :
    (∀ later t', ReadOnlyInputs later →
      Machine.run step (t.answered buffer) later = some t' →
      later.countP Input.isMove ≤ 3 →
        (∀ e ∈ t'.log, e.isExit = false) ∧
        (later.countP Input.isMove = 3 → t'.aircraft.position =
          (buffer.positionCmd.x, buffer.positionCmd.y, buffer.positionCmd.z))) ∧
    ∀ rcvs : Nat → Received MessageInterProcess, (∀ i, (rcvs i).ReadOnly) →
      ∃ t', Machine.run step (t.answered buffer) (.pulse :: rounds rcvs 3) = some t' := by
  refine ⟨?_, ?_⟩
  · intro later t' readOnly run le
    have flown := h.flight readOnly run
    have sent : t'.log.countP Event.isExit = 0 := by
      rcases flown.now with ⟨-, -, exits⟩ | ⟨-, -, out, -⟩
      · rw [exits, h.no_exit]
      · exact absurd out (h.inside le)
    refine ⟨?_, ?_⟩
    · intro e mem
      exact Bool.eq_false_iff.mpr (List.countP_eq_zero.mp sent e mem)
    · intro three
      rw [flown.aircraft, three, Aircraft.position_towards_three]
  · intro rcvs readOnly
    obtain ⟨t', run, -, -⟩ := h.rounds_run readOnly 3 fun i _ le => h.inside le
    exact ⟨t', run⟩

/-! ## The course after the transition -/

/-- What follows the command: once the three updates of the transition are over and while
the aircraft is in its loop, it is `n` updates from the target on the course it had. -/
def PositionsOnCourse (t : AircraftThread) (buffer : MessageInterProcess) : Prop :=
  ∀ later t' n, ReadOnlyInputs later → Machine.run step (t.answered buffer) later = some t' →
    later.countP Input.isMove = 3 + n → t'.phase.inLoop = true →
      t'.aircraft.position =
        (Aircraft.move^[n] (t.aircraft.movedTo buffer.positionCmd)).position

/-- The same, and the velocity is the one it had. -/
def KeepsCourse (t : AircraftThread) (buffer : MessageInterProcess) : Prop :=
  PositionsOnCourse t buffer ∧
    ∀ later t' n, ReadOnlyInputs later → Machine.run step (t.answered buffer) later = some t' →
      later.countP Input.isMove = 3 + n → t'.phase.inLoop = true →
        t'.aircraft.velocity = t.aircraft.velocity

namespace Commanded

variable {a : Aircraft} {t : AircraftThread} {buffer : MessageInterProcess}

/-- A run of `n` rounds that receives nothing but pulses. -/
theorem pulses_run (h : Commanded a t buffer) (n : Nat)
    (stays : ∀ i, 1 ≤ i → i ≤ n →
      ¬ (Aircraft.move^[i] (t.aircraft.towards buffer.positionCmd)).OutOfBounds) :
    ∃ later t', ReadOnlyInputs later ∧
      Machine.run step (t.answered buffer) later = some t' ∧ later.countP Input.isMove = n ∧
      t'.phase.inLoop = true ∧
      t'.aircraft = Aircraft.move^[n] (t.aircraft.towards buffer.positionCmd) := by
  have readOnly : ∀ _ : Nat, (Received.pulse : Received MessageInterProcess).ReadOnly :=
    fun _ => trivial
  obtain ⟨t', run, flown, at_⟩ := h.rounds_run readOnly n stays
  have count : (Input.pulse :: rounds (fun _ => .pulse) n).countP Input.isMove = n := by
    rw [List.countP_cons, rounds_isMove]
    rfl
  exact ⟨.pulse :: rounds (fun _ => .pulse) n, t', (rounds_readOnly readOnly n).cons_pulse, run,
    count, by rw [at_]; rfl, flown⟩

/-- On the old velocity the transition leads to the target and beyond it on course. -/
theorem keepsCourse_of_velocity (h : Commanded a t buffer)
    (same : (t.aircraft.towards buffer.positionCmd).velocity = t.aircraft.velocity) :
    KeepsCourse t buffer := by
  refine ⟨?_, ?_⟩
  · intro later t' n readOnly run count at_
    have flown := h.flight readOnly run
    have start : ((t.aircraft.towards buffer.positionCmd).movedTo buffer.positionCmd).position =
        (t.aircraft.movedTo buffer.positionCmd).position := rfl
    rw [flown.aircraft, count, Aircraft.position_after_transition]
    exact Aircraft.position_move_iterate_congr start same n
  · intro later t' n readOnly run count at_
    have flown := h.flight readOnly run
    rw [flown.aircraft, Aircraft.velocity_move_iterate]
    exact same

theorem positionsOnCourse_iff (h : Commanded a t buffer) :
    PositionsOnCourse t buffer ↔
      (t.aircraft.towards buffer.positionCmd).velocity = t.aircraft.velocity ∨
        (t.aircraft.beyond buffer.positionCmd).OutOfBounds := by
  have beyond := Aircraft.outOfBounds_congr
    (t.aircraft.position_towards_four buffer.positionCmd)
  constructor
  · intro onCourse
    by_cases out : (t.aircraft.beyond buffer.positionCmd).OutOfBounds
    · exact .inr out
    · -- then a fourth update is flown, and its position gives the speed away
      left
      obtain ⟨later, t', readOnly, run, count, at_, flown⟩ := h.pulses_run 4 fun i _ le => by
        rcases Nat.lt_or_eq_of_le le with lt | rfl
        · exact h.inside (by omega)
        · exact fun four => out (beyond.mp four)
      have fourth := onCourse later t' 1 readOnly run count at_
      rw [flown, Aircraft.position_after_transition _ _ 1] at fourth
      exact (Aircraft.position_move_movedTo_iff _ _).mp fourth
  · rintro (same | out)
    · exact (h.keepsCourse_of_velocity same).1
    · intro later t' n readOnly run count at_
      have flown := h.flight readOnly run
      cases n with
      | zero => rw [flown.aircraft, count, Aircraft.position_towards_three]; rfl
      | succ n => exact absurd (beyond.mpr out) (flown.checked at_ (by omega) (by omega))

end Commanded

/-- An aircraft keeps its course through a position command exactly when the target is the
point it would reach in three updates anyway. Its positions alone are those of the old
course in one more case: when the transition carries it out of the airspace right after
the target. -/
theorem position_command_keeps_course_iff (a : Aircraft) (t : AircraftThread)
    (buffer : MessageInterProcess) (h : Commanded a t buffer) :
    (KeepsCourse t buffer ↔
      (buffer.positionCmd.x, buffer.positionCmd.y, buffer.positionCmd.z) =
        (Aircraft.move^[3] t.aircraft).position) ∧
    (PositionsOnCourse t buffer ↔
      (buffer.positionCmd.x, buffer.positionCmd.y, buffer.positionCmd.z) =
          (Aircraft.move^[3] t.aircraft).position ∨
        (t.aircraft.beyond buffer.positionCmd).OutOfBounds) := by
  rw [← Aircraft.velocity_towards_iff]
  refine ⟨⟨?_, h.keepsCourse_of_velocity⟩, h.positionsOnCourse_iff⟩
  intro keeps
  obtain ⟨later, t', readOnly, run, count, at_, flown⟩ :=
    h.pulses_run 3 fun i _ le => h.inside le
  have velocity := keeps.2 later t' 0 readOnly run count at_
  rwa [flown, Aircraft.velocity_move_iterate] at velocity

/-! A command to an aircraft that flies along the x axis. -/

def positionCommand (planeID : Int32) (target : MsgChangePosition) : MessageInterProcess where
  header := true
  type := .requestChangePosition
  planeID := planeID
  data := overwrite MessageInterProcess.zero.data target.bytes
  dataSize := UInt64.ofNat sizeofMsgChangePosition

theorem positionCommand_isPositionCommand (planeID : Int32) (target : MsgChangePosition) :
    (positionCommand planeID target).IsPositionCommand :=
  ⟨rfl, rfl, Nat.le_refl sizeofMsgChangePosition⟩

@[simp] theorem positionCmd_positionCommand (planeID : Int32) (target : MsgChangePosition) :
    (positionCommand planeID target).positionCmd = target :=
  MsgChangePosition.ofBytes_overwrite _ target

/-- Entered at x = 50000 with speed 100, received while at x = 50100. -/
def alongX : AircraftThread :=
  ⟨⟨7, 50100, 50000, 20000, 100, 0, 0, 0⟩, .receiving,
    [.sentEnter (createEnterAirspaceMessage 7)]⟩

theorem alongX_commanded (target : MsgChangePosition)
    (inside : ¬ (alongX.aircraft.movedTo target).OutOfBounds) :
    Commanded ⟨7, 50000, 50000, 20000, 100, 0, 0, 0⟩ alongX (positionCommand 7 target) := by
  refine ⟨⟨[.opened true, .sent true, .attached true, .move], ?_⟩, rfl,
    positionCommand_isPositionCommand 7 target, by simpa using inside⟩
  have due : ¬ ((0 : Nat) : Int) < (0 : Int32).toInt := by decide
  have stays : ¬ (Aircraft.move ⟨7, 50000, 50000, 20000, 100, 0, 0, 0⟩).OutOfBounds := by
    decide +kernel
  have flown : Aircraft.move ⟨7, 50000, 50000, 20000, 100, 0, 0, 0⟩ = alongX.aircraft := by
    decide +kernel
  rw [flown] at stays
  simp only [Machine.run, start, step, if_neg due, moved, flown, if_neg stays, if_true,
    Option.bind_some, List.nil_append]
  rfl

theorem position_command_arrives_alongX :
    ∃ t', Machine.run step (alongX.answered (positionCommand 7 ⟨10000, 90000, 30000⟩))
      (.pulse :: rounds (fun _ => .pulse) 3) = some t' ∧ (∀ e ∈ t'.log, e.isExit = false) ∧
      t'.aircraft.position = (10000, 90000, 30000) := by
  have arrives := position_command_arrives _ _ _
    (alongX_commanded ⟨10000, 90000, 30000⟩ (by decide +kernel))
  have pulses : ∀ _ : Nat, (Received.pulse : Received MessageInterProcess).ReadOnly :=
    fun _ => trivial
  obtain ⟨t', run⟩ := arrives.2 (fun _ => .pulse) pulses
  have readOnly : ReadOnlyInputs (.pulse :: rounds (fun _ => .pulse) 3) :=
    (rounds_readOnly pulses 3).cons_pulse
  have three : (Input.pulse :: rounds (fun _ => .pulse) 3).countP Input.isMove = 3 := by
    decide
  obtain ⟨silent, there⟩ := arrives.1 _ t' readOnly run three.le
  rw [positionCmd_positionCommand] at there
  exact ⟨t', run, silent, there three⟩

/-- Sent to a point beside its course, the aircraft does not come back to it. -/
theorem position_command_changes_course :
    ¬ ∀ (a : Aircraft) (t : AircraftThread) (buffer : MessageInterProcess),
        Commanded a t buffer → KeepsCourse t buffer := by
  intro claim
  have commanded := alongX_commanded ⟨50100, 51800, 20000⟩ (by decide +kernel)
  have keeps := claim _ _ _ commanded
  obtain ⟨later, t', readOnly, run, count, at_, flown⟩ :=
    commanded.pulses_run 3 fun i _ le => commanded.inside le
  have velocity := keeps.2 later t' 0 readOnly run count at_
  rw [flown, Aircraft.velocity_move_iterate, positionCmd_positionCommand] at velocity
  revert velocity
  decide +kernel

/-- Sent to the point it was flying to, it does. -/
theorem position_command_keeps_course_alongX :
    KeepsCourse alongX (positionCommand 7 ⟨50400, 50000, 20000⟩) := by
  have iff_ := (position_command_keeps_course_iff _ _ _
    (alongX_commanded ⟨50400, 50000, 20000⟩ (by decide +kernel))).1
  rw [positionCmd_positionCommand] at iff_
  exact iff_.mpr (by decide +kernel)

end AircraftThread

end QnxAtc
