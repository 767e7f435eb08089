import QnxAtc.Aircraft.Transition

/-! # The message switch

What the branches of the message switch do, call by call, and what they check first. An
inter-process message names its aircraft up to twice, in `planeID` and in the payload of
a heading or altitude command. No branch looks at the first, and the position branch,
whose payload has no ID, looks at neither.
-/

namespace QnxAtc

open FixedArray

/-! ## Branches -/

/-- What a branch of the message switch does, call by call. -/
inductive Statement where
  | assign (a : Aircraft)
  | msgReply (reply : Reply)
  /-- `name_detach`, `name_close` and `pthread_exit` -/
  | exitThread

/-- The branch taken for a received message. What it assigns is in `Aircraft.handle`. -/
def Aircraft.statements (a : Aircraft) (buffer : MessageInterProcess) : List Statement :=
  let commanded := (a.handle buffer).aircraft
  if buffer.header then
    match buffer.type with
    | .requestChangeOfHeading => [.assign commanded, .msgReply .empty]
    | .requestChangePosition => [.assign commanded, .msgReply .empty]
    | .requestChangeAltitude => [.assign commanded, .msgReply .empty]
    | .requestAugmentedInfo => [.msgReply (.interProcess a.augmentedReply)]
    | .changeTimeConstraintCollisions => [.msgReply .empty]
    | .exit => [.msgReply .empty, .exitThread]
    | .collisionDetected => [.msgReply .empty]
    | _ => [.msgReply .empty]
  else if buffer.type = .requestPosition then [.msgReply (.planeInfo a.planeInfo)]
  else [.msgReply .empty]

def Statement.reply? : Statement → Option Reply
  | .msgReply reply => some reply
  | _ => none

/-- The aircraft after a list of statements. -/
def Statement.assigned (a : Aircraft) : List Statement → Aircraft
  | [] => a
  | .assign b :: rest => assigned b rest
  | _ :: rest => assigned a rest

/-- Every branch answers with the one reply of `Aircraft.handle`. -/
theorem Aircraft.replies_statements (a : Aircraft) (buffer : MessageInterProcess) :
    (a.statements buffer).filterMap Statement.reply? = [(a.handle buffer).reply] := by
  unfold Aircraft.statements Aircraft.handle
  by_cases header : buffer.header = true
  · rw [if_pos header, if_pos header]
    unfold Aircraft.handleInterProcess
    cases buffer.type <;> simp only [List.filterMap_cons, Statement.reply?, List.filterMap_nil] <;>
      (repeat' split) <;> rfl
  · rw [if_neg header, if_neg header]
    unfold Aircraft.handleIntraProcess
    split <;> rfl

/-- Every branch leaves the aircraft as `Aircraft.handle` does. -/
theorem Aircraft.assigned_statements (a : Aircraft) (buffer : MessageInterProcess) :
    Statement.assigned a (a.statements buffer) = (a.handle buffer).aircraft := by
  by_cases command : buffer.IsCommand
  · obtain ⟨header, kind⟩ := command
    unfold Aircraft.statements
    rw [if_pos header]
    rcases kind with kind | kind | kind <;> rw [kind] <;> rfl
  · rw [a.handle_of_not_command command]
    unfold Aircraft.statements
    rw [a.handle_of_not_command command]
    split
    · cases buffer.type <;> rfl
    · split <;> rfl

/-! ## Messages that are not for this aircraft -/

/-- The payload struct that goes with a type. -/
def MessageType.payloadSize : MessageType → Nat
  | .requestChangeOfHeading | .requestChangeAltitude => sizeofMsgChangeHeading
  | .requestChangePosition => sizeofMsgChangePosition
  | .changeTimeConstraintCollisions | .exit => sizeofInt
  | _ => 0

namespace MessageInterProcess

/-- The payload of a heading or altitude command, as the aircraft decodes it. -/
def headingCmd (m : MessageInterProcess) : MsgChangeHeading := .ofBytes m.data.toList

/-- The message carries less than the payload struct of its type. -/
def Short (m : MessageInterProcess) : Prop := m.dataSize.toNat < m.type.payloadSize

/-- One of the IDs the message carries is not that of the aircraft. -/
def Misaddressed (a : Aircraft) (m : MessageInterProcess) : Prop :=
  m.planeID ≠ a.id ∨
    (m.type = .requestChangeOfHeading ∨ m.type = .requestChangeAltitude) ∧ m.headingCmd.ID ≠ a.id

/-- The operands of a command ask for something other than what the aircraft does already. -/
def Changes (a : Aircraft) (m : MessageInterProcess) : Prop :=
  match m.type with
  | .requestChangeOfHeading => m.headingCmd.ID = a.id ∧
      ¬ ((m.headingCmd.velocityX = 0 ∨ m.headingCmd.velocityX = a.speedX) ∧
        (m.headingCmd.velocityY = 0 ∨ m.headingCmd.velocityY = a.speedY) ∧
        (m.headingCmd.velocityZ = 0 ∨ m.headingCmd.velocityZ = a.speedZ))
  | .requestChangePosition =>
      ¬ (m.positionCmd.x = a.posX + 3 * a.speedX ∧ m.positionCmd.y = a.posY + 3 * a.speedY ∧
        m.positionCmd.z = a.posZ + 3 * a.speedZ)
  | .requestChangeAltitude => m.headingCmd.ID = a.id ∧ m.headingCmd.altitude ≠ a.posZ
  | _ => False

end MessageInterProcess

namespace Aircraft

theorem handle_headingCommand (a : Aircraft) {m : MessageInterProcess} (header : m.header = true)
    (type : m.type = .requestChangeOfHeading) (full : ¬ m.Short) :
    (a.handle m).aircraft =
      if m.headingCmd.ID = a.id then
        a.changeHeading m.headingCmd.velocityX m.headingCmd.velocityY m.headingCmd.velocityZ
      else a := by
  have size : sizeofMsgChangeHeading ≤ m.dataSize.toNat := by
    simpa [MessageInterProcess.Short, type, MessageType.payloadSize] using full
  simp only [handle, handleInterProcess, header, type, if_true, if_pos size,
    MessageInterProcess.headingCmd]
  exact apply_ite Handled.aircraft _ _ _

theorem handle_altitudeCommand (a : Aircraft) {m : MessageInterProcess} (header : m.header = true)
    (type : m.type = .requestChangeAltitude) (full : ¬ m.Short) :
    (a.handle m).aircraft =
      if m.headingCmd.ID = a.id then { a with posZ := m.headingCmd.altitude } else a := by
  have size : sizeofMsgChangeHeading ≤ m.dataSize.toNat := by
    simpa [MessageInterProcess.Short, type, MessageType.payloadSize] using full
  simp only [handle, handleInterProcess, header, type, if_true, if_pos size,
    MessageInterProcess.headingCmd]
  exact apply_ite Handled.aircraft _ _ _

/-- Every branch that decodes a payload checks its size first. -/
theorem handle_short (a : Aircraft) {m : MessageInterProcess} (header : m.header = true)
    (short : m.Short) : (a.handle m).aircraft = a := by
  by_cases command : m.IsCommand
  · obtain ⟨-, type | type | type⟩ := command
    all_goals
      simp only [MessageInterProcess.Short, type, MessageType.payloadSize] at short
      simp [handle, handleInterProcess, header, type, Nat.not_le.mpr short]
  · exact a.handle_of_not_command command

theorem velocity_changeHeading_iff (a : Aircraft) (vx vy vz : ℚ) :
    (a.changeHeading vx vy vz).velocity = a.velocity ↔
      (vx = 0 ∨ vx = a.speedX) ∧ (vy = 0 ∨ vy = a.speedY) ∧ (vz = 0 ∨ vz = a.speedZ) := by
  have component : ∀ v w : ℚ, (if v ≠ 0 then v else w) = w ↔ v = 0 ∨ v = w := by
    intro v w
    by_cases zero : v = 0
    · simp [zero]
    · simp [zero]
  simp only [velocity, changeHeading, Prod.mk.injEq, component]

theorem velocity_towards_iff_operands (a : Aircraft) (target : MsgChangePosition) :
    (a.towards target).velocity = a.velocity ↔ target.x = a.posX + 3 * a.speedX ∧
      target.y = a.posY + 3 * a.speedY ∧ target.z = a.posZ + 3 * a.speedZ := by
  rw [velocity_towards_iff, move_iterate]
  simp only [position, Prod.mk.injEq, Nat.cast_ofNat]

/-- Handling the message leaves position and velocity as they were and replies once. -/
def Unaffected (a : Aircraft) (m : MessageInterProcess) : Prop :=
  (Statement.assigned a (a.statements m)).position = a.position ∧
    (Statement.assigned a (a.statements m)).velocity = a.velocity ∧
    ((a.statements m).filterMap Statement.reply?).length = 1

theorem unaffected_iff (a : Aircraft) (m : MessageInterProcess) :
    a.Unaffected m ↔ (a.handle m).aircraft.position = a.position ∧
      (a.handle m).aircraft.velocity = a.velocity := by
  simp [Unaffected, a.assigned_statements, a.replies_statements]

theorem unaffected_of_same (a : Aircraft) {m : MessageInterProcess}
    (same : (a.handle m).aircraft = a) : a.Unaffected m :=
  (a.unaffected_iff m).mpr ⟨by rw [same], by rw [same]⟩

/-- A full message has an effect exactly when it is a command that this aircraft accepts
and that asks for something new. -/
theorem unaffected_iff_not_changes (a : Aircraft) {m : MessageInterProcess}
    (header : m.header = true) (full : ¬ m.Short) : a.Unaffected m ↔ ¬ m.Changes a := by
  by_cases command : m.IsCommand
  · rw [unaffected_iff]
    obtain ⟨-, type | type | type⟩ := command
    · rw [a.handle_headingCommand header type full]
      simp only [MessageInterProcess.Changes, type]
      by_cases own : m.headingCmd.ID = a.id
      · have stays : (a.changeHeading m.headingCmd.velocityX m.headingCmd.velocityY
            m.headingCmd.velocityZ).position = a.position := rfl
        rw [if_pos own, velocity_changeHeading_iff]
        simp only [stays, own, true_and, not_not]
      · simp [own]
    · have size : sizeofMsgChangePosition ≤ m.dataSize.toNat := by
        simpa [MessageInterProcess.Short, type, MessageType.payloadSize] using full
      rw [a.handle_positionCommand ⟨header, type, size⟩, velocity_towards_iff_operands]
      simp [MessageInterProcess.Changes, type, towards, position]
    · rw [a.handle_altitudeCommand header type full]
      simp only [MessageInterProcess.Changes, type]
      by_cases own : m.headingCmd.ID = a.id
      · simp [own, position, velocity]
      · simp [own]
  · have none_ : ¬ m.Changes a := by
      simp only [MessageInterProcess.IsCommand, header, true_and, not_or] at command
      unfold MessageInterProcess.Changes
      cases type : m.type <;> simp_all
    exact ⟨fun _ => none_, fun _ => a.unaffected_of_same (a.handle_of_not_command command)⟩

/-- A short message never has an effect. A full one with an ID of another aircraft has none
unless it is a command whose branch does not look at that ID: a position command, or a
heading or altitude command with the right ID in its payload. -/
theorem misaddressed_unaffected_iff (a : Aircraft) (m : MessageInterProcess)
    (header : m.header = true) :
    (m.Short → a.Unaffected m) ∧
      (m.Misaddressed a → (a.Unaffected m ↔ m.Short ∨ ¬ m.Changes a)) := by
  have short : m.Short → a.Unaffected m :=
    fun short => a.unaffected_of_same (a.handle_short header short)
  refine ⟨short, ?_⟩
  intro _
  by_cases size : m.Short
  · exact ⟨fun _ => .inl size, fun _ => short size⟩
  · rw [a.unaffected_iff_not_changes header size]
    exact ⟨.inr, fun h => h.resolve_left size⟩

/-- A position command for aircraft 8 on the channel of aircraft 7. -/
theorem misaddressed_position_obeyed :
    ¬ ∀ (a : Aircraft) (m : MessageInterProcess), m.header = true → m.type ≠ .exit →
        m.Misaddressed a ∨ m.Short → a.Unaffected m := by
  intro claim
  have unaffected := claim ⟨7, 50000, 50000, 20000, 100, 0, 0, 0⟩
    (AircraftThread.positionCommand 8 ⟨10000, 90000, 30000⟩) rfl nofun (.inl (.inl (by decide)))
  rw [unaffected_iff, handle_positionCommand _
    (AircraftThread.positionCommand_isPositionCommand _ _),
    AircraftThread.positionCmd_positionCommand] at unaffected
  revert unaffected
  decide +kernel

/-- A heading command, which names its aircraft twice. -/
def headingCommand (cmd : MsgChangeHeading) : MessageInterProcess where
  header := true
  type := .requestChangeOfHeading
  planeID := cmd.ID
  data := overwrite MessageInterProcess.zero.data cmd.bytes
  dataSize := UInt64.ofNat sizeofMsgChangeHeading

/-- A heading command for aircraft 8 on the same channel. -/
theorem misaddressed_unaffected_heading :
    (Aircraft.mk 7 50000 50000 20000 100 0 0 0).Unaffected (headingCommand ⟨8, 0, 200, 0, 0⟩) := by
  have decoded : (headingCommand ⟨8, 0, 200, 0, 0⟩).headingCmd = ⟨8, 0, 200, 0, 0⟩ :=
    MsgChangeHeading.ofBytes_overwrite _ _
  have other : ¬ (headingCommand ⟨8, 0, 200, 0, 0⟩).Changes
      ⟨7, 50000, 50000, 20000, 100, 0, 0, 0⟩ := by
    rintro ⟨own, -⟩
    rw [decoded] at own
    revert own
    decide
  exact ((misaddressed_unaffected_iff ⟨7, 50000, 50000, 20000, 100, 0, 0, 0⟩ _ rfl).2
    (.inl (by decide))).mpr (.inr other)

end Aircraft

end QnxAtc
