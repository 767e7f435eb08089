import QnxAtc.Messages.Structs
import Mathlib.Logic.Function.Iterate
import Mathlib.Tactic.Linarith

/-! # Aircraft state, motion and message handling

The sequential parts of `Aircraft.cpp`: the state an aircraft keeps, the motion
step, the boundary test, and what one received message does to the state and to
the sender. The thread that calls them is in `QnxAtc.Aircraft.Thread`.
-/

namespace QnxAtc

open FixedArray

/-! ## State -/

/-- One line of the planes file. -/
structure PlaneData where
  arrivaTime : Int32
  id : Int32
  posX : Int32
  posY : Int32
  posZ : Int32
  speedX : Int32
  speedY : Int32
  speedZ : Int32
deriving DecidableEq

structure AirspaceStruct where
  lowerXBoundary : Int
  upperXBoundary : Int
  lowerYBoundary : Int
  upperYBoundary : Int
  lowerZBoundary : Int
  upperZBoundary : Int

/-- The boundaries every aircraft is constructed with; no code changes them. -/
def airspace : AirspaceStruct := ⟨0, 100000, 0, 100000, 15000, 40000⟩

structure Aircraft where
  id : Int32
  posX : ℚ
  posY : ℚ
  posZ : ℚ
  speedX : ℚ
  speedY : ℚ
  speedZ : ℚ
  arrivalTime : Int32
deriving DecidableEq

/-- `startPlanes` passes the integers of a file line as doubles. -/
def Aircraft.ofPlaneData (data : PlaneData) : Aircraft where
  id := data.id
  posX := data.posX.toInt
  posY := data.posY.toInt
  posZ := data.posZ.toInt
  speedX := data.speedX.toInt
  speedY := data.speedY.toInt
  speedZ := data.speedZ.toInt
  arrivalTime := data.arrivaTime

namespace Aircraft

/-- The record an aircraft reports about itself. -/
def planeInfo (a : Aircraft) : MsgPlaneInfo :=
  ⟨a.id, a.posX, a.posY, a.posZ, a.speedX, a.speedY, a.speedZ⟩

/-- Change the heading by changing the speed, component by component. -/
def changeHeading (a : Aircraft) (vx vy vz : ℚ) : Aircraft :=
  { a with
    speedX := if vx ≠ 0 then vx else a.speedX
    speedY := if vy ≠ 0 then vy else a.speedY
    speedZ := if vz ≠ 0 then vz else a.speedZ }

/-! ## Motion -/

/-- The position update at the head of the loop. -/
def move (a : Aircraft) : Aircraft :=
  { a with posX := a.posX + a.speedX, posY := a.posY + a.speedY, posZ := a.posZ + a.speedZ }

/-- The six-sided test that makes an aircraft leave. -/
def OutOfBounds (a : Aircraft) : Prop :=
  a.posX < airspace.lowerXBoundary ∨ a.posX > airspace.upperXBoundary ∨
    a.posY < airspace.lowerYBoundary ∨ a.posY > airspace.upperYBoundary ∨
      a.posZ < airspace.lowerZBoundary ∨ a.posZ > airspace.upperZBoundary

instance : DecidablePred OutOfBounds := fun a =>
  inferInstanceAs (Decidable (a.posX < airspace.lowerXBoundary ∨
    a.posX > airspace.upperXBoundary ∨ a.posY < airspace.lowerYBoundary ∨
      a.posY > airspace.upperYBoundary ∨ a.posZ < airspace.lowerZBoundary ∨
        a.posZ > airspace.upperZBoundary))

@[simp] theorem move_id (a : Aircraft) : a.move.id = a.id := rfl
@[simp] theorem move_speedX (a : Aircraft) : a.move.speedX = a.speedX := rfl
@[simp] theorem move_speedY (a : Aircraft) : a.move.speedY = a.speedY := rfl
@[simp] theorem move_speedZ (a : Aircraft) : a.move.speedZ = a.speedZ := rfl

/-- The state after `n` position updates, in closed form. -/
theorem move_iterate (a : Aircraft) (n : Nat) :
    move^[n] a = { a with
      posX := a.posX + n * a.speedX
      posY := a.posY + n * a.speedY
      posZ := a.posZ + n * a.speedZ } := by
  induction n with
  | zero => simp
  | succ n ih =>
      rw [Function.iterate_succ_apply', ih]
      simp only [move, Nat.cast_succ]
      congr 1 <;> ring

end Aircraft

/-- The box of the airspace, as a condition on a reported position. -/
structure MsgPlaneInfo.InAirspace (r : MsgPlaneInfo) : Prop where
  x : 0 ≤ r.positionX ∧ r.positionX ≤ 100000
  y : 0 ≤ r.positionY ∧ r.positionY ≤ 100000
  z : 15000 ≤ r.positionZ ∧ r.positionZ ≤ 40000

theorem Aircraft.planeInfo_inAirspace {a : Aircraft} (h : ¬ a.OutOfBounds) :
    a.planeInfo.InAirspace := by
  simp only [OutOfBounds, airspace, not_or, not_lt, gt_iff_lt] at h
  obtain ⟨xlo, xhi, ylo, yhi, zlo, zhi⟩ := h
  exact ⟨⟨by exact_mod_cast xlo, by exact_mod_cast xhi⟩,
    ⟨by exact_mod_cast ylo, by exact_mod_cast yhi⟩, ⟨by exact_mod_cast zlo, by exact_mod_cast zhi⟩⟩

/-! ## Messages -/

/-- What `MsgReply` hands back to a sender. -/
inductive Reply where
  | empty
  | planeInfo (info : MsgPlaneInfo)
  | interProcess (msg : MessageInterProcess)

/-- The position record a reply carries, if it carries a full one. -/
def Reply.record? : Reply → Option MsgPlaneInfo
  | .empty => none
  | .planeInfo info => some info
  | .interProcess msg =>
      if sizeofMsgPlaneInfo ≤ msg.dataSize.toNat then some (.ofBytes msg.data.toList) else none

/-- The outcome of one received message: the new state, the one reply, and whether
the thread ends. -/
structure Handled where
  aircraft : Aircraft
  reply : Reply
  exits : Bool

namespace Aircraft

def augmentedReply (a : Aircraft) : MessageInterProcess where
  header := true
  type := .requestAugmentedInfo
  planeID := a.id
  data := overwrite MessageInterProcess.zero.data a.planeInfo.bytes
  dataSize := UInt64.ofNat sizeofMsgPlaneInfo

/-- The speed that reaches `target` from `current` in three updates. -/
def transitionSpeed (target current : ℚ) : ℚ :=
  let transitionTime : Int := 3
  (target - current) / transitionTime

/-- The switch over sporadic (inter-process) messages. -/
def handleInterProcess (a : Aircraft) (receivedMsg : MessageInterProcess) : Handled :=
  match receivedMsg.type with
  | .requestChangeOfHeading =>
      if sizeofMsgChangeHeading ≤ receivedMsg.dataSize.toNat then
        let headingCmd := MsgChangeHeading.ofBytes receivedMsg.data.toList
        if headingCmd.ID = a.id then
          ⟨a.changeHeading headingCmd.velocityX headingCmd.velocityY headingCmd.velocityZ,
            .empty, false⟩
        else ⟨a, .empty, false⟩
      else ⟨a, .empty, false⟩
  | .requestChangePosition =>
      if sizeofMsgChangePosition ≤ receivedMsg.dataSize.toNat then
        let positionCmd := MsgChangePosition.ofBytes receivedMsg.data.toList
        ⟨{ a with
            speedX := transitionSpeed positionCmd.x a.posX
            speedY := transitionSpeed positionCmd.y a.posY
            speedZ := transitionSpeed positionCmd.z a.posZ }, .empty, false⟩
      else ⟨a, .empty, false⟩
  | .requestChangeAltitude =>
      if sizeofMsgChangeHeading ≤ receivedMsg.dataSize.toNat then
        let altitudeCmd := MsgChangeHeading.ofBytes receivedMsg.data.toList
        if altitudeCmd.ID = a.id then ⟨{ a with posZ := altitudeCmd.altitude }, .empty, false⟩
        else ⟨a, .empty, false⟩
      else ⟨a, .empty, false⟩
  | .requestAugmentedInfo => ⟨a, .interProcess a.augmentedReply, false⟩
  | .changeTimeConstraintCollisions => ⟨a, .empty, false⟩
  | .exit => ⟨a, .empty, true⟩
  | .collisionDetected => ⟨a, .empty, false⟩
  | _ => ⟨a, .empty, false⟩

/-- Periodic (intra-process) messages: only Radar's poll is answered with data. -/
def handleIntraProcess (a : Aircraft) (receivedMsg : MessageInterProcess) : Handled :=
  if receivedMsg.type = .requestPosition then ⟨a, .planeInfo a.planeInfo, false⟩
  else ⟨a, .empty, false⟩

/-- The receive buffer has room for the larger struct and is read as whichever one
the header bit names. Both start with the same three fields, the only ones the
intra-process branch looks at, so the buffer is kept as a `Message_inter_process`. -/
def handle (a : Aircraft) (buffer : MessageInterProcess) : Handled :=
  if buffer.header then a.handleInterProcess buffer else a.handleIntraProcess buffer

end Aircraft

/-- A `Message` in the receive buffer. It is shorter than the buffer; what lies behind
it is not looked at. -/
def Message.asBuffer (m : Message) : MessageInterProcess :=
  { MessageInterProcess.zero with header := m.header, type := m.type, planeID := m.planeID }

namespace MessageInterProcess

/-- The operator commands an aircraft obeys. -/
def IsCommand (m : MessageInterProcess) : Prop :=
  m.header = true ∧ (m.type = .requestChangeOfHeading ∨ m.type = .requestChangePosition ∨
    m.type = .requestChangeAltitude)

def IsExit (m : MessageInterProcess) : Prop := m.header = true ∧ m.type = .exit

instance : DecidablePred IsCommand := fun m =>
  inferInstanceAs (Decidable (m.header = true ∧ (m.type = .requestChangeOfHeading ∨
    m.type = .requestChangePosition ∨ m.type = .requestChangeAltitude)))

instance : DecidablePred IsExit := fun m =>
  inferInstanceAs (Decidable (m.header = true ∧ m.type = .exit))

end MessageInterProcess

namespace Aircraft

@[simp] theorem handle_id (a : Aircraft) (buffer : MessageInterProcess) :
    (a.handle buffer).aircraft.id = a.id := by
  unfold handle handleInterProcess handleIntraProcess
  cases buffer.type <;> dsimp only <;> repeat' split
  all_goals rfl

/-- Only commands change an aircraft. -/
theorem handle_of_not_command (a : Aircraft) {buffer : MessageInterProcess}
    (h : ¬ buffer.IsCommand) : (a.handle buffer).aircraft = a := by
  unfold handle handleInterProcess handleIntraProcess
  by_cases header : buffer.header = true
  · simp only [MessageInterProcess.IsCommand, header, true_and, not_or] at h
    rw [if_pos header]
    cases htype : buffer.type <;> simp_all
  · rw [if_neg header]
    split <;> rfl

theorem handle_exits_iff (a : Aircraft) (buffer : MessageInterProcess) :
    (a.handle buffer).exits = true ↔ buffer.IsExit := by
  unfold handle handleInterProcess handleIntraProcess MessageInterProcess.IsExit
  by_cases header : buffer.header = true
  · rw [if_pos header]
    cases htype : buffer.type <;> simp [header] <;> (split <;> (try split) <;> rfl)
  · rw [if_neg header]
    split <;> simp [header]

/-- Every record an aircraft sends is its own state at the moment it answers. -/
theorem handle_record (a : Aircraft) {buffer : MessageInterProcess} {r : MsgPlaneInfo}
    (h : (a.handle buffer).reply.record? = some r) : r = a.planeInfo := by
  have augmented : a.augmentedReply.data.toList =
      (overwrite MessageInterProcess.zero.data a.planeInfo.bytes).toList := rfl
  unfold handle handleInterProcess handleIntraProcess at h
  by_cases header : buffer.header = true
  · rw [if_pos header] at h
    cases htype : buffer.type <;> simp only [htype] at h
    case requestAugmentedInfo =>
      simp only [Reply.record?, augmented, MsgPlaneInfo.ofBytes_overwrite] at h
      split at h <;> simp_all
    all_goals (repeat' split at h) <;> simp [Reply.record?] at h
  · rw [if_neg header] at h
    split at h <;> simp_all [Reply.record?]

end Aircraft

end QnxAtc
