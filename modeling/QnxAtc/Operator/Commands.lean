import QnxAtc.Aircraft.State

/-! # Operator commands

A command is encoded twice on its way: the console puts the typed operands into the
byte array of a message, and the relay copies what it is told is meaningful into a
message of its own. The aircraft decodes the second one.
-/

namespace QnxAtc

open FixedArray

/-- A well-formed console line, by what is typed on it. -/
inductive ConsoleCommand where
  | changeHeading (planeID : Int32) (vx vy vz : ℚ)
  | changePosition (planeID : Int32) (x y z : ℚ)
  | changeAltitude (planeID : Int32) (altitude : ℚ)
  | requestAugmentedInfo (planeID : Int32)
  | changeTimeConstraint (seconds : Int32)
  | exit

/-- The two channels the console sends to. -/
inductive Server where
  | comms
  | computer
deriving DecidableEq

/-! ## The console's encoding -/

/-- A message with a payload struct of `size` bytes. -/
def commandMessage (type : MessageType) (planeID : Int32) (payload : List Byte) (size : Nat) :
    MessageInterProcess :=
  ⟨true, type, planeID, overwrite MessageInterProcess.zero.data payload, UInt64.ofNat size⟩

namespace ConsoleCommand

/-- What `HandleConsoleInputs` sends for a line, and to whom. -/
def request : ConsoleCommand → Option (Server × MessageInterProcess)
  | .changeHeading planeID vx vy vz =>
      let data : MsgChangeHeading := ⟨planeID, vx, vy, vz, 0⟩
      some (.comms,
        commandMessage .requestChangeOfHeading planeID data.bytes sizeofMsgChangeHeading)
  | .changePosition planeID x y z =>
      let data : MsgChangePosition := ⟨x, y, z⟩
      some (.comms,
        commandMessage .requestChangePosition planeID data.bytes sizeofMsgChangePosition)
  | .changeAltitude planeID altitude =>
      let data : MsgChangeHeading := ⟨planeID, 0, 0, 0, altitude⟩
      some (.comms,
        commandMessage .requestChangeAltitude planeID data.bytes sizeofMsgChangeHeading)
  | .requestAugmentedInfo planeID =>
      some (.comms, ⟨true, .requestAugmentedInfo, planeID, MessageInterProcess.zero.data, 0⟩)
  | .changeTimeConstraint seconds =>
      some (.computer,
        commandMessage .changeTimeConstraintCollisions (-1) (intBytes seconds) sizeofInt)
  | .exit => none

/-- The aircraft a line is typed for. -/
def target : ConsoleCommand → Option Int32
  | .changeHeading planeID .. | .changePosition planeID .. | .changeAltitude planeID _
  | .requestAugmentedInfo planeID => some planeID
  | .changeTimeConstraint _ | .exit => none

/-- What a line is meant to do to its aircraft. -/
def effect : ConsoleCommand → Aircraft → Aircraft
  | .changeHeading _ vx vy vz, a => a.changeHeading vx vy vz
  | .changePosition _ x y z, a =>
      { a with
        speedX := Aircraft.transitionSpeed x a.posX
        speedY := Aircraft.transitionSpeed y a.posY
        speedZ := Aircraft.transitionSpeed z a.posZ }
  | .changeAltitude _ altitude, a => { a with posZ := altitude }
  | .requestAugmentedInfo _, a | .changeTimeConstraint _, a | .exit, a => a

end ConsoleCommand

/-! ## The relay's encoding -/

/-- The `Message` that `HandleCommunications` builds for its helpers. -/
def toAircraft (msg : MessageInterProcess) : Message :=
  if msg.type = .requestAugmentedInfo then ⟨true, msg.type, msg.planeID, none, 0⟩
  else ⟨true, msg.type, msg.planeID, some msg.data.toList, msg.dataSize⟩

/-- The message that `messageAircraft` and `messageAircraftAugmented` send. -/
def ipcMessage (msg : Message) : MessageInterProcess where
  header := true
  type := msg.type
  planeID := msg.planeID
  data :=
    match msg.data with
    | none => MessageInterProcess.zero.data
    | some bytes =>
        if 0 < msg.dataSize.toNat ∧ msg.dataSize.toNat ≤ dataCapacity then
          overwrite MessageInterProcess.zero.data (bytes.take msg.dataSize.toNat)
        else MessageInterProcess.zero.data
  dataSize := msg.dataSize

/-- What an aircraft receives for a message the relay accepted. -/
def forwarded (msg : MessageInterProcess) : MessageInterProcess := ipcMessage (toAircraft msg)

/-- A command passes the relay unchanged. -/
theorem forwarded_commandMessage {type : MessageType} {planeID : Int32} {payload : List Byte}
    {size : Nat} (command : type ≠ .requestAugmentedInfo) (length : payload.length = size)
    (pos : 0 < size) (fits : size ≤ dataCapacity) :
    forwarded (commandMessage type planeID payload size) =
      commandMessage type planeID payload size := by
  have small : dataCapacity < UInt64.size := by decide
  have count : (UInt64.ofNat size).toNat = size := UInt64.toNat_ofNat_of_lt' (by omega)
  have payloadBack : (overwrite MessageInterProcess.zero.data payload).toList.take size =
      payload := by
    rw [← length]
    exact take_overwrite _ (by omega)
  have built : toAircraft (commandMessage type planeID payload size) = ⟨true, type, planeID,
      some (overwrite MessageInterProcess.zero.data payload).toList, UInt64.ofNat size⟩ :=
    if_neg command
  simp only [forwarded, built, ipcMessage, count, if_pos (And.intro pos fits), payloadBack]
  rfl

/-! ## The aircraft's decoding -/

/-- The message is the inter-process command of the typed kind, with the typed operands. -/
def Carries : ConsoleCommand → MessageInterProcess → Prop
  | .changeHeading planeID vx vy vz, m =>
      m.header = true ∧ m.type = .requestChangeOfHeading ∧ m.planeID = planeID ∧
        m.dataSize.toNat = sizeofMsgChangeHeading ∧
        MsgChangeHeading.ofBytes m.data.toList = ⟨planeID, vx, vy, vz, 0⟩
  | .changePosition planeID x y z, m =>
      m.header = true ∧ m.type = .requestChangePosition ∧ m.planeID = planeID ∧
        m.dataSize.toNat = sizeofMsgChangePosition ∧
        MsgChangePosition.ofBytes m.data.toList = ⟨x, y, z⟩
  | .changeAltitude planeID altitude, m =>
      m.header = true ∧ m.type = .requestChangeAltitude ∧ m.planeID = planeID ∧
        m.dataSize.toNat = sizeofMsgChangeHeading ∧
        MsgChangeHeading.ofBytes m.data.toList = ⟨planeID, 0, 0, 0, altitude⟩
  | .requestAugmentedInfo planeID, m =>
      m.header = true ∧ m.type = .requestAugmentedInfo ∧ m.planeID = planeID
  | .changeTimeConstraint _, _ | .exit, _ => False

theorem carries_forwarded {cmd : ConsoleCommand} {msg : MessageInterProcess}
    (h : cmd.request = some (.comms, msg)) : Carries cmd (forwarded msg) := by
  cases cmd with
  | changeHeading planeID vx vy vz =>
      cases h
      rw [forwarded_commandMessage (by decide) (MsgChangeHeading.bytes_length _) (by decide)
        (by decide)]
      exact ⟨rfl, rfl, rfl, rfl, MsgChangeHeading.ofBytes_overwrite _ _⟩
  | changePosition planeID x y z =>
      cases h
      rw [forwarded_commandMessage (by decide) (MsgChangePosition.bytes_length _) (by decide)
        (by decide)]
      exact ⟨rfl, rfl, rfl, rfl, MsgChangePosition.ofBytes_overwrite _ _⟩
  | changeAltitude planeID altitude =>
      cases h
      rw [forwarded_commandMessage (by decide) (MsgChangeHeading.bytes_length _) (by decide)
        (by decide)]
      exact ⟨rfl, rfl, rfl, rfl, MsgChangeHeading.ofBytes_overwrite _ _⟩
  | requestAugmentedInfo planeID =>
      cases h
      exact ⟨rfl, rfl, rfl⟩
  | changeTimeConstraint seconds => cases h
  | exit => cases h

/-- The aircraft a command is typed for does what the command says. -/
theorem handle_of_carries {cmd : ConsoleCommand} {m : MessageInterProcess} (h : Carries cmd m)
    (a : Aircraft) (own : cmd.target = some a.id) : (a.handle m).aircraft = cmd.effect a := by
  cases cmd with
  | changeHeading planeID vx vy vz =>
      obtain ⟨header, type, _, size, payload⟩ := h
      cases own
      simp [Aircraft.handle, Aircraft.handleInterProcess, header, type, size, payload,
        ConsoleCommand.effect]
  | changePosition planeID x y z =>
      obtain ⟨header, type, _, size, payload⟩ := h
      simp [Aircraft.handle, Aircraft.handleInterProcess, header, type, size, payload,
        ConsoleCommand.effect]
  | changeAltitude planeID altitude =>
      obtain ⟨header, type, _, size, payload⟩ := h
      cases own
      simp [Aircraft.handle, Aircraft.handleInterProcess, header, type, size, payload,
        ConsoleCommand.effect]
  | requestAugmentedInfo planeID =>
      obtain ⟨header, type, _⟩ := h
      simp [Aircraft.handle, Aircraft.handleInterProcess, header, type, ConsoleCommand.effect]
  | changeTimeConstraint seconds => exact h.elim
  | exit => exact h.elim

/-! ## Headings -/

theorem handle_changeHeading (a : Aircraft) {vx vy vz : ℚ} {msg : MessageInterProcess}
    (sent : (ConsoleCommand.changeHeading a.id vx vy vz).request = some (.comms, msg)) :
    (a.handle (forwarded msg)).aircraft = a.changeHeading vx vy vz :=
  handle_of_carries (carries_forwarded sent) a rfl

/-- A heading line that reaches its aircraft sets every velocity component whose operand
is not zero, leaves the others, and leaves the position. -/
theorem heading_sets_nonzero (a : Aircraft) (vx vy vz : ℚ) (msg : MessageInterProcess)
    (sent : (ConsoleCommand.changeHeading a.id vx vy vz).request = some (.comms, msg)) :
    let a' := (a.handle (forwarded msg)).aircraft
    (a'.speedX = if vx = 0 then a.speedX else vx) ∧
      (a'.speedY = if vy = 0 then a.speedY else vy) ∧
      (a'.speedZ = if vz = 0 then a.speedZ else vz) ∧
      a'.posX = a.posX ∧ a'.posY = a.posY ∧ a'.posZ = a.posZ := by
  simp only [handle_changeHeading a sent, Aircraft.changeHeading, ite_not, and_self]

/-- The line "1 7 0 200 0", typed to turn an aircraft that flies along the x axis. -/
theorem heading_keeps_old_speed :
    ¬ ∀ (a : Aircraft) (vx vy vz : ℚ) (msg : MessageInterProcess),
        (ConsoleCommand.changeHeading a.id vx vy vz).request = some (.comms, msg) →
        let a' := (a.handle (forwarded msg)).aircraft
        a'.speedX = vx ∧ a'.speedY = vy ∧ a'.speedZ = vz ∧
          a'.posX = a.posX ∧ a'.posY = a.posY ∧ a'.posZ = a.posZ := by
  intro claim
  have stopped := (claim (.ofPlaneData ⟨0, 7, 50000, 50000, 20000, 100, 0, 0⟩) 0 200 0 _ rfl).1
  rw [handle_changeHeading _ rfl] at stopped
  revert stopped
  decide +kernel

theorem heading_sets_nonzero_turn :
    let a : Aircraft := .ofPlaneData ⟨0, 7, 50000, 50000, 20000, 100, 0, 0⟩
    ∃ msg, (ConsoleCommand.changeHeading 7 900 700 0).request = some (.comms, msg) ∧
      (a.handle (forwarded msg)).aircraft.speedX = 900 := by
  refine ⟨_, rfl, ?_⟩
  exact (heading_sets_nonzero (.ofPlaneData ⟨0, 7, 50000, 50000, 20000, 100, 0, 0⟩)
    900 700 0 _ rfl).1.trans (if_neg (by decide))

end QnxAtc
