import QnxAtc.Aircraft.Thread
import Mathlib.Data.Finset.Card

/-! # Radar

The two threads of `Radar.cpp` over the state they share: one handles the ENTER and
EXIT messages of the aircraft, the other polls the aircraft it knows of and publishes
what they answer. A label is one point where the threads can interleave, with the
choice the environment makes there. Shared memory is mapped from the start.
-/

namespace QnxAtc

open FixedArray

/-- The points of `ListenAirspaceArrivalAndDeparture`. -/
inductive ArrivalPhase where
  | starting
  | looping
  | receiving
  | handling (msg : Message)  -- replied to, not yet acted on
  | ended
deriving DecidableEq

/-- The points of `ListenUpdatePosition`, with those of `pollAirspace` inside it. -/
inductive UpdatePhase where
  | looping
  | waiting
  | testing
  | copying
  | polling (planesToPoll : List Int32)
  | opening (planeID : Int32) (rest : List Int32)
  | sending (planeID : Int32) (rest : List Int32)
  | unreachable (planeID : Int32) (rest : List Int32)  -- in the catch block
  | writing (polled : Bool)
  | ended
deriving DecidableEq

/-- How the turn of one aircraft ends in a polling pass. -/
inductive Turn where
  | gone
  | unreachable
  | answered (info : MsgPlaneInfo)

def Turn.record? : Turn → Option MsgPlaneInfo
  | .answered info => some info
  | _ => none

/-- What a pass saw: the IDs it copied, in the order it visits them, and the turns so far. -/
structure PollPass where
  copied : List Int32
  turns : List (Int32 × Turn)

def PollPass.records (pass : PollPass) : List MsgPlaneInfo :=
  pass.turns.filterMap fun turn => turn.2.record?

structure Radar where
  planesInAirspace : Finset Int32
  planesInAirspaceData : Fin 2 → List MsgPlaneInfo
  activeBufferIndex : Fin 2
  wasAirspaceEmpty : Bool
  stopThreads : Bool
  shared : SharedMemory
  arrival : ArrivalPhase
  update : UpdatePhase
  -- history, which no step reads: what the arrival thread has acted on, and the pass of
  -- the latest iteration, if that found the airspace non-empty
  handled : List Message
  pass : Option PollPass

namespace Radar

/-- What `clearSharedMemory` leaves behind. -/
def clearedMemory : SharedMemory :=
  ⟨.replicate planeDataCapacity default, 0, true, 0⟩

/-- The constructed Radar. -/
def start : Radar where
  planesInAirspace := ∅
  planesInAirspaceData := fun _ => []
  activeBufferIndex := 0
  wasAirspaceEmpty := true
  stopThreads := false
  shared := clearedMemory
  arrival := .starting
  update := .looping
  handled := []
  pass := none

def getActiveBuffer (r : Radar) : List MsgPlaneInfo := r.planesInAirspaceData r.activeBufferIndex

def inactiveBufferIndex (r : Radar) : Fin 2 := r.activeBufferIndex + 1

def inactiveBuffer (r : Radar) : List MsgPlaneInfo := r.planesInAirspaceData r.inactiveBufferIndex

def setInactiveBuffer (r : Radar) (buffer : List MsgPlaneInfo) : Radar :=
  { r with planesInAirspaceData :=
      Function.update r.planesInAirspaceData r.inactiveBufferIndex buffer }

def addPlaneToAirspace (r : Radar) (msg : Message) : Radar :=
  { r with planesInAirspace := insert msg.planeID r.planesInAirspace }

def removePlaneFromAirspace (r : Radar) (planeID : Int32) : Radar :=
  { r with planesInAirspace := r.planesInAirspace.erase planeID }

/-- The switch over a message that has been replied to. -/
def handleMessage (r : Radar) (msg : Message) : Radar :=
  match msg.type with
  | .enterAirspace => r.addPlaneToAirspace msg
  | .exitAirspace => r.removePlaneFromAirspace msg.planeID
  | _ => r

/-- Publish the active buffer; a `memcpy` that leaves the array has no result. -/
def writeToSharedMemory (r : Radar) (tickCounter : UInt64) : Except Fault Radar :=
  if r.getActiveBuffer.isEmpty then
    .ok { r with shared :=
      { r.shared with timestamp := tickCounter, isEmpty := true, count := 0 } }
  else
    match copyInto r.shared.planeData r.getActiveBuffer with
    | none => .error .bufferOverflow
    | some planeData =>
        .ok { r with
          shared := ⟨planeData, r.getActiveBuffer.length, false, tickCounter⟩
          planesInAirspaceData :=
            Function.update r.planesInAirspaceData r.activeBufferIndex [] }

/-- The current pass with one more turn. -/
def record (r : Radar) (planeID : Int32) (turn : Turn) : Radar :=
  { r with pass := r.pass.map fun pass =>
      { pass with turns := pass.turns ++ [(planeID, turn)] } }

inductive Label where
  | attach
  | arrivalLoop
  | receive (rcv : Received Message)
  | handle
  | updateLoop
  | pulse
  | testEmpty
  | copy (planesToPoll : List Int32)
  | nextPlane
  | openChannel (ok : Bool)
  | answer (info : MsgPlaneInfo)
  | sendFails
  | eraseUnreachable
  | write (tickCounter : UInt64)
  | shutdown
  | clear

/-- The thread that serves the aircraft's own messages. -/
def arrivalStep (r : Radar) : Label → Option Radar
  | .attach => if r.arrival = .starting then some { r with arrival := .looping } else none
  | .arrivalLoop =>
      if r.arrival = .looping then
        some { r with arrival := if r.stopThreads then .ended else .receiving }
      else none
  | .receive rcv =>
      if r.arrival = .receiving then
        match rcv with
        | .error => some { r with arrival := if r.stopThreads then .ended else .looping }
        | .pulse => some { r with arrival := .looping }
        | .message msg => some { r with arrival := .handling msg }
      else none
  | .handle =>
      match r.arrival with
      | .handling msg =>
          some { r.handleMessage msg with arrival := .looping, handled := r.handled ++ [msg] }
      | _ => none
  | _ => none

/-- The polling thread. Only the aircraft with the polled ID can answer on its channel,
and it reports its own ID. -/
def updateStep (r : Radar) (label : Label) : Option Radar :=
  match r.update, label with
  | .looping, .updateLoop =>
      some { r with update := if r.stopThreads then .ended else .waiting }
  | .waiting, .pulse => some { r with update := .testing }
  | .testing, .testEmpty =>
      if r.planesInAirspace ≠ ∅ then some { r with update := .copying, pass := some ⟨[], []⟩ }
      else if r.wasAirspaceEmpty then some { r with update := .looping, pass := none }
      else some { r with update := .writing false, pass := none }
  | .copying, .copy planesToPoll =>
      if planesToPoll.Nodup ∧ planesToPoll.toFinset = r.planesInAirspace then
        some { r.setInactiveBuffer [] with
          update := .polling planesToPoll
          pass := some ⟨planesToPoll, []⟩ }
      else none
  | .polling [], .nextPlane =>
      some { r with activeBufferIndex := r.inactiveBufferIndex, update := .writing true }
  | .polling (planeID :: rest), .nextPlane =>
      if planeID ∈ r.planesInAirspace then some { r with update := .opening planeID rest }
      else some { r.record planeID .gone with update := .polling rest }
  | .opening planeID rest, .openChannel ok =>
      some { r with update := if ok then .sending planeID rest else .unreachable planeID rest }
  | .sending planeID rest, .answer info =>
      if info.id = planeID then
        some { (r.setInactiveBuffer (r.inactiveBuffer ++ [info])).record planeID (.answered info)
          with update := .polling rest }
      else none
  | .sending planeID rest, .sendFails => some { r with update := .unreachable planeID rest }
  | .unreachable planeID rest, .eraseUnreachable =>
      some { (r.removePlaneFromAirspace planeID).record planeID .unreachable with
        update := .polling rest }
  | .writing polled, .write tickCounter =>
      match r.writeToSharedMemory tickCounter with
      | .ok written =>
          some { written with update := .looping, wasAirspaceEmpty := !polled }
      | .error _ => none
  | _, _ => none

/-- The destructor: stop, wait for both threads, clear the shared memory. -/
def shutdownStep (r : Radar) : Label → Option Radar
  | .shutdown => some { r with stopThreads := true }
  | .clear =>
      if r.arrival = .ended ∧ r.update = .ended then some { r with shared := clearedMemory }
      else none
  | _ => none

def step (r : Radar) (label : Label) : Option Radar :=
  match label with
  | .attach | .arrivalLoop | .receive _ | .handle => r.arrivalStep label
  | .shutdown | .clear => r.shutdownStep label
  | _ => r.updateStep label

theorem handleMessage_eq (r : Radar) (msg : Message) :
    ∃ planes, r.handleMessage msg = { r with planesInAirspace := planes } := by
  unfold handleMessage
  split
  · exact ⟨_, rfl⟩
  · exact ⟨_, rfl⟩
  · exact ⟨r.planesInAirspace, rfl⟩

theorem mem_handleMessage (r : Radar) (msg : Message) (planeID : Int32) :
    planeID ∈ (r.handleMessage msg).planesInAirspace ↔
      msg.type = .enterAirspace ∧ msg.planeID = planeID ∨
        planeID ∈ r.planesInAirspace ∧ ¬ (msg.type = .exitAirspace ∧ msg.planeID = planeID) := by
  unfold handleMessage
  split
  · rename_i enter
    simp [addPlaneToAirspace, enter, eq_comm]
  · rename_i exit
    simp [removePlaneFromAirspace, exit, and_comm, eq_comm]
  · rename_i noEnter noExit
    have enter : ¬ msg.type = .enterAirspace := noEnter
    have exit : ¬ msg.type = .exitAirspace := noExit
    simp [enter, exit]

/-! ## What one step can do -/

inductive Step (r : Radar) : Label → Radar → Prop where
  | arrival (label : Label) (phase : ArrivalPhase) (idle : ∀ msg, phase ≠ .handling msg)
      (local_ : ∀ msg, label ≠ .receive (.message msg)) :
      Step r label { r with arrival := phase }
  | receive (msg : Message) (at_ : r.arrival = .receiving) :
      Step r (.receive (.message msg)) { r with arrival := .handling msg }
  | handle (msg : Message) (at_ : r.arrival = .handling msg) :
      Step r .handle { r.handleMessage msg with
        arrival := .looping, handled := r.handled ++ [msg] }
  | loop (phase : UpdatePhase) (at_ : r.update = .looping)
      (next : phase = .waiting ∨ phase = .ended) : Step r .updateLoop { r with update := phase }
  | pulse (at_ : r.update = .waiting) : Step r .pulse { r with update := .testing }
  | foundPlanes (at_ : r.update = .testing) (found : r.planesInAirspace ≠ ∅) :
      Step r .testEmpty { r with update := .copying, pass := some ⟨[], []⟩ }
  | stillEmpty (at_ : r.update = .testing) (found : r.planesInAirspace = ∅)
      (was : r.wasAirspaceEmpty = true) :
      Step r .testEmpty { r with update := .looping, pass := none }
  | nowEmpty (at_ : r.update = .testing) (found : r.planesInAirspace = ∅)
      (was : r.wasAirspaceEmpty = false) :
      Step r .testEmpty { r with update := .writing false, pass := none }
  | copy (planesToPoll : List Int32) (at_ : r.update = .copying) (once : planesToPoll.Nodup)
      (all : planesToPoll.toFinset = r.planesInAirspace) :
      Step r (.copy planesToPoll) { r.setInactiveBuffer [] with
        update := .polling planesToPoll, pass := some ⟨planesToPoll, []⟩ }
  | switch (at_ : r.update = .polling []) :
      Step r .nextPlane
        { r with activeBufferIndex := r.inactiveBufferIndex, update := .writing true }
  | turn (planeID : Int32) (rest : List Int32) (at_ : r.update = .polling (planeID :: rest))
      (here : planeID ∈ r.planesInAirspace) :
      Step r .nextPlane { r with update := .opening planeID rest }
  | gone (planeID : Int32) (rest : List Int32) (at_ : r.update = .polling (planeID :: rest))
      (left : planeID ∉ r.planesInAirspace) :
      Step r .nextPlane { r.record planeID .gone with update := .polling rest }
  | openChannel (planeID : Int32) (rest : List Int32) (at_ : r.update = .opening planeID rest)
      (ok : Bool) :
      Step r (.openChannel ok)
        { r with update := if ok then .sending planeID rest else .unreachable planeID rest }
  | answer (planeID : Int32) (rest : List Int32) (at_ : r.update = .sending planeID rest)
      (info : MsgPlaneInfo) (own : info.id = planeID) :
      Step r (.answer info)
        { (r.setInactiveBuffer (r.inactiveBuffer ++ [info])).record planeID (.answered info) with
          update := .polling rest }
  | sendFails (planeID : Int32) (rest : List Int32) (at_ : r.update = .sending planeID rest) :
      Step r .sendFails { r with update := .unreachable planeID rest }
  | erase (planeID : Int32) (rest : List Int32) (at_ : r.update = .unreachable planeID rest) :
      Step r .eraseUnreachable
        { (r.removePlaneFromAirspace planeID).record planeID .unreachable with
          update := .polling rest }
  | write (polled : Bool) (tickCounter : UInt64) (at_ : r.update = .writing polled)
      (written : Radar) (result : r.writeToSharedMemory tickCounter = .ok written) :
      Step r (.write tickCounter)
        { written with update := .looping, wasAirspaceEmpty := !polled }
  | shutdown : Step r .shutdown { r with stopThreads := true }
  | clear (ended : r.update = .ended) : Step r .clear { r with shared := clearedMemory }

theorem arrivalStep_spec {r r' : Radar} {label : Label} (h : r.arrivalStep label = some r') :
    Step r label r' := by
  cases label <;> simp only [arrivalStep, reduceCtorEq] at h
  case attach =>
      split at h <;> cases h
      exact .arrival .attach .looping nofun nofun
  case arrivalLoop =>
      split at h <;> cases h
      exact .arrival .arrivalLoop _ (by intro msg; split <;> simp) nofun
  case receive rcv =>
      split at h
      · cases rcv with
        | error => cases h; exact .arrival _ _ (by intro msg; split <;> simp) nofun
        | pulse => cases h; exact .arrival _ .looping nofun nofun
        | message msg => cases h; exact .receive msg ‹_›
      · cases h
  case handle =>
      split at h
      · cases h; exact .handle _ ‹_›
      · cases h

theorem updateStep_spec {r r' : Radar} {label : Label} (h : r.updateStep label = some r') :
    Step r label r' := by
  unfold updateStep at h
  split at h
  case h_1 hp => cases h; exact .loop _ hp (by split <;> simp)
  case h_2 hp => cases h; exact .pulse hp
  case h_3 hp =>
      split at h
      · cases h; exact .foundPlanes hp ‹_›
      · rename_i none
        have empty := not_not.mp none
        split at h
        · cases h; exact .stillEmpty hp empty ‹_›
        · cases h; exact .nowEmpty hp empty (Bool.eq_false_iff.mpr ‹_›)
  case h_4 order hp =>
      split at h
      · rename_i all
        cases h; exact .copy order hp all.1 all.2
      · cases h
  case h_5 hp => cases h; exact .switch hp
  case h_6 planeID rest hp =>
      split at h
      · cases h; exact .turn planeID rest hp ‹_›
      · cases h; exact .gone planeID rest hp ‹_›
  case h_7 planeID rest ok hp => cases h; exact .openChannel planeID rest hp ok
  case h_8 planeID rest info hp =>
      split at h
      · cases h; exact .answer planeID rest hp info ‹_›
      · cases h
  case h_9 planeID rest hp => cases h; exact .sendFails planeID rest hp
  case h_10 planeID rest hp => cases h; exact .erase planeID rest hp
  case h_11 polled tickCounter hp =>
      split at h
      · rename_i written result
        cases h; exact .write polled tickCounter hp written result
      · cases h
  case h_12 => cases h

theorem step_spec {r r' : Radar} {label : Label} (h : r.step label = some r') :
    Step r label r' := by
  cases label with
  | attach | arrivalLoop | receive rcv | handle => exact arrivalStep_spec h
  | shutdown => cases h; exact .shutdown
  | clear =>
      simp only [step, shutdownStep] at h
      split at h
      · rename_i both
        cases h; exact .clear both.2
      · cases h
  | updateLoop | pulse | testEmpty | copy | nextPlane | openChannel | answer | sendFails
    | eraseUnreachable | write => exact updateStep_spec h

end Radar

end QnxAtc
