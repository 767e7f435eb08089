import QnxAtc.Aircraft.State
import QnxAtc.Library.Machine

/-! # The aircraft thread

`updatePosition` as a machine. A phase is a point where the thread blocks or where
another thread may come in between; an input is how that point is left. The log
keeps every message the thread sends, receives and answers, in order.
-/

namespace QnxAtc

/-- The points of `updatePosition` between two inputs. -/
inductive Phase where
  /-- the arrival loop, with its counter -/
  | arriving (currentTime : Nat)
  /-- in `MsgSend` of ENTER_AIRSPACE -/
  | sendingEnter
  /-- before `name_attach` -/
  | attaching
  /-- at the head of the update loop -/
  | moving
  /-- in `MsgSend` of EXIT_AIRSPACE -/
  | sendingExit
  /-- in `MsgReceive` -/
  | receiving
  /-- in `waitTimer`, at the foot of the loop -/
  | waiting
  /-- before `name_detach` -/
  | detaching
  /-- finished, with no channel of its own -/
  | ended
  /-- returned early, with its channel still attached -/
  | abandoned
deriving DecidableEq

/-- The channel `dipi<ID>` can be opened exactly in these phases. -/
def Phase.attached : Phase → Bool
  | .moving | .sendingExit | .receiving | .waiting | .detaching | .abandoned => true
  | .arriving _ | .sendingEnter | .attaching | .ended => false

/-- The thread function has returned. -/
def Phase.finished : Phase → Bool
  | .ended | .abandoned => true
  | _ => false

/-- The result of one `MsgReceive` on a channel. -/
inductive Received (α : Type) where
  | error
  | pulse
  | message (msg : α)

inductive Event where
  | sentEnter (msg : Message)
  | sentExit (msg : Message)
  | received (buffer : MessageInterProcess)
  | replied (reply : Reply)

/-- The position record an event sends out. -/
def Event.record? : Event → Option MsgPlaneInfo
  | .replied reply => reply.record?
  | _ => none

def Event.isExit : Event → Bool
  | .sentExit _ => true
  | _ => false

def Event.isEnter : Event → Bool
  | .sentEnter _ => true
  | _ => false

structure AircraftThread where
  aircraft : Aircraft
  phase : Phase
  log : List Event

inductive Input where
  /-- a timer pulse, taken by `waitTimer` -/
  | pulse
  /-- the result of `name_open` on Radar -/
  | opened (ok : Bool)
  /-- the result of the pending `MsgSend` to Radar -/
  | sent (ok : Bool)
  /-- the result of `name_attach` -/
  | attached (ok : Bool)
  /-- the position update and the boundary check -/
  | move
  | received (rcv : Received MessageInterProcess)
  /-- `name_detach` and the end of the thread -/
  | detach

def createEnterAirspaceMessage (planeID : Int32) : Message :=
  ⟨false, .enterAirspace, planeID, none, 0⟩

def createExitAirspaceMessage (planeID : Int32) : Message :=
  ⟨false, .exitAirspace, planeID, none, 0⟩

namespace AircraftThread

/-- A freshly created thread. -/
def start (a : Aircraft) : AircraftThread := ⟨a, .arriving 0, []⟩

/-- The head of the update loop: move, then leave or wait for a message. -/
def moved (t : AircraftThread) : AircraftThread :=
  if t.aircraft.move.OutOfBounds then
    ⟨t.aircraft.move, .sendingExit,
      t.log ++ [.sentExit (createExitAirspaceMessage t.aircraft.id)]⟩
  else ⟨t.aircraft.move, .receiving, t.log⟩

/-- One message received, handled and answered. -/
def answered (t : AircraftThread) (buffer : MessageInterProcess) : AircraftThread :=
  ⟨(t.aircraft.handle buffer).aircraft,
    if (t.aircraft.handle buffer).exits then .detaching else .waiting,
    t.log ++ [.received buffer, .replied (t.aircraft.handle buffer).reply]⟩

def step (t : AircraftThread) (i : Input) : Option AircraftThread :=
  match t.phase, i with
  | .arriving currentTime, .pulse =>
      if (currentTime : Int) < t.aircraft.arrivalTime.toInt then
        some { t with phase := .arriving (currentTime + 1) }
      else none
  | .arriving currentTime, .opened ok =>
      if (currentTime : Int) < t.aircraft.arrivalTime.toInt then none
      else if ok then
        some { t with
          phase := .sendingEnter
          log := t.log ++ [.sentEnter (createEnterAirspaceMessage t.aircraft.id)] }
      else some { t with phase := .ended }
  | .sendingEnter, .sent ok => some { t with phase := if ok then .attaching else .ended }
  | .attaching, .attached ok => some { t with phase := if ok then .moving else .ended }
  | .moving, .move => some t.moved
  | .sendingExit, .sent ok => some { t with phase := if ok then .detaching else .abandoned }
  | .receiving, .received .error => some { t with phase := .abandoned }
  | .receiving, .received .pulse => some { t with phase := .waiting }
  | .receiving, .received (.message buffer) => some (t.answered buffer)
  | .waiting, .pulse => some { t with phase := .moving }
  | .detaching, .detach => some { t with phase := .ended }
  | _, _ => none

/-- What one step can do, one constructor for each way out of a phase. -/
inductive Step (t : AircraftThread) : Input → AircraftThread → Prop where
  | tick (c : Nat) (at_ : t.phase = .arriving c)
      (early : (c : Int) < t.aircraft.arrivalTime.toInt) :
      Step t .pulse { t with phase := .arriving (c + 1) }
  | enter (c : Nat) (at_ : t.phase = .arriving c)
      (due : ¬ (c : Int) < t.aircraft.arrivalTime.toInt) :
      Step t (.opened true) { t with
        phase := .sendingEnter
        log := t.log ++ [.sentEnter (createEnterAirspaceMessage t.aircraft.id)] }
  | noRadar (c : Nat) (at_ : t.phase = .arriving c)
      (due : ¬ (c : Int) < t.aircraft.arrivalTime.toInt) :
      Step t (.opened false) { t with phase := .ended }
  | enterSent (ok : Bool) (at_ : t.phase = .sendingEnter) :
      Step t (.sent ok) { t with phase := if ok then .attaching else .ended }
  | attach (ok : Bool) (at_ : t.phase = .attaching) :
      Step t (.attached ok) { t with phase := if ok then .moving else .ended }
  | move (at_ : t.phase = .moving) : Step t .move t.moved
  | exitSent (ok : Bool) (at_ : t.phase = .sendingExit) :
      Step t (.sent ok) { t with phase := if ok then .detaching else .abandoned }
  | receiveError (at_ : t.phase = .receiving) :
      Step t (.received .error) { t with phase := .abandoned }
  | receivePulse (at_ : t.phase = .receiving) :
      Step t (.received .pulse) { t with phase := .waiting }
  | answer (buffer : MessageInterProcess) (at_ : t.phase = .receiving) :
      Step t (.received (.message buffer)) (t.answered buffer)
  | wake (at_ : t.phase = .waiting) : Step t .pulse { t with phase := .moving }
  | detach (at_ : t.phase = .detaching) : Step t .detach { t with phase := .ended }

theorem step_spec {t t' : AircraftThread} {i : Input} (h : t.step i = some t') : Step t i t' := by
  unfold step at h
  split at h
  case h_1 c hp =>
      split at h <;> cases h
      exact .tick c hp ‹_›
  case h_2 c ok hp =>
      split at h
      · cases h
      · cases ok <;> cases h
        · exact .noRadar c hp ‹_›
        · exact .enter c hp ‹_›
  case h_3 ok hp => cases h; exact .enterSent ok hp
  case h_4 ok hp => cases h; exact .attach ok hp
  case h_5 hp => cases h; exact .move hp
  case h_6 ok hp => cases h; exact .exitSent ok hp
  case h_7 hp => cases h; exact .receiveError hp
  case h_8 hp => cases h; exact .receivePulse hp
  case h_9 buffer hp => cases h; exact .answer buffer hp
  case h_10 hp => cases h; exact .wake hp
  case h_11 hp => cases h; exact .detach hp
  case h_12 => cases h

@[simp] theorem moved_id (t : AircraftThread) : t.moved.aircraft.id = t.aircraft.id := by
  unfold moved
  split <;> rfl

/-- A thread never changes whose thread it is. -/
theorem step_id {t t' : AircraftThread} {i : Input} (h : t.step i = some t') :
    t'.aircraft.id = t.aircraft.id := by
  cases step_spec h <;> simp [answered]

/-- The records sent out so far, in order. -/
def reports (t : AircraftThread) : List MsgPlaneInfo := t.log.filterMap Event.record?

end AircraftThread

end QnxAtc
