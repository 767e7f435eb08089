import QnxAtc.Aircraft.Dispatch
import QnxAtc.Processes.Threads

/-! # The threads of the ATC process

`Aircraft::updatePosition`, the two threads of Radar, and the main thread from the
moment it joins the aircraft. A point stands before the operation that `next` gives for
it. The tests and the effects are those of the models of `Aircraft` and `Radar`.
-/

namespace QnxAtc

open MessagePassing

variable {n : Nat}

/-! ## Aircraft -/

inductive AircraftPoint (n : Nat) where
  | arriving (currentTime : Nat) (a : Aircraft)
  | opening (a : Aircraft)
  | enteringAirspace (a : Aircraft) (radarId : Thread n)
  | attaching (a : Aircraft) (radarId : Thread n)
  | moving (a : Aircraft) (radarId : Thread n)
  | exitingAirspace (a : Aircraft) (radarId : Thread n)
  | receiving (a : Aircraft) (radarId : Thread n)
  | switching (a : Aircraft) (radarId : Thread n) (rcvid : Nat) (rest : List Statement)
  | waiting (a : Aircraft) (radarId : Thread n)
  | detaching (a : Aircraft)
  | returned (attached : Option Int32)  -- an early return leaves the channel attached

namespace AircraftPoint

/-- The channel `dipi<ID>`, from `name_attach` to `name_detach`. -/
def name : AircraftPoint n → Option String
  | .arriving _ _ | .opening _ | .enteringAirspace _ _ | .attaching _ _ => none
  | .moving a _ | .exitingAirspace a _ | .receiving a _ | .switching a _ _ _ | .waiting a _
  | .detaching a => some (planeChannelName a.id)
  | .returned attached => attached.map planeChannelName

def next : AircraftPoint n → ThreadOperation n (AircraftPoint n)
  | .arriving currentTime a =>
      if (currentTime : Int) < a.arrivalTime.toInt then proceed (.arriving (currentTime + 1) a)
      else proceed (.opening a)
  | .opening a => .connect radarChannelName fun
      | none => .returned none
      | some radarId => .enteringAirspace a radarId
  | .enteringAirspace a radarId => .send radarId (createEnterAirspaceMessage a.id).asBuffer fun
      | none => .returned none
      | some _ => .attaching a radarId
  | .attaching a radarId => attempt fun ok => if ok then .moving a radarId else .returned none
  | .moving a radarId =>
      if a.move.OutOfBounds then proceed (.exitingAirspace a.move radarId)
      else proceed (.receiving a.move radarId)
  | .exitingAirspace a radarId => .send radarId (createExitAirspaceMessage a.id).asBuffer fun
      | none => .returned (some a.id)
      | some _ => .detaching a
  | .receiving a radarId => .receive fun
      | .error => .returned (some a.id)
      | .pulse => .waiting a radarId
      | .message rcvid buffer => .switching a radarId rcvid (a.statements buffer)
  | .switching a radarId rcvid rest =>
      match rest with
      | [] => proceed (.waiting a radarId)
      | .assign b :: rest => proceed (.switching b radarId rcvid rest)
      | .msgReply reply :: rest => .reply rcvid (some reply) (.switching a radarId rcvid rest)
      | .exitThread :: _ => proceed (.detaching a)
  | .waiting a radarId => proceed (.moving a radarId)
  | .detaching _ => proceed (.returned none)
  | .returned _ => .ended

end AircraftPoint

/-! ## Radar -/

/-- What Radar reads of a receive buffer. -/
def Message.ofBuffer (buffer : MessageInterProcess) : Message :=
  ⟨buffer.header, buffer.type, buffer.planeID, none, buffer.dataSize⟩

inductive ArrivalPoint where
  | attaching
  | looping
  | receiving
  | failed
  | replying (rcvid : Nat) (msg : Message)
  | handling (msg : Message)
  | changing (msg : Message)  -- holds airspaceMutex
  | unlocking
  | ended

namespace ArrivalPoint

def name : ArrivalPoint → Option String
  | .attaching | .ended => none
  | _ => some radarChannelName

/-- `ListenAirspaceArrivalAndDeparture`. No aircraft looks at the plane ID in the reply. -/
def next : ArrivalPoint → ThreadOperation n ArrivalPoint
  | .attaching => attempt fun ok => if ok then .looping else .ended
  | .looping => access fun data => (data, if data.radar.stopThreads then .ended else .receiving)
  | .receiving => .receive fun
      | .error => .failed
      | .pulse => .looping
      | .message rcvid buffer => .replying rcvid (Message.ofBuffer buffer)
  | .failed => access fun data => (data, if data.radar.stopThreads then .ended else .looping)
  | .replying rcvid msg => .reply rcvid (some .empty) (.handling msg)
  | .handling msg =>
      match msg.type with
      | .enterAirspace | .exitAirspace => .acquire .airspaceMutex (.changing msg)
      | _ => proceed .looping
  | .changing msg => access fun data =>
      ({ data with radar := data.radar.handleMessage msg }, .unlocking)
  | .unlocking => .release .airspaceMutex .looping
  | .ended => .ended

end ArrivalPoint

inductive UpdatePoint (n : Nat) where
  | looping
  | waiting
  | testing
  -- pollAirspace
  | copying
  | copyLocked
  | copied (planesToPoll : List Int32)
  | polling (planesToPoll : List Int32)
  | finding (planeID : Int32) (rest : List Int32)
  | findLocked (planeID : Int32) (rest : List Int32)
  | found (here : Bool) (planeID : Int32) (rest : List Int32)
  | opening (planeID : Int32) (rest : List Int32)
  | sending (planeID : Int32) (rest : List Int32) (planeChannel : Thread n)
  | answered (info : MsgPlaneInfo) (rest : List Int32)
  | unreachable (planeID : Int32) (rest : List Int32)
  | eraseLocked (planeID : Int32) (rest : List Int32)
  | erased (rest : List Int32)
  | switching
  | switchLocked
  | switched
  -- writeToSharedMemory
  | writing (polled : Bool)
  | bufferLocked (polled : Bool)
  | storing (polled : Bool)
  | stored (polled : Bool)
  | posted (polled : Bool)
  | written (polled : Bool)
  | ended

/-- What `getAircraftData` finds in its reply buffer, which starts out zeroed. -/
def receivedInfo : Reply → MsgPlaneInfo
  | .planeInfo info => info
  | _ => default

namespace UpdatePoint

/-- `ListenUpdatePosition`, with `pollAirspace`, `getAircraftData` and
`writeToSharedMemory`. -/
def next (installed : Installation) : UpdatePoint n → ThreadOperation n (UpdatePoint n)
  | .looping => access fun data => (data, if data.radar.stopThreads then .ended else .waiting)
  | .waiting => proceed .testing
  | .testing => access fun data => (data,
      if data.radar.planesInAirspace ≠ ∅ then .copying
      else if data.radar.wasAirspaceEmpty then .looping
      else .writing false)
  | .copying => .acquire .airspaceMutex .copyLocked
  | .copyLocked => .compute fun input data =>
      match input with
      | .planesToPoll ids =>
          if ids.Nodup ∧ ids.toFinset = data.radar.planesInAirspace then
            some ({ data with radar := data.radar.setInactiveBuffer [] }, .copied ids)
          else none
      | _ => none
  | .copied planesToPoll => .release .airspaceMutex (.polling planesToPoll)
  | .polling [] => proceed .switching
  | .polling (planeID :: rest) => proceed (.finding planeID rest)
  | .finding planeID rest => .acquire .airspaceMutex (.findLocked planeID rest)
  | .findLocked planeID rest => access fun data =>
      (data, .found (planeID ∈ data.radar.planesInAirspace) planeID rest)
  | .found here planeID rest =>
      .release .airspaceMutex (if here then .opening planeID rest else .polling rest)
  | .opening planeID rest => .connect (planeChannelName planeID) fun
      | none => .unreachable planeID rest
      | some planeChannel => .sending planeID rest planeChannel
  | .sending planeID rest planeChannel =>
      .send planeChannel (requestPositionMessage planeID).asBuffer fun
        | none => .unreachable planeID rest
        | some reply => .answered (receivedInfo reply) rest
  | .answered info rest => access fun data =>
      ({ data with
          radar := data.radar.setInactiveBuffer (data.radar.inactiveBuffer ++ [info]) },
        .polling rest)
  | .unreachable planeID rest => .acquire .airspaceMutex (.eraseLocked planeID rest)
  | .eraseLocked planeID rest => access fun data =>
      ({ data with radar := data.radar.removePlaneFromAirspace planeID }, .erased rest)
  | .erased rest => .release .airspaceMutex (.polling rest)
  | .switching => .acquire .bufferSwitchMutex .switchLocked
  | .switchLocked => access fun data =>
      ({ data with
          radar := { data.radar with activeBufferIndex := data.radar.inactiveBufferIndex } },
        .switched)
  | .switched => .release .bufferSwitchMutex (.writing true)
  | .writing polled =>
      if installed.memoryMapped then .acquire .bufferSwitchMutex (.bufferLocked polled)
      else proceed (.written polled)
  | .bufferLocked polled => installed.semWait .radar (.storing polled)
  | .storing polled => .compute fun input data =>
      match input with
      | .tick tickCounter memory =>
          some ({ data with
              radar := settled (data.radar.writeToSharedMemory tickCounter)
                { data.radar with
                  shared := memory
                  planesInAirspaceData := Function.update data.radar.planesInAirspaceData
                    data.radar.activeBufferIndex [] } },
            .stored polled)
      | _ => none
  | .stored polled => installed.semPost .radar (.posted polled)
  | .posted polled => .release .bufferSwitchMutex (.written polled)
  | .written polled => access fun data =>
      ({ data with radar := { data.radar with wasAirspaceEmpty := !polled } }, .looping)
  | .ended => .ended

end UpdatePoint

/-! ## The main thread -/

inductive AtcMainPoint (n : Nat) where
  | joiningAircraft (rest : List (Fin n))
  | shuttingDown
  | joiningArrivalDeparture
  | joiningUpdatePosition
  | clearing
  | ended

/-- The end of `startPlanes`, and `Radar::~Radar`. -/
def AtcMainPoint.next (installed : Installation) :
    AtcMainPoint n → ThreadOperation n (AtcMainPoint n)
  | .joiningAircraft [] => proceed .shuttingDown
  | .joiningAircraft (i :: rest) => .join (.aircraft i) (.joiningAircraft rest)
  | .shuttingDown => access fun data =>
      ({ data with radar := { data.radar with stopThreads := true } }, .joiningArrivalDeparture)
  | .joiningArrivalDeparture => .join .arrivalDeparture .joiningUpdatePosition
  | .joiningUpdatePosition => .join .updatePosition .clearing
  | .clearing => access fun data =>
      (if installed.memoryMapped then
          { data with radar := { data.radar with shared := Radar.clearedMemory } }
        else data,
        .ended)
  | .ended => .ended

end QnxAtc
