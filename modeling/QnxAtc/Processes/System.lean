import QnxAtc.Processes.Atc
import QnxAtc.Processes.Display

/-! # The three processes together

One program of all threads, for any number of aircraft.
-/

namespace QnxAtc

open MessagePassing

abbrev ThreadPoint (n : Nat) : Thread n → Type
  | .aircraft _ => AircraftPoint n
  | .arrivalDeparture => ArrivalPoint
  | .updatePosition => UpdatePoint n
  | .atcMain => AtcMainPoint n
  | .monitor => MonitorPoint n
  | .operatorInput => OperatorInputPoint
  | .communications => CommunicationsPoint n
  | .console => ConsolePoint
  | .computerMain => ComputerMainPoint
  | .displayLoop => DisplayPoint
  | .collisionListener => ListenerPoint
  | .displayMain => DisplayMainPoint

def processes (installed : Installation) (n : Nat) :
    Program (Thread n) String MessageInterProcess Reply Lock ThreadInput SharedData where
  Point := ThreadPoint n
  next
    | .aircraft _ => AircraftPoint.next
    | .arrivalDeparture => ArrivalPoint.next
    | .updatePosition => UpdatePoint.next installed
    | .atcMain => AtcMainPoint.next installed
    | .monitor => MonitorPoint.next installed
    | .operatorInput => OperatorInputPoint.next
    | .communications => CommunicationsPoint.next
    | .console => ConsolePoint.next
    | .computerMain => ComputerMainPoint.next
    | .displayLoop => DisplayPoint.next installed
    | .collisionListener => ListenerPoint.next
    | .displayMain => DisplayMainPoint.next
  name
    | .aircraft _ => AircraftPoint.name
    | .arrivalDeparture => ArrivalPoint.name
    | .collisionListener => ListenerPoint.name
    | _ => fun _ => none

abbrev ProcessState (installed : Installation) (n : Nat) := State (processes installed n)

abbrev ProcessLabel (n : Nat) := Label (Thread n) MessageInterProcess ThreadInput

/-- The threads of the aircraft of a planes file, and those of the three processes. -/
def startPoint (planeData : List PlaneData) :
    (t : Thread planeData.length) → ThreadPoint planeData.length t
  | .aircraft i => .arriving 0 (Aircraft.ofPlaneData (planeData.get i))
  | .arrivalDeparture => .attaching
  | .updatePosition => .looping
  | .atcMain => .joiningAircraft (List.finRange planeData.length)
  | .monitor => .testing
  | .operatorInput => .starting
  | .communications => .receiving
  | .console => .reading
  | .computerMain => .joiningMonitor
  | .displayLoop => .testing
  | .collisionListener => .attaching 0
  | .displayMain => .joiningDisplayLoop

def startProcesses (installed : Installation) (planeData : List PlaneData) :
    ProcessState installed planeData.length :=
  State.start (startPoint planeData) installed.start

end QnxAtc
