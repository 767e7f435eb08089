import QnxAtc.Processes.Threads
import QnxAtc.Readers.Reader

/-! # The threads of the Computer process

The monitor, the operator-input thread, the relay, the console, and the main thread from
`joinThread` on, when it has created the others. The two channels of the process are
known to its own threads only.
-/

namespace QnxAtc

open MessagePassing

variable {n : Nat}

/-! ## Monitor -/

inductive MonitorPoint (n : Nat) where
  | testing  -- of the loop that waits for a first aircraft
  | startPausing
  | looping
  | entering
  | reading
  | leaving (snapshot : Option (List MsgPlaneInfo))  -- `none` if the snapshot is empty
  | deciding (snapshot : Option (List MsgPlaneInfo))
  | opening (msg : MessageInterProcess)
  | sending (msg : MessageInterProcess) (displayChannel : Thread n)
  | pausing
  | returning
  | ended

/-- What a reader keeps of a poll. -/
def snapshotOf (shared : SharedMemory) (any : List MsgPlaneInfo) : Option (List MsgPlaneInfo) :=
  if shared.isEmpty then none else some (settled (readPlanes shared) any)

namespace MonitorPoint

/-- `monitorAirspace`, with `checkCollision` and `sendCollisionToDisplay`. -/
def next (installed : Installation) : MonitorPoint n → ThreadOperation n (MonitorPoint n)
  | .testing => access fun data =>
      (data, if data.radar.shared.isEmpty then .startPausing else .looping)
  | .startPausing => proceed .testing
  | .looping => access fun data => (data, if data.running then .entering else .returning)
  | .entering => installed.semWait (.reader .computer) .reading
  | .reading => .compute fun input data =>
      match input with
      | .planes any => some (data, .leaving (snapshotOf data.radar.shared any))
      | _ => none
  | .leaving snapshot => installed.semPost (.reader .computer) (.deciding snapshot)
  | .deciding none => access fun data => ({ data with running := false }, .returning)
  | .deciding (some planes) => .compute fun input data =>
      match input with
      | .message any =>
          let alert := checkCollision data.operator.timeConstraintCollisionFreq planes
          some (data, .opening (settled alert any))
      | _ => none
  | .opening msg => .connect displayChannelName fun
      | none => .pausing
      | some displayChannel => .sending msg displayChannel
  | .sending msg displayChannel => .send displayChannel msg fun _ => .pausing
  | .pausing => proceed .looping
  | .returning => proceed .ended
  | .ended => .ended

end MonitorPoint

/-! ## Operator input -/

inductive OperatorInputPoint where
  | starting
  | looping
  | receiving
  | replying (rcvid : Nat) (msg : MessageInterProcess)
  | handling (msg : MessageInterProcess)
  | ended

/-- `processMessage`. After a failed receive the loop is left either way. -/
def OperatorInputPoint.next : OperatorInputPoint → ThreadOperation n OperatorInputPoint
  | .starting => attempt fun ok => if ok then .looping else .ended
  | .looping => access fun data => (data, if data.operator.listen then .receiving else .ended)
  | .receiving => .receive fun
      | .error => .ended
      | .pulse => .looping
      | .message rcvid msg => .replying rcvid msg
  | .replying rcvid msg => .reply rcvid (some .empty) (.handling msg)
  | .handling msg => access fun data =>
      ({ data with operator := data.operator.processMessage msg }, .looping)
  | .ended => .ended

/-! ## Relay -/

inductive CommunicationsPoint (n : Nat) where
  | receiving
  | replyingExit (rcvid : Nat)
  -- messageAircraftAugmented, before the reply
  | openingAugmented (rcvid : Nat) (msg : Message)
  | askingAugmented (rcvid : Nat) (msg : Message) (planeChannel : Thread n)
  | answering (rcvid : Nat) (aircraftReply : MessageInterProcess)
  | refusing (rcvid : Nat)
  -- messageAircraft, after the reply
  | replying (rcvid : Nat) (msg : Message)
  | opening (msg : Message)
  | sending (msg : Message) (planeChannel : Thread n)
  | ended

namespace CommunicationsPoint

/-- The three ways a received message goes. -/
def dispatch (rcvid : Nat) (msg : MessageInterProcess) : CommunicationsPoint n :=
  if msg.type = .exit then .replyingExit rcvid
  else if msg.type = .requestAugmentedInfo then .openingAugmented rcvid (toAircraft msg)
  else .replying rcvid (toAircraft msg)

/-- `HandleCommunications`, with its two helpers. -/
def next : CommunicationsPoint n → ThreadOperation n (CommunicationsPoint n)
  | .receiving => .receive fun
      | .error => .ended
      | .pulse => .receiving
      | .message rcvid msg => dispatch rcvid msg
  | .replyingExit rcvid => .reply rcvid (some .empty) .ended
  | .openingAugmented rcvid msg => .connect (planeChannelName msg.planeID) fun
      | none => .refusing rcvid
      | some planeChannel => .askingAugmented rcvid msg planeChannel
  | .askingAugmented rcvid msg planeChannel => .send planeChannel (ipcMessage msg) fun
      | none => .refusing rcvid
      | some reply => .answering rcvid (outReply reply)
  | .answering rcvid aircraftReply =>
      if sizeofMsgPlaneInfo ≤ aircraftReply.dataSize.toNat then
        .reply rcvid (some (.interProcess aircraftReply)) .receiving
      else .reply rcvid none .receiving
  | .refusing rcvid => .reply rcvid none .receiving
  | .replying rcvid msg => .reply rcvid (some .empty) (.opening msg)
  | .opening msg => .connect (planeChannelName msg.planeID) fun
      | none => .receiving
      | some planeChannel => .sending msg planeChannel
  | .sending msg planeChannel => .send planeChannel (ipcMessage msg) fun _ => .receiving
  | .ended => .ended

end CommunicationsPoint

/-! ## Console -/

inductive ConsolePoint where
  | reading
  | connecting (server : Server) (msg : MessageInterProcess)
  | sending (server : Server) (msg : MessageInterProcess)
  | returning
  | ended

/-- The thread that serves a channel of the process. -/
def Server.thread : Server → Thread n
  | .comms => .communications
  | .computer => .operatorInput

/-- `HandleConsoleInputs`. -/
def ConsolePoint.next : ConsolePoint → ThreadOperation n ConsolePoint
  | .reading => .compute fun input data =>
      match input with
      | .line .endOfInput => some (data, .returning)
      | .line .rejected => some (data, .reading)
      | .line (.accepted cmd) =>
          match cmd.request with
          | none => some (data, .returning)
          | some (server, msg) => some (data, .connecting server msg)
      | _ => none
  | .connecting server msg => attempt fun ok => if ok then .sending server msg else .reading
  | .sending server msg => .send server.thread msg fun _ => .reading
  | .returning => proceed .ended
  | .ended => .ended

/-! ## The main thread -/

inductive ComputerMainPoint where
  | joiningMonitor
  | clearingListen
  | joiningOperatorInput
  | joiningConsole
  | joiningCommunications
  | ended

/-- `joinThread`, and the destructors of the console, of the Computer system (whose
threads are joined by then) and of the relay. -/
def ComputerMainPoint.next : ComputerMainPoint → ThreadOperation n ComputerMainPoint
  | .joiningMonitor => .join .monitor .clearingListen
  | .clearingListen => access fun data =>
      ({ data with operator := { data.operator with listen := false } }, .joiningOperatorInput)
  | .joiningOperatorInput => .join .operatorInput .joiningConsole
  | .joiningConsole => .join .console .joiningCommunications
  | .joiningCommunications => .join .communications .ended
  | .ended => .ended

end QnxAtc
