import QnxAtc.AirTrafficControl.System
import QnxAtc.Operator.Commands

/-! # The operator's side

The console, the relay and the operator-input thread of the Computer process, next to
the ATC process they send to. The relay answers a command before it looks for the
aircraft, so the console may go on while the command is still on its way.
-/

namespace QnxAtc

/-- The branch in which the console ends a line. -/
inductive ConsoleResult where
  | sent
  | failed
  | info (record : MsgPlaneInfo)
  | noData

inductive ConsolePhase where
  | reading
  | sending (cmd : ConsoleCommand) (server : Server) (msg : MessageInterProcess)
  | awaiting (cmd : ConsoleCommand)  -- received by the relay, not yet answered
  | done

structure Console where
  lines : List ConsoleCommand
  phase : ConsolePhase
  -- history: the lines read so far, and how each of them ended
  typed : List ConsoleCommand
  results : List (ConsoleCommand × ConsoleResult)

inductive RelayPhase where
  | receiving
  | opening (augmented : Bool) (msg : Message)
  | sending (augmented : Bool) (msg : Message)
  | ended

structure Relay where
  phase : RelayPhase
  accepted : List MessageInterProcess  -- history: what was received, in order

/-- `ComputerSystem::processMessage`. -/
structure OperatorInput where
  listen : Bool
  timeConstraintCollisionFreq : Int32

structure OperatorSystem where
  console : Console
  relay : Relay
  computer : OperatorInput
  atc : AirTrafficControl

/-! ## The parties -/

namespace Console

/-- The end of a line. -/
def finish (c : Console) (cmd : ConsoleCommand) (result : ConsoleResult) : Console :=
  { c with phase := .reading, results := c.results ++ [(cmd, result)] }

/-- Read the next line and start to send what it asks for. -/
def readLine (c : Console) (connected : Bool) : Console :=
  match c.lines with
  | [] => { c with phase := .done }
  | cmd :: lines =>
      let read := { c with lines := lines, typed := c.typed ++ [cmd] }
      match cmd.request with
      | none => { read with phase := .done }
      | some (server, msg) =>
          if connected then { read with phase := .sending cmd server msg }
          else read.finish cmd .failed

/-- What the console makes of the answer to an info request. -/
def infoResult (status : Bool) (reply : MessageInterProcess) : ConsoleResult :=
  if status = false then .failed
  else if sizeofMsgPlaneInfo ≤ reply.dataSize.toNat then .info (.ofBytes reply.data.toList)
  else .noData

/-- The relay answers an info request; it does not hold up the console for a command. -/
def released (c : Console) (augmented status : Bool) (reply : MessageInterProcess) : Console :=
  match augmented, c.phase with
  | true, .awaiting cmd => c.finish cmd (infoResult status reply)
  | _, _ => c

end Console

/-- What `messageAircraftAugmented` finds in its reply buffer, which starts out empty. -/
def outReply : Reply → MessageInterProcess
  | .interProcess msg => msg
  | _ => MessageInterProcess.zero

def OperatorInput.processMessage (c : OperatorInput) (msg : MessageInterProcess) :
    OperatorInput :=
  match msg.type with
  | .changeTimeConstraintCollisions =>
      if sizeofInt ≤ msg.dataSize.toNat then
        { c with timeConstraintCollisionFreq := loadInt msg.data.toList }
      else c
  | .exit => { c with listen := false }
  | _ => c

namespace OperatorSystem

def start (planeData : List PlaneData) (lines : List ConsoleCommand) : OperatorSystem where
  console := ⟨lines, .reading, [], []⟩
  relay := ⟨.receiving, []⟩
  computer := ⟨true, 180⟩
  atc := AirTrafficControl.start planeData

inductive Label where
  | atc (label : AirTrafficControl.Label)
  | readLine (connected : Bool)
  | sendFails
  | relayReceive
  | relayError
  | relayOpen (ok : Bool)
  | relayDeliver (i : Nat)
  | relaySendFails
  | computerReceive

/-- Only Radar and the relay send messages to aircraft. -/
def Local : AirTrafficControl.Label → Prop
  | .aircraft _ (.received (.message _)) => False
  | _ => True

instance (label : AirTrafficControl.Label) : Decidable (Local label) := by
  unfold Local
  split <;> infer_instance

def step (s : OperatorSystem) (label : Label) : Option OperatorSystem :=
  match label, s.console.phase, s.relay.phase with
  | .atc label, _, _ =>
      if Local label then (s.atc.step label).map fun atc => { s with atc := atc } else none
  | .readLine connected, .reading, _ => some { s with console := s.console.readLine connected }
  | .sendFails, .sending cmd _ _, _ => some { s with console := s.console.finish cmd .failed }
  | .relayReceive, .sending cmd .comms msg, .receiving =>
      let accepted := s.relay.accepted ++ [msg]
      if msg.type = .exit then
        some { s with console := s.console.finish cmd .sent, relay := ⟨.ended, accepted⟩ }
      else if msg.type = .requestAugmentedInfo then
        some { s with
          console := { s.console with phase := .awaiting cmd }
          relay := ⟨.opening true (toAircraft msg), accepted⟩ }
      else
        some { s with
          console := s.console.finish cmd .sent
          relay := ⟨.opening false (toAircraft msg), accepted⟩ }
  | .relayError, _, .receiving => some { s with relay := { s.relay with phase := .ended } }
  | .relayOpen ok, _, .opening augmented msg =>
      if ok = true ↔ s.atc.Attached msg.planeID then
        if ok then some { s with relay := { s.relay with phase := .sending augmented msg } }
        else
          some { s with
            relay := { s.relay with phase := .receiving }
            console := s.console.released augmented false MessageInterProcess.zero }
      else none
  | .relayDeliver i, _, .sending augmented msg =>
      match s.atc.threads[i]? with
      | none => none
      | some t =>
          if t.aircraft.id = msg.planeID then
            let reply := outReply (t.aircraft.handle (ipcMessage msg)).reply
            (s.atc.step (.aircraft i (.received (.message (ipcMessage msg))))).map fun atc =>
              { s with
                atc := atc
                relay := { s.relay with phase := .receiving }
                console := s.console.released augmented
                  (sizeofMsgPlaneInfo ≤ reply.dataSize.toNat) reply }
          else none
  | .relaySendFails, _, .sending augmented msg =>
      if s.atc.Attached msg.planeID then none
      else
        some { s with
          relay := { s.relay with phase := .receiving }
          console := s.console.released augmented false MessageInterProcess.zero }
  | .computerReceive, .sending cmd .computer msg, _ =>
      if s.computer.listen then
        some { s with
          console := s.console.finish cmd .sent
          computer := s.computer.processMessage msg }
      else none
  | _, _, _ => none

/-! ## What one step can do -/

section Specs

variable {s s' : OperatorSystem}

theorem atc_spec {label : AirTrafficControl.Label} (h : s.step (.atc label) = some s') :
    Local label ∧ ∃ atc, s.atc.step label = some atc ∧ s' = { s with atc := atc } := by
  change (if Local label then (s.atc.step label).map fun atc => { s with atc := atc } else none) =
    some s' at h
  split at h
  · rename_i own
    obtain ⟨atc, next, rfl⟩ := Option.map_eq_some_iff.mp h
    exact ⟨own, atc, next, rfl⟩
  · cases h

theorem readLine_spec {connected : Bool} (h : s.step (.readLine connected) = some s') :
    s.console.phase = .reading ∧ s' = { s with console := s.console.readLine connected } := by
  unfold step at h
  split at h
  case h_2 connected' same at_ =>
      cases same
      cases h
      exact ⟨at_, rfl⟩
  all_goals contradiction

theorem sendFails_spec (h : s.step .sendFails = some s') :
    ∃ cmd server msg, s.console.phase = .sending cmd server msg ∧
      s' = { s with console := s.console.finish cmd .failed } := by
  unfold step at h
  split at h
  case h_3 cmd server msg _ at_ =>
      cases h
      exact ⟨cmd, server, msg, at_, rfl⟩
  all_goals contradiction

theorem relayReceive_spec (h : s.step .relayReceive = some s') :
    ∃ cmd msg, s.console.phase = .sending cmd .comms msg ∧ s.relay.phase = .receiving ∧
      (msg.type = .exit ∧ s' = { s with
          console := s.console.finish cmd .sent
          relay := ⟨.ended, s.relay.accepted ++ [msg]⟩ } ∨
        msg.type = .requestAugmentedInfo ∧ s' = { s with
          console := { s.console with phase := .awaiting cmd }
          relay := ⟨.opening true (toAircraft msg), s.relay.accepted ++ [msg]⟩ } ∨
        msg.type ≠ .exit ∧ msg.type ≠ .requestAugmentedInfo ∧ s' = { s with
          console := s.console.finish cmd .sent
          relay := ⟨.opening false (toAircraft msg), s.relay.accepted ++ [msg]⟩ }) := by
  unfold step at h
  split at h
  case h_4 cmd msg _ at_ free =>
      refine ⟨cmd, msg, at_, free, ?_⟩
      split at h
      · cases h
        exact .inl ⟨‹_›, rfl⟩
      · split at h
        · cases h
          exact .inr (.inl ⟨‹_›, rfl⟩)
        · cases h
          exact .inr (.inr ⟨‹_›, ‹_›, rfl⟩)
  all_goals contradiction

theorem relayError_spec (h : s.step .relayError = some s') :
    s.relay.phase = .receiving ∧ s' = { s with relay := { s.relay with phase := .ended } } := by
  unfold step at h
  split at h
  case h_5 free =>
      cases h
      exact ⟨free, rfl⟩
  all_goals contradiction

theorem relayOpen_spec {ok : Bool} (h : s.step (.relayOpen ok) = some s') :
    ∃ augmented msg, s.relay.phase = .opening augmented msg ∧
      (ok = true ↔ s.atc.Attached msg.planeID) ∧
      s' = if ok = true then { s with relay := { s.relay with phase := .sending augmented msg } }
        else { s with
          relay := { s.relay with phase := .receiving }
          console := s.console.released augmented false MessageInterProcess.zero } := by
  unfold step at h
  split at h
  case h_6 ok' augmented msg same at_ =>
      cases same
      split at h
      · rename_i may
        refine ⟨augmented, msg, at_, may, ?_⟩
        cases ok <;> exact (Option.some.inj h).symm
      · cases h
  all_goals contradiction

theorem relayDeliver_spec {i : Nat} (h : s.step (.relayDeliver i) = some s') :
    ∃ augmented msg t atc, s.relay.phase = .sending augmented msg ∧
      s.atc.threads[i]? = some t ∧ t.aircraft.id = msg.planeID ∧
      s.atc.step (.aircraft i (.received (.message (ipcMessage msg)))) = some atc ∧
      s' = { s with
        atc := atc
        relay := { s.relay with phase := .receiving }
        console := s.console.released augmented
          (sizeofMsgPlaneInfo ≤
            (outReply (t.aircraft.handle (ipcMessage msg)).reply).dataSize.toNat)
          (outReply (t.aircraft.handle (ipcMessage msg)).reply) } := by
  unfold step at h
  split at h
  case h_7 i' augmented msg same at_ =>
      cases same
      split at h
      · cases h
      · rename_i t place
        split at h
        · rename_i own
          obtain ⟨atc, next, rfl⟩ := Option.map_eq_some_iff.mp h
          exact ⟨augmented, msg, t, atc, at_, place, own, next, rfl⟩
        · cases h
  all_goals contradiction

theorem relaySendFails_spec (h : s.step .relaySendFails = some s') :
    ∃ augmented msg, s.relay.phase = .sending augmented msg ∧
      ¬ s.atc.Attached msg.planeID ∧ s' = { s with
        relay := { s.relay with phase := .receiving }
        console := s.console.released augmented false MessageInterProcess.zero } := by
  unfold step at h
  split at h
  case h_8 augmented msg _ at_ =>
      split at h
      · cases h
      · rename_i gone
        cases h
        exact ⟨augmented, msg, at_, gone, rfl⟩
  all_goals contradiction

theorem computerReceive_spec (h : s.step .computerReceive = some s') :
    ∃ cmd msg, s.console.phase = .sending cmd .computer msg ∧ s' = { s with
      console := s.console.finish cmd .sent
      computer := s.computer.processMessage msg } := by
  unfold step at h
  split at h
  case h_9 cmd msg _ at_ =>
      split at h
      · cases h
        exact ⟨cmd, msg, at_, rfl⟩
      · cases h
  all_goals contradiction

end Specs

inductive Step (s : OperatorSystem) : Label → OperatorSystem → Prop where
  | atc (label : AirTrafficControl.Label) (own : Local label) (atc : AirTrafficControl)
      (next : s.atc.step label = some atc) : Step s (.atc label) { s with atc := atc }
  | readLine (connected : Bool) (at_ : s.console.phase = .reading) :
      Step s (.readLine connected) { s with console := s.console.readLine connected }
  | sendFails (cmd : ConsoleCommand) (server : Server) (msg : MessageInterProcess)
      (at_ : s.console.phase = .sending cmd server msg) :
      Step s .sendFails { s with console := s.console.finish cmd .failed }
  | relayReceive (cmd : ConsoleCommand) (msg : MessageInterProcess)
      (at_ : s.console.phase = .sending cmd .comms msg) (free : s.relay.phase = .receiving)
      (console : Console) (sameTyped : console.typed = s.console.typed)
      (sameLines : console.lines = s.console.lines)
      (served : console.phase = .reading ∨ console.phase = .awaiting cmd) (phase : RelayPhase)
      (goesOn : phase = .ended ∨ ∃ augmented, phase = .opening augmented (toAircraft msg)) :
      Step s .relayReceive
        { s with console := console, relay := ⟨phase, s.relay.accepted ++ [msg]⟩ }
  | relayError (free : s.relay.phase = .receiving) :
      Step s .relayError { s with relay := { s.relay with phase := .ended } }
  | relayOpened (augmented : Bool) (msg : Message) (at_ : s.relay.phase = .opening augmented msg) :
      Step s (.relayOpen true) { s with relay := { s.relay with phase := .sending augmented msg } }
  | relayGivesUp (label : Label) (augmented : Bool) (msg : Message)
      (at_ : s.relay.phase = .opening augmented msg ∨ s.relay.phase = .sending augmented msg) :
      Step s label { s with
        relay := { s.relay with phase := .receiving }
        console := s.console.released augmented false MessageInterProcess.zero }
  | relayDeliver (i : Nat) (augmented : Bool) (msg : Message) (t : AircraftThread)
      (at_ : s.relay.phase = .sending augmented msg) (place : s.atc.threads[i]? = some t)
      (own : t.aircraft.id = msg.planeID) (atc : AirTrafficControl)
      (next : s.atc.step (.aircraft i (.received (.message (ipcMessage msg)))) = some atc)
      (status : Bool) (reply : MessageInterProcess) :
      Step s (.relayDeliver i) { s with
        atc := atc
        relay := { s.relay with phase := .receiving }
        console := s.console.released augmented status reply }
  | computerReceive (cmd : ConsoleCommand) (msg : MessageInterProcess)
      (at_ : s.console.phase = .sending cmd .computer msg) :
      Step s .computerReceive { s with
        console := s.console.finish cmd .sent
        computer := s.computer.processMessage msg }

theorem step_spec {s s' : OperatorSystem} {label : Label} (h : s.step label = some s') :
    Step s label s' := by
  cases label with
  | atc label =>
      obtain ⟨own, atc, next, rfl⟩ := atc_spec h
      exact .atc label own atc next
  | readLine connected =>
      obtain ⟨at_, rfl⟩ := readLine_spec h
      exact .readLine connected at_
  | sendFails =>
      obtain ⟨cmd, server, msg, at_, rfl⟩ := sendFails_spec h
      exact .sendFails cmd server msg at_
  | relayReceive =>
      obtain ⟨cmd, msg, at_, free, ⟨_, rfl⟩ | ⟨_, rfl⟩ | ⟨_, _, rfl⟩⟩ := relayReceive_spec h
      · exact .relayReceive cmd msg at_ free (s.console.finish cmd .sent) rfl rfl (.inl rfl) _
          (.inl rfl)
      · exact .relayReceive cmd msg at_ free { s.console with phase := .awaiting cmd } rfl rfl
          (.inr rfl) _ (.inr ⟨true, rfl⟩)
      · exact .relayReceive cmd msg at_ free (s.console.finish cmd .sent) rfl rfl (.inl rfl) _
          (.inr ⟨false, rfl⟩)
  | relayError =>
      obtain ⟨free, rfl⟩ := relayError_spec h
      exact .relayError free
  | relayOpen ok =>
      obtain ⟨augmented, msg, at_, _, rfl⟩ := relayOpen_spec h
      cases ok with
      | true => exact .relayOpened augmented msg at_
      | false => exact .relayGivesUp _ augmented msg (.inl at_)
  | relayDeliver i =>
      obtain ⟨augmented, msg, t, atc, at_, place, own, next, rfl⟩ := relayDeliver_spec h
      exact .relayDeliver i augmented msg t at_ place own atc next _ _
  | relaySendFails =>
      obtain ⟨augmented, msg, at_, _, rfl⟩ := relaySendFails_spec h
      exact .relayGivesUp _ augmented msg (.inr at_)
  | computerReceive =>
      obtain ⟨cmd, msg, at_, rfl⟩ := computerReceive_spec h
      exact .computerReceive cmd msg at_

end OperatorSystem

end QnxAtc
