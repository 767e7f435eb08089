import QnxAtc.Aircraft.Flight
import QnxAtc.Operator.Delivery

/-! # What an acknowledgement means

The relay replies to a command before it opens the channel of the aircraft, so the
console reports success for a plane that may not exist, or may leave before the message
reaches it. While the plane is there and stays, every command the console reported as
sent has been received or is the one the relay is holding.
-/

namespace QnxAtc

/-! ## Aircraft that take messages -/

theorem Phase.attached_of_inLoop {phase : Phase} (h : phase.inLoop = true) :
    phase.attached = true := by
  cases phase <;> first | rfl | cases h

namespace AircraftThread

/-- This input ends the update loop. -/
def leaves (t : AircraftThread) : Input → Bool
  | .move => t.aircraft.move.OutOfBounds
  | .received .error => true
  | .received (.message buffer) => (t.aircraft.handle buffer).exits
  | _ => false

theorem step_inLoop {t t' : AircraftThread} {input : Input} (h : t.step input = some t')
    (before : t.phase.inLoop = true) (stays : t.leaves input = false) :
    t'.phase.inLoop = true := by
  cases step_spec h with
  | move at_ =>
      have inside : ¬ t.aircraft.move.OutOfBounds := by simpa [leaves] using stays
      simp [moved, inside, Phase.inLoop]
  | answer buffer at_ =>
      have goesOn : (t.aircraft.handle buffer).exits = false := stays
      simp [answered, goesOn, Phase.inLoop]
  | receiveError at_ => cases stays
  | receivePulse | wake => rfl
  | tick _ at_ | enter _ at_ | noRadar _ at_ | enterSent _ at_ | attach _ at_ | exitSent _ at_
    | detach at_ =>
      rw [at_] at before
      cases before

/-- The operator's commands among what an aircraft received. -/
def commandMessages (t : AircraftThread) : List MessageInterProcess :=
  t.operatorMessages.filter fun msg => msg.type ≠ .requestAugmentedInfo

theorem step_commandMessages {t t' : AircraftThread} {buffer : MessageInterProcess}
    (header : buffer.header = true) (h : t.step (.received (.message buffer)) = some t') :
    t'.commandMessages = t.commandMessages ++
      if buffer.type = .requestAugmentedInfo then [] else [buffer] := by
  have more := step_receivedMessages h
  rw [commandMessages, operatorMessages, more, List.filter_append, List.filter_append]
  congr 1
  by_cases info : buffer.type = .requestAugmentedInfo <;> simp [Input.message?, header, info]

end AircraftThread

namespace AirTrafficControl

/-- An aircraft with this ID is in its update loop. -/
def Serves (s : AirTrafficControl) (planeID : Int32) : Prop :=
  ∃ t ∈ s.threads, t.aircraft.id = planeID ∧ t.phase.inLoop = true

instance (s : AirTrafficControl) (planeID : Int32) : Decidable (s.Serves planeID) :=
  inferInstanceAs (Decidable (∃ t ∈ s.threads, _))

theorem Serves.attached {s : AirTrafficControl} {planeID : Int32} (h : s.Serves planeID) :
    s.Attached planeID := by
  obtain ⟨t, mem, own, inLoop⟩ := h
  exact ⟨t, mem, own, Phase.attached_of_inLoop inLoop⟩

/-- The aircraft that moves takes one of this ID out of its loop. -/
def takesAway (s : AirTrafficControl) (planeID : Int32) : Label → Bool
  | .aircraft i input =>
      match s.threads[i]? with
      | some t => t.aircraft.id = planeID && t.leaves input
      | none => false
  | _ => false

theorem Serves.set {s s' : AirTrafficControl} {planeID : Int32} {i : Nat} {t t' : AircraftThread}
    {input : Input} (h : s.Serves planeID) (at_ : s.threads[i]? = some t)
    (next : t.step input = some t') (stays : t.aircraft.id = planeID → t.leaves input = false)
    (threads : s'.threads = s.threads.set i t') : s'.Serves planeID := by
  obtain ⟨u, mem, own, inLoop⟩ := h
  obtain ⟨j, place⟩ := List.mem_iff_getElem?.mp mem
  unfold Serves
  rw [threads]
  by_cases same : i = j
  · subst same
    rw [at_, Option.some.injEq] at place
    subst place
    have id := AircraftThread.step_id next
    have bound := (List.getElem?_eq_some_iff.mp at_).1
    exact ⟨t', List.mem_set bound t', by rw [id, own],
      AircraftThread.step_inLoop next inLoop (stays own)⟩
  · refine ⟨u, List.mem_iff_getElem?.mpr ⟨j, ?_⟩, own, inLoop⟩
    rw [List.getElem?_set_ne same]
    exact place

/-- An aircraft that serves goes on to serve until it is taken out of its loop. -/
theorem Serves.step {s s' : AirTrafficControl} {planeID : Int32} {label : Label}
    (h : s.Serves planeID) (stays : s.takesAway planeID label = false)
    (hstep : s.step label = some s') : s'.Serves planeID := by
  cases step_spec hstep with
  | aircraft i input t t' at_ may next =>
      refine h.set at_ next ?_ rfl
      intro own
      simpa [takesAway, at_, own] using stays
  | radar label r may next => exact h
  | send i t t' msg r at_ pending next received => exact h.set at_ next (fun _ => rfl) rfl
  | poll i t t' pollID rest r info at_ blocked own next reply answered =>
      refine h.set at_ next (fun _ => ?_) rfl
      simp [AircraftThread.leaves, Aircraft.handle, Aircraft.handleIntraProcess, Message.asBuffer,
        requestPositionMessage]

end AirTrafficControl

/-! ## Commands acknowledged and commands received -/

/-- What a line that the console reported as sent becomes for the aircraft with this ID. -/
def acknowledged (planeID : Int32) : ConsoleCommand × ConsoleResult → Option MessageInterProcess
  | (cmd, .sent) => OperatorSystem.arrives planeID cmd
  | _ => none

/-- The command the relay holds for the aircraft with this ID. -/
def heldCommand (planeID : Int32) : RelayPhase → List MessageInterProcess
  | .opening false msg | .sending false msg =>
      if msg.planeID = planeID then [ipcMessage msg] else []
  | _ => []

namespace OperatorSystem

/-- The messages the acknowledged commands for this ID become, in the order of the lines. -/
def acknowledgedCommands (s : OperatorSystem) (planeID : Int32) : List MessageInterProcess :=
  s.console.results.filterMap (acknowledged planeID)

/-- The commands received by the aircraft with this ID. -/
def receivedCommands (s : OperatorSystem) (planeID : Int32) : List MessageInterProcess :=
  s.atc.threads.flatMap fun t => if t.aircraft.id = planeID then t.commandMessages else []

/-- Every acknowledged command was received by an aircraft with its ID, once for each time
it was acknowledged, or is the command the relay holds, to be received next. -/
def Delivered (s : OperatorSystem) : Prop :=
  ∀ planeID, (s.acknowledgedCommands planeID).Perm
    (s.receivedCommands planeID ++ heldCommand planeID s.relay.phase)

/-! ## The accounts of the parties -/

theorem filterMap_finish (c : Console) (cmd : ConsoleCommand) (result : ConsoleResult)
    (planeID : Int32) :
    (c.finish cmd result).results.filterMap (acknowledged planeID) =
      c.results.filterMap (acknowledged planeID) ++
        (acknowledged planeID (cmd, result)).toList := by
  rw [Console.finish, List.filterMap_append]
  cases h : acknowledged planeID (cmd, result) <;> simp [h]

/-- An answer to an info request is no acknowledgement of a command. -/
theorem filterMap_released (c : Console) (augmented status : Bool) (reply : MessageInterProcess)
    (planeID : Int32) : (c.released augmented status reply).results.filterMap
      (acknowledged planeID) = c.results.filterMap (acknowledged planeID) := by
  unfold Console.released
  split
  · rename_i cmd _
    have none_ : acknowledged planeID (cmd, Console.infoResult status reply) = none := by
      unfold Console.infoResult
      split
      · rfl
      · split <;> rfl
    rw [filterMap_finish, none_]
    exact List.append_nil _
  · rfl

theorem filterMap_readLine (c : Console) (connected : Bool) (planeID : Int32) :
    (c.readLine connected).results.filterMap (acknowledged planeID) =
      c.results.filterMap (acknowledged planeID) := by
  unfold Console.readLine
  split
  · rfl
  · split
    · rfl
    · split
      · rfl
      · rw [filterMap_finish]
        exact List.append_nil _

theorem results_released (c : Console) (augmented status : Bool) (reply : MessageInterProcess) :
    c.results <+: (c.released augmented status reply).results := by
  unfold Console.released
  split
  · exact List.prefix_append _ _
  · exact List.prefix_rfl

theorem results_readLine (c : Console) (connected : Bool) :
    c.results <+: (c.readLine connected).results := by
  unfold Console.readLine
  split
  · exact List.prefix_rfl
  · split
    · exact List.prefix_rfl
    · split
      · exact List.prefix_rfl
      · exact List.prefix_append _ _

theorem results_relayReceive {s s' : OperatorSystem} (h : s.step .relayReceive = some s') :
    s.console.results <+: s'.console.results := by
  obtain ⟨cmd, msg, _, _, outcome⟩ := relayReceive_spec h
  rcases outcome with ⟨_, rfl⟩ | ⟨_, rfl⟩ | ⟨_, _, rfl⟩
  · exact List.prefix_append _ _
  · exact List.prefix_rfl
  · exact List.prefix_append _ _

/-- The console never takes back what it reported. -/
theorem results_step {s s' : OperatorSystem} {label : Label} (h : s.step label = some s') :
    s.console.results <+: s'.console.results := by
  cases step_spec h with
  | relayReceive => exact results_relayReceive h
  | atc | relayError | relayOpened => exact List.prefix_rfl
  | readLine connected at_ => exact results_readLine s.console connected
  | sendFails | computerReceive => exact List.prefix_append _ _
  | relayGivesUp | relayDeliver => exact results_released ..

/-- A step of an aircraft adds what its operator's messages gained. -/
theorem receivedCommands_set {s s' : OperatorSystem} {i : Nat} {t t' : AircraftThread}
    {more : List MessageInterProcess} (at_ : s.atc.threads[i]? = some t)
    (threads : s'.atc.threads = s.atc.threads.set i t') (id : t'.aircraft.id = t.aircraft.id)
    (grown : t'.commandMessages = t.commandMessages ++ more) (planeID : Int32) :
    (s'.receivedCommands planeID).Perm
      (s.receivedCommands planeID ++ if t.aircraft.id = planeID then more else []) := by
  unfold receivedCommands
  rw [threads]
  refine Pool.flatMap_set_perm at_ ?_
  rw [id]
  split
  · exact grown
  · rfl

/-- A message handed over is received by the aircraft it is for, if it is a command. -/
theorem receivedCommands_deliver {s s' : OperatorSystem} {i : Nat} {t : AircraftThread}
    {augmented : Bool} {msg : Message} (place : s.atc.threads[i]? = some t)
    (own : t.aircraft.id = msg.planeID)
    (next : s.atc.step (.aircraft i (.received (.message (ipcMessage msg)))) = some s'.atc)
    (kind : msg.type = .requestAugmentedInfo ↔ augmented = true) (planeID : Int32) :
    (s'.receivedCommands planeID).Perm
      (s.receivedCommands planeID ++ heldCommand planeID (.sending augmented msg)) := by
  have same : (ipcMessage msg).type = msg.type := rfl
  generalize atc : s'.atc = next' at next
  cases AirTrafficControl.step_spec next with
  | aircraft _ _ u t' at_ may taken =>
      rw [place, Option.some.injEq] at at_
      subst at_
      have grown := AircraftThread.step_commandMessages rfl taken
      have received := receivedCommands_set place (congrArg AirTrafficControl.threads atc)
        (AircraftThread.step_id taken) grown planeID
      rw [own, same] at received
      refine received.trans (.of_eq ?_)
      cases augmented with
      | true => simp [heldCommand, kind.mpr rfl]
      | false => simp [heldCommand, show msg.type ≠ .requestAugmentedInfo by simp [kind]]

theorem receivedCommands_local {s s' : OperatorSystem} {label : AirTrafficControl.Label}
    (own : Local label) (h : s.atc.step label = some s'.atc) (planeID : Int32) :
    (s'.receivedCommands planeID).Perm (s.receivedCommands planeID) := by
  rcases AirTrafficControl.step_moves_thread h with same | ⟨i, t, input, t', at_, next, moved⟩
  · unfold receivedCommands
    rw [same]
  · have bound := (List.getElem?_eq_some_iff.mp at_).1
    obtain ⟨u, was, untouched⟩ :=
      local_step own h i t' (by rw [moved, List.getElem?_set_self bound])
    rw [at_, Option.some.injEq] at was
    subst was
    have kept : t'.commandMessages = t.commandMessages ++ [] := by
      rw [AircraftThread.commandMessages, untouched.messages, List.append_nil]
      rfl
    simpa using receivedCommands_set at_ moved untouched.id kept planeID

/-- A step that acknowledges nothing, delivers nothing and changes no held command. -/
theorem Delivered.of_same {s s' : OperatorSystem} (h : s.Delivered)
    (results : ∀ planeID, s'.acknowledgedCommands planeID = s.acknowledgedCommands planeID)
    (received : ∀ planeID, (s'.receivedCommands planeID).Perm (s.receivedCommands planeID))
    (held : ∀ planeID,
      heldCommand planeID s'.relay.phase = heldCommand planeID s.relay.phase) : s'.Delivered := by
  intro planeID
  rw [results, held]
  exact (h planeID).trans ((received planeID).symm.append_right _)

/-! ## Runs in which the target is there and stays -/

/-- When the relay opens the channel for a command the target is in its loop, and until
the command is handed over no step takes it out of its loop. -/
def targetStays (s : OperatorSystem) : Label → Bool
  | .relayOpen _ =>
      match s.relay.phase with
      | .opening false msg => s.atc.Serves msg.planeID
      | _ => true
  | .atc label =>
      match s.relay.phase with
      | .sending false msg => !s.atc.takesAway msg.planeID label
      | _ => true
  | _ => true

structure AcknowledgedInvariant (s : OperatorSystem) : Prop where
  delivered : s.Delivered
  serves : ∀ msg, s.relay.phase = .sending false msg → s.atc.Serves msg.planeID
  kind : ∀ augmented msg,
    s.relay.phase = .opening augmented msg ∨ s.relay.phase = .sending augmented msg →
      (msg.type = .requestAugmentedInfo ↔ augmented = true)
  offers : ∀ cmd server msg, s.console.phase = .sending cmd server msg →
    cmd.request = some (server, msg)

theorem acknowledgedInvariant_start (planeData : List PlaneData) (lines : List ConsoleCommand) :
    AcknowledgedInvariant (start planeData lines) := by
  have nothing : ∀ planeID, (start planeData lines).receivedCommands planeID = [] := by
    intro planeID
    apply List.flatMap_eq_nil_iff.mpr
    intro t mem
    obtain ⟨data, _, rfl⟩ := List.mem_map.mp mem
    split <;> rfl
  refine ⟨?_, by simp [start], by simp [start], by simp [start]⟩
  intro planeID
  rw [nothing]
  exact .refl _

theorem not_exit_of_request {cmd : ConsoleCommand} {msg : MessageInterProcess}
    (h : cmd.request = some (.comms, msg)) : msg.type ≠ .exit := by
  cases cmd <;> cases h <;> simp [commandMessage]

theorem arrives_of_request {cmd : ConsoleCommand} {msg : MessageInterProcess}
    (h : cmd.request = some (.comms, msg)) (planeID : Int32) :
    arrives planeID cmd = addressed planeID msg := by
  simp [arrives, toComms, h]

theorem arrives_of_computer {cmd : ConsoleCommand} {msg : MessageInterProcess}
    (h : cmd.request = some (.computer, msg)) (planeID : Int32) : arrives planeID cmd = none := by
  simp [arrives, toComms, h]

theorem toAircraft_type (msg : MessageInterProcess) : (toAircraft msg).type = msg.type := by
  unfold toAircraft
  split <;> rfl

/-- What the relay takes up is acknowledged and held in one step. -/
theorem AcknowledgedInvariant.relayReceive {s s' : OperatorSystem} (inv : AcknowledgedInvariant s)
    (h : s.step .relayReceive = some s') : AcknowledgedInvariant s' := by
  obtain ⟨cmd, msg, at_, free, outcome⟩ := relayReceive_spec h
  have request := inv.offers cmd .comms msg at_
  have idle : ∀ planeID, heldCommand planeID s.relay.phase = [] := by
    intro planeID
    rw [free]
    rfl
  rcases outcome with ⟨exits, _⟩ | ⟨augmented, rfl⟩ | ⟨_, command, rfl⟩
  · exact absurd exits (not_exit_of_request request)
  · refine ⟨?_, by simp, ?_, by simp⟩
    · exact inv.delivered.of_same (fun _ => rfl) (fun _ => .refl _) fun planeID =>
        (idle planeID).symm
    · intro _ _ opening
      rcases opening with ⟨⟨⟩⟩ | sending
      · simp [toAircraft_type, augmented]
      · cases sending
  · refine ⟨?_, by simp, ?_, by simp [Console.finish]⟩
    · intro planeID
      have delivered := inv.delivered planeID
      have taken : acknowledged planeID (cmd, .sent) = addressed planeID msg :=
        arrives_of_request request planeID
      have holds : heldCommand planeID (.opening false (toAircraft msg)) =
          (addressed planeID msg).toList := held_opening planeID false msg
      rw [idle, List.append_nil] at delivered
      simp only [acknowledgedCommands, filterMap_finish, taken, holds]
      exact delivered.append_right _
    · intro _ _ opening
      rcases opening with ⟨⟨⟩⟩ | sending
      · simp [toAircraft_type, command]
      · cases sending

/-- As long as targets stay, the channel of a command can be opened. -/
theorem info_of_notOpened {s : OperatorSystem} {augmented : Bool} {msg : Message}
    (stays : s.targetStays (.relayOpen false) = true)
    (at_ : s.relay.phase = .opening augmented msg) (gone : ¬ s.atc.Attached msg.planeID) :
    augmented = true := by
  by_contra command
  rw [Bool.not_eq_true] at command
  subst command
  have serves : s.atc.Serves msg.planeID := by simpa [targetStays, at_] using stays
  exact gone serves.attached

/-- As long as targets stay, the `MsgSend` of a command does not fail. -/
theorem AcknowledgedInvariant.info_of_sendFails {s : OperatorSystem} {augmented : Bool}
    {msg : Message} (inv : AcknowledgedInvariant s)
    (at_ : s.relay.phase = .sending augmented msg) (gone : ¬ s.atc.Attached msg.planeID) :
    augmented = true := by
  by_contra command
  rw [Bool.not_eq_true] at command
  subst command
  exact gone (inv.serves msg at_).attached

theorem offers_readLine {c : Console} {connected : Bool} {cmd : ConsoleCommand} {server : Server}
    {msg : MessageInterProcess}
    (h : (c.readLine connected).phase = .sending cmd server msg) :
    cmd.request = some (server, msg) := by
  unfold Console.readLine at h
  split at h
  · cases h
  · split at h
    · cases h
    · rename_i request
      split at h
      · cases h
        exact request
      · cases h

theorem offers_released {c : Console} {augmented status : Bool} {reply : MessageInterProcess}
    {cmd : ConsoleCommand} {server : Server} {msg : MessageInterProcess}
    (h : (c.released augmented status reply).phase = .sending cmd server msg) :
    c.phase = .sending cmd server msg := by
  unfold Console.released at h
  split at h
  · cases h
  · exact h

/-- The relay gives up an info request, of which no account is kept. -/
theorem AcknowledgedInvariant.givesUp {s : OperatorSystem} (inv : AcknowledgedInvariant s)
    {msg : Message} (at_ : s.relay.phase = .opening true msg ∨ s.relay.phase = .sending true msg) :
    AcknowledgedInvariant { s with
      relay := { s.relay with phase := .receiving }
      console := s.console.released true false MessageInterProcess.zero } := by
  refine ⟨?_, by simp, by simp, fun _ _ _ sending => inv.offers _ _ _ (offers_released sending)⟩
  refine inv.delivered.of_same (filterMap_released _ _ _ _) (fun _ => .refl _) fun planeID => ?_
  rcases at_ with opening | sending
  · rw [opening]
    rfl
  · rw [sending]
    rfl

/-- The relay opens the channel of an aircraft that serves. -/
theorem AcknowledgedInvariant.relayOpened {s : OperatorSystem} (inv : AcknowledgedInvariant s)
    {augmented : Bool} {msg : Message} (stays : s.targetStays (.relayOpen true) = true)
    (at_ : s.relay.phase = .opening augmented msg) :
    AcknowledgedInvariant { s with
      relay := { s.relay with phase := .sending augmented msg } } := by
  refine ⟨?_, ?_, ?_, inv.offers⟩
  · refine inv.delivered.of_same (fun _ => rfl) (fun _ => .refl _) fun planeID => ?_
    rw [at_]
    cases augmented <;> rfl
  · intro msg' sending
    cases sending
    simpa [targetStays, at_] using stays
  · intro augmented' msg' sending
    rcases sending with opening | sending
    · cases opening
    · cases sending
      exact inv.kind augmented msg (.inl at_)

theorem acknowledgedInvariant_step (s : OperatorSystem) (label : Label) (s' : OperatorSystem)
    (inv : AcknowledgedInvariant s) (stays : s.targetStays label = true)
    (h : s.step label = some s') : AcknowledgedInvariant s' := by
  cases label with
  | atc label =>
      obtain ⟨own, atc, next, rfl⟩ := atc_spec h
      refine ⟨?_, ?_, inv.kind, inv.offers⟩
      · exact inv.delivered.of_same (fun _ => rfl) (receivedCommands_local own next) fun _ => rfl
      · intro msg at_
        have kept : s.atc.takesAway msg.planeID label = false := by
          simpa [targetStays, show s.relay.phase = .sending false msg from at_] using stays
        exact (inv.serves msg at_).step kept next
  | readLine connected =>
      obtain ⟨at_, rfl⟩ := readLine_spec h
      refine ⟨?_, inv.serves, inv.kind, fun _ _ _ => offers_readLine⟩
      exact inv.delivered.of_same (filterMap_readLine s.console connected) (fun _ => .refl _)
        fun _ => rfl
  | sendFails =>
      obtain ⟨cmd, server, msg, at_, rfl⟩ := sendFails_spec h
      refine ⟨?_, inv.serves, inv.kind, by simp [Console.finish]⟩
      refine inv.delivered.of_same (fun planeID => ?_) (fun _ => .refl _) fun _ => rfl
      exact (filterMap_finish ..).trans (List.append_nil _)
  | computerReceive =>
      obtain ⟨cmd, msg, at_, rfl⟩ := computerReceive_spec h
      refine ⟨?_, inv.serves, inv.kind, by simp [Console.finish]⟩
      refine inv.delivered.of_same (fun planeID => ?_) (fun _ => .refl _) fun _ => rfl
      have other : acknowledged planeID (cmd, .sent) = none :=
        arrives_of_computer (inv.offers cmd .computer msg at_) planeID
      rw [acknowledgedCommands, filterMap_finish, other]
      exact List.append_nil _
  | relayReceive => exact inv.relayReceive h
  | relayError =>
      obtain ⟨free, rfl⟩ := relayError_spec h
      refine ⟨?_, by simp, by simp, inv.offers⟩
      refine inv.delivered.of_same (fun _ => rfl) (fun _ => .refl _) fun planeID => ?_
      rw [free]
      rfl
  | relayOpen ok =>
      obtain ⟨augmented, msg, at_, may, rfl⟩ := relayOpen_spec h
      cases ok with
      | true => exact inv.relayOpened stays at_
      | false =>
          have gone : ¬ s.atc.Attached msg.planeID := fun attached =>
            absurd (may.mpr attached) (by decide)
          obtain rfl := info_of_notOpened stays at_ gone
          exact inv.givesUp (.inl at_)
  | relaySendFails =>
      obtain ⟨augmented, msg, at_, gone, rfl⟩ := relaySendFails_spec h
      obtain rfl := inv.info_of_sendFails at_ gone
      exact inv.givesUp (.inr at_)
  | relayDeliver i =>
      obtain ⟨augmented, msg, t, atc, at_, place, own, next, rfl⟩ := relayDeliver_spec h
      refine ⟨?_, by simp, by simp, fun _ _ _ sending => inv.offers _ _ _ (offers_released sending)⟩
      intro planeID
      have delivered := inv.delivered planeID
      rw [acknowledgedCommands, filterMap_released]
      refine delivered.trans ?_
      rw [at_]
      exact ((receivedCommands_deliver place own next (inv.kind augmented msg (.inr at_))
        planeID).symm.trans (.of_eq (List.append_nil _).symm))

/-- While targets stay, in every state a run reaches the acknowledged commands for an ID
are the ones its aircraft received and the one the relay holds for it, which it can only
hand over to an aircraft in its loop; so in every later state in which the relay is free
they have all been received. -/
theorem acknowledged_delivered (planeData : List PlaneData) (lines : List ConsoleCommand)
    (labels : List Label) (s : OperatorSystem)
    (run : Machine.run step (start planeData lines) labels = some s)
    (stay : Machine.Along step (fun s label => s.targetStays label = true)
      (start planeData lines) labels) :
    s.Delivered ∧
    (∀ msg, s.relay.phase = .sending false msg → s.atc.Serves msg.planeID) ∧
    ∀ more s', Machine.run step s more = some s' →
      Machine.Along step (fun s label => s.targetStays label = true) s more →
      (∀ planeID, heldCommand planeID s'.relay.phase = []) →
        ∀ planeID, (s.acknowledgedCommands planeID).Subperm (s'.receivedCommands planeID) := by
  have inv := Machine.run_invariant_along acknowledgedInvariant_step
    (acknowledgedInvariant_start planeData lines) stay run
  refine ⟨inv.delivered, inv.serves, ?_⟩
  intro more s' run' stay' idle planeID
  have inv' := Machine.run_invariant_along acknowledgedInvariant_step inv stay' run'
  have all := inv'.delivered planeID
  rw [idle, List.append_nil] at all
  have grown : s.console.results <+: s'.console.results :=
    Machine.run_invariant (P := fun s' => s.console.results <+: s'.console.results)
      (fun _ _ _ before next => before.trans (results_step next)) List.prefix_rfl run'
  exact (grown.sublist.filterMap (acknowledged planeID)).subperm.trans all.subperm

/-- A heading for plane 99, which does not exist. -/
theorem acknowledged_lost :
    ¬ ∀ (planeData : List PlaneData) (lines : List ConsoleCommand) (labels : List Label)
        (s : OperatorSystem), Machine.run step (start planeData lines) labels = some s →
          s.Delivered := by
  intro claim
  obtain ⟨s, run, test⟩ := Machine.exists_of_map_run step (start [] [.changeHeading 99 100 0 0])
    [.readLine true, .relayReceive, .relayOpen false]
    (fun s => decide ((s.acknowledgedCommands 99).length = 1 ∧
      (s.receivedCommands 99 ++ heldCommand 99 s.relay.phase).length = 0))
    (by decide +kernel)
  obtain ⟨one, none_⟩ := of_decide_eq_true test
  have equal := (claim _ _ _ s run 99).length_eq
  omega

/-- One aircraft enters and is sent a heading, which it has received in the end. -/
theorem acknowledged_delivered_heading :
    ∃ s, Machine.run step (start [⟨0, 7, 50000, 50000, 20000, 100, 0, 0⟩]
        [.changeHeading 7 0 50 0]) (twoCommands.take 12) = some s ∧
      (s.acknowledgedCommands 7).length = 1 ∧
      (s.acknowledgedCommands 7).Perm (s.receivedCommands 7) := by
  obtain ⟨s, run, test⟩ := Machine.exists_of_map_run step
    (start [⟨0, 7, 50000, 50000, 20000, 100, 0, 0⟩] [.changeHeading 7 0 50 0])
    (twoCommands.take 12)
    (fun s => decide ((s.acknowledgedCommands 7).length = 1 ∧
      heldCommand 7 s.relay.phase = []))
    (by decide +kernel)
  obtain ⟨one, idle⟩ := of_decide_eq_true test
  have all := (acknowledged_delivered _ _ (twoCommands.take 12) s run (by decide +kernel)).1 7
  rw [idle, List.append_nil] at all
  exact ⟨s, run, one, all⟩

end OperatorSystem

end QnxAtc
