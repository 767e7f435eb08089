import QnxAtc.Operator.System

/-! # Delivery of operator commands

A line goes through three hands, and each of them holds one message at a time: what a
hand has passed on, followed by what it still holds, is a subsequence of what it was
given. Chained, the commands an aircraft handles are a subsequence of the lines typed
for it, whatever the relay had to give up on the way.
-/

namespace QnxAtc

/-! ## What an aircraft received -/

def Event.received? : Event → Option MessageInterProcess
  | .received buffer => some buffer
  | _ => none

/-- The message an input hands to the thread. -/
def Input.message? : Input → Option MessageInterProcess
  | .received (.message buffer) => some buffer
  | _ => none

namespace AircraftThread

def receivedMessages (t : AircraftThread) : List MessageInterProcess :=
  t.log.filterMap Event.received?

/-- The inter-process messages an aircraft handled, in order. -/
def operatorMessages (t : AircraftThread) : List MessageInterProcess :=
  t.receivedMessages.filter fun buffer => buffer.header

/-- Only a received message adds to what was received. -/
theorem step_receivedMessages {t t' : AircraftThread} {i : Input} (h : t.step i = some t') :
    t'.receivedMessages = t.receivedMessages ++ i.message?.toList := by
  cases step_spec h with
  | answer buffer hp => simp [receivedMessages, answered, Event.received?, Input.message?]
  | move hp =>
      unfold moved
      split <;> simp [receivedMessages, Event.received?, Input.message?]
  | enter c hp due => simp [receivedMessages, Event.received?, Input.message?]
  | tick | noRadar | enterSent | attach | exitSent | receiveError | receivePulse | wake
    | detach => exact (List.append_nil _).symm

end AircraftThread

namespace OperatorSystem

/-- An aircraft reads a message as intra-process only when it is Radar's request to it. -/
def OnlyPolls (t : AircraftThread) : Prop :=
  ∀ buffer ∈ t.receivedMessages, buffer.header = false →
    buffer = (requestPositionMessage t.aircraft.id).asBuffer

/-- Nothing of the operator's reached the aircraft in between. -/
structure Untouched (t t' : AircraftThread) : Prop where
  id : t'.aircraft.id = t.aircraft.id
  messages : t'.operatorMessages = t.operatorMessages
  polls : OnlyPolls t → OnlyPolls t'

theorem untouched_of_local {t t' : AircraftThread} {i : Input}
    (notMessage : i.message? = none) (h : t.step i = some t') : Untouched t t' := by
  have id := AircraftThread.step_id h
  have same : t'.receivedMessages = t.receivedMessages := by
    rw [AircraftThread.step_receivedMessages h, notMessage]
    exact List.append_nil _
  refine ⟨id, by rw [AircraftThread.operatorMessages, same]; rfl, ?_⟩
  intro only
  unfold OnlyPolls
  rw [same, id]
  exact only

theorem untouched_of_poll {t t' : AircraftThread}
    (h : t.step (.received (.message (requestPositionMessage t.aircraft.id).asBuffer))
      = some t') : Untouched t t' := by
  have id := AircraftThread.step_id h
  have more := AircraftThread.step_receivedMessages h
  refine ⟨id, ?_, ?_⟩
  · rw [AircraftThread.operatorMessages, more, List.filter_append]
    exact List.append_nil _
  · intro only
    unfold OnlyPolls
    rw [more, id]
    intro buffer mem periodic
    rcases List.mem_append.mp mem with old | new
    · exact only buffer old periodic
    · exact List.mem_singleton.mp new

/-- A step that is not the relay's leaves the operator's messages of every aircraft alone. -/
theorem local_step {s s' : AirTrafficControl} {label : AirTrafficControl.Label}
    (own : Local label) (h : s.step label = some s') (i : Nat) (t' : AircraftThread)
    (place : s'.threads[i]? = some t') : ∃ t, s.threads[i]? = some t ∧ Untouched t t' := by
  have move : ∀ (j : Nat) (t u : AircraftThread), s.threads[j]? = some t → Untouched t u →
      (s.threads.set j u)[i]? = some t' → ∃ t, s.threads[i]? = some t ∧ Untouched t t' := by
    intro j t u at_ moved place
    rcases Pool.getElem?_set_cases place with ⟨rfl, rfl⟩ | ⟨_, old⟩
    · exact ⟨t, at_, moved⟩
    · exact ⟨t', old, rfl, rfl, fun only => only⟩
  cases AirTrafficControl.step_spec h with
  | aircraft j input t u at_ may next =>
      refine move j t u at_ (untouched_of_local ?_ next) place
      unfold Input.message?
      split
      · exact own.elim
      · rfl
  | radar label r may next => exact ⟨t', place, rfl, rfl, fun only => only⟩
  | send j t u msg r at_ pending next received =>
      exact move j t u at_ (untouched_of_local rfl next) place
  | poll j t u planeID rest r info at_ blocked same next reply answered =>
      subst same
      exact move j t u at_ (untouched_of_poll next) place

/-- The relay's delivery adds its message to one aircraft. -/
theorem deliver_step {s s' : AirTrafficControl} {i : Nat} {t : AircraftThread}
    {buffer : MessageInterProcess} (header : buffer.header = true)
    (at_ : s.threads[i]? = some t)
    (h : s.step (.aircraft i (.received (.message buffer))) = some s') (j : Nat)
    (t' : AircraftThread) (place : s'.threads[j]? = some t') :
    (∃ u, s.threads[j]? = some u ∧ Untouched u t') ∨
      (t'.aircraft.id = t.aircraft.id ∧
        t'.operatorMessages = t.operatorMessages ++ [buffer] ∧ (OnlyPolls t → OnlyPolls t')) := by
  cases AirTrafficControl.step_spec h with
  | aircraft _ _ u u' same may next =>
      rw [at_, Option.some.injEq] at same
      subst same
      rcases Pool.getElem?_set_cases place with ⟨rfl, rfl⟩ | ⟨_, old⟩
      · refine .inr ⟨AircraftThread.step_id next, ?_⟩
        have more := AircraftThread.step_receivedMessages next
        constructor
        · rw [AircraftThread.operatorMessages, more, List.filter_append]
          simp [AircraftThread.operatorMessages, Input.message?, header]
        · intro only
          unfold OnlyPolls
          rw [more, AircraftThread.step_id next]
          intro received mem periodic
          rcases List.mem_append.mp mem with old | new
          · exact only received old periodic
          · rw [List.mem_singleton.mp new, header] at periodic
            cases periodic
      · exact .inl ⟨t', old, rfl, rfl, fun only => only⟩

/-! ## The three hands -/

/-- The message a line sends to the relay. -/
def toComms (cmd : ConsoleCommand) : Option MessageInterProcess :=
  match cmd.request with
  | some (.comms, msg) => some msg
  | _ => none

/-- What the console is offering to the relay. -/
def offered : ConsolePhase → List MessageInterProcess
  | .sending _ .comms msg => [msg]
  | _ => []

/-- What the relay holds for the aircraft with a given ID. -/
def held (planeID : Int32) : RelayPhase → List MessageInterProcess
  | .opening _ msg | .sending _ msg => if msg.planeID = planeID then [ipcMessage msg] else []
  | _ => []

/-- What an accepted message becomes for the aircraft with a given ID. -/
def addressed (planeID : Int32) (msg : MessageInterProcess) : Option MessageInterProcess :=
  if msg.planeID = planeID then some (forwarded msg) else none

structure DeliveryInvariant (lines : List ConsoleCommand) (s : OperatorSystem) : Prop where
  typed : s.console.typed ++ s.console.lines = lines
  accepted : (s.relay.accepted ++ offered s.console.phase).Sublist
    (s.console.typed.filterMap toComms)
  delivered : ∀ (i : Nat) (t : AircraftThread), s.atc.threads[i]? = some t →
    (t.operatorMessages ++ held t.aircraft.id s.relay.phase).Sublist
      (s.relay.accepted.filterMap (addressed t.aircraft.id))
  polls : ∀ (i : Nat) (t : AircraftThread), s.atc.threads[i]? = some t → OnlyPolls t

theorem deliveryInvariant_start (planeData : List PlaneData) (lines : List ConsoleCommand) :
    DeliveryInvariant lines (start planeData lines) := by
  have fresh : ∀ (i : Nat) (t : AircraftThread),
      (start planeData lines).atc.threads[i]? = some t → t.receivedMessages = [] := by
    intro i t place
    obtain ⟨data, _, rfl⟩ := List.mem_map.mp (List.mem_of_getElem? place)
    rfl
  refine ⟨rfl, .slnil, ?_, ?_⟩
  · intro i t place
    rw [AircraftThread.operatorMessages, fresh i t place]
    exact .slnil
  · intro i t place buffer mem
    rw [fresh i t place] at mem
    cases mem

/-- A message that is dropped leaves a subsequence. -/
theorem sublist_of_append {l held sent : List MessageInterProcess}
    (h : (l ++ held).Sublist sent) : l.Sublist sent :=
  (List.sublist_append_left l held).trans h

/-- What is passed on for one more item given is at most what that item becomes. -/
theorem append_of_filterMap {α : Type} {f : α → Option MessageInterProcess} {given : List α}
    {a : α} {sent extra : List MessageInterProcess} (h : sent.Sublist (given.filterMap f))
    (part : extra.Sublist (f a).toList) :
    (sent ++ extra).Sublist ((given ++ [a]).filterMap f) := by
  have one : [a].filterMap f = (f a).toList := by
    cases ha : f a <;> simp [ha]
  rw [List.filterMap_append, one]
  exact h.append part

theorem released_typed (c : Console) (augmented status : Bool) (reply : MessageInterProcess) :
    (c.released augmented status reply).typed = c.typed ∧
      (c.released augmented status reply).lines = c.lines := by
  unfold Console.released
  split <;> exact ⟨rfl, rfl⟩

/-- An answer to the console takes back nothing that it is offering. -/
theorem offered_released (c : Console) (augmented status : Bool) (reply : MessageInterProcess) :
    offered (c.released augmented status reply).phase = offered c.phase := by
  unfold Console.released
  split
  · rename_i cmd at_
    rw [at_]
    rfl
  · rfl

theorem held_opening (planeID : Int32) (augmented : Bool) (msg : MessageInterProcess) :
    held planeID (.opening augmented (toAircraft msg)) = (addressed planeID msg).toList := by
  have same : (toAircraft msg).planeID = msg.planeID := by
    unfold toAircraft
    split <;> rfl
  simp only [held, addressed, same]
  split <;> rfl

theorem offered_sending {cmd : ConsoleCommand} {server : Server} {msg : MessageInterProcess}
    (h : cmd.request = some (server, msg)) :
    offered (.sending cmd server msg) = (toComms cmd).toList := by
  cases server <;> simp [offered, toComms, h]

/-- Reading a line offers at most its message. -/
theorem DeliveryInvariant.readLine {lines : List ConsoleCommand} {s : OperatorSystem}
    (h : DeliveryInvariant lines s) (at_ : s.console.phase = .reading) (connected : Bool) :
    DeliveryInvariant lines { s with console := s.console.readLine connected } := by
  have accepted := h.accepted
  have typed := h.typed
  rw [at_] at accepted
  have before : s.relay.accepted.Sublist (s.console.typed.filterMap toComms) :=
    sublist_of_append accepted
  suffices console : (s.console.readLine connected).typed ++
      (s.console.readLine connected).lines = lines ∧
      (s.relay.accepted ++ offered (s.console.readLine connected).phase).Sublist
        ((s.console.readLine connected).typed.filterMap toComms) from
    ⟨console.1, console.2, h.delivered, h.polls⟩
  unfold Console.readLine
  split
  · exact ⟨typed, accepted⟩
  · rename_i cmd rest hlines
    rw [hlines] at typed
    have read : (s.console.typed ++ [cmd]) ++ rest = lines := by simpa using typed
    split
    · exact ⟨read, append_of_filterMap before (List.nil_sublist _)⟩
    · rename_i server msg request
      split
      · refine ⟨read, append_of_filterMap before ?_⟩
        rw [offered_sending request]
      · exact ⟨read, append_of_filterMap before (List.nil_sublist _)⟩

theorem deliveryInvariant_step {lines : List ConsoleCommand} (s : OperatorSystem) (label : Label)
    (s' : OperatorSystem) (h : DeliveryInvariant lines s) (hstep : s.step label = some s') :
    DeliveryInvariant lines s' := by
  have accepted := h.accepted
  cases step_spec hstep with
  | atc label own atc next =>
      refine ⟨h.typed, accepted, ?_, ?_⟩
      · intro i t' place
        obtain ⟨t, was, same⟩ := local_step own next i t' place
        rw [same.id, same.messages]
        exact h.delivered i t was
      · intro i t' place
        obtain ⟨t, was, same⟩ := local_step own next i t' place
        exact same.polls (h.polls i t was)
  | readLine connected at_ => exact h.readLine at_ connected
  | sendFails cmd server msg at_ =>
      have kept := sublist_of_append accepted
      exact ⟨h.typed, by simpa [Console.finish, offered] using kept, h.delivered, h.polls⟩
  | computerReceive cmd msg at_ =>
      have kept := sublist_of_append accepted
      exact ⟨h.typed, by simpa [Console.finish, offered] using kept, h.delivered, h.polls⟩
  | relayReceive cmd msg at_ free console sameTyped sameLines served phase goesOn =>
      have nothing : offered console.phase = [] := by
        rcases served with reading | awaiting
        · rw [reading]
          rfl
        · rw [awaiting]
          rfl
      rw [at_] at accepted
      refine ⟨?_, ?_, ?_, h.polls⟩
      · rw [sameTyped, sameLines]
        exact h.typed
      · rw [nothing, sameTyped, List.append_nil]
        exact accepted
      · intro i t place
        apply append_of_filterMap (sublist_of_append (h.delivered i t place))
        rcases goesOn with rfl | ⟨augmented, rfl⟩
        · exact List.nil_sublist _
        · rw [held_opening]
  | relayError free =>
      refine ⟨h.typed, accepted, ?_, h.polls⟩
      intro i t place
      simpa [held] using sublist_of_append (h.delivered i t place)
  | relayOpened augmented msg at_ =>
      refine ⟨h.typed, accepted, ?_, h.polls⟩
      intro i t place
      have delivered := h.delivered i t place
      rw [at_] at delivered
      exact delivered
  | relayGivesUp _ augmented msg at_ =>
      obtain ⟨sameTyped, sameLines⟩ :=
        released_typed s.console augmented false MessageInterProcess.zero
      refine ⟨?_, ?_, ?_, h.polls⟩
      · rw [sameTyped, sameLines]
        exact h.typed
      · rw [sameTyped, offered_released]
        exact accepted
      · intro i t place
        simpa [held] using sublist_of_append (h.delivered i t place)
  | relayDeliver i augmented msg t at_ was own atc next status reply =>
      obtain ⟨sameTyped, sameLines⟩ := released_typed s.console augmented status reply
      refine ⟨?_, ?_, ?_, ?_⟩
      · rw [sameTyped, sameLines]
        exact h.typed
      · rw [sameTyped, offered_released]
        exact accepted
      · intro j t' place
        rcases deliver_step rfl was next j t' place with ⟨u, old, same⟩ | ⟨id, messages, _⟩
        · rw [same.id, same.messages]
          simpa [held] using sublist_of_append (h.delivered j u old)
        · have delivered := h.delivered i t was
          simp only [at_, held, own, if_true] at delivered
          rw [id, messages]
          simpa [held, own] using delivered
      · intro j t' place
        rcases deliver_step rfl was next j t' place with ⟨u, old, same⟩ | ⟨_, _, polls⟩
        · exact same.polls (h.polls j u old)
        · exact polls (h.polls i t was)

/-! ## From the typed line to the aircraft -/

/-- Exactly the lines typed for an aircraft go to the relay with its ID. -/
theorem toComms_spec (cmd : ConsoleCommand) :
    (∃ msg, cmd.request = some (.comms, msg) ∧ toComms cmd = some msg ∧
      cmd.target = some msg.planeID) ∨ toComms cmd = none ∧ cmd.target = none := by
  cases cmd with
  | changeHeading | changePosition | changeAltitude | requestAugmentedInfo =>
      exact .inl ⟨_, rfl, rfl, rfl⟩
  | changeTimeConstraint | exit => exact .inr ⟨rfl, rfl⟩

/-- What a line becomes for the aircraft with a given ID. -/
def arrives (planeID : Int32) (cmd : ConsoleCommand) : Option MessageInterProcess :=
  (toComms cmd).bind (addressed planeID)

theorem arrives_of_target {cmd : ConsoleCommand} {planeID : Int32}
    (own : cmd.target = some planeID) : ∃ m, arrives planeID cmd = some m ∧ Carries cmd m := by
  rcases toComms_spec cmd with ⟨msg, request, offers, target⟩ | ⟨_, target⟩
  · rw [own, Option.some.injEq] at target
    refine ⟨forwarded msg, ?_, carries_forwarded request⟩
    simp [arrives, offers, addressed, target]
  · rw [own] at target
    cases target

theorem arrives_of_not_target {cmd : ConsoleCommand} {planeID : Int32}
    (other : cmd.target ≠ some planeID) : arrives planeID cmd = none := by
  rcases toComms_spec cmd with ⟨msg, _, offers, target⟩ | ⟨offers, _⟩
  · have elsewhere : msg.planeID ≠ planeID := by
      intro same
      exact other (same ▸ target)
    simp [arrives, offers, addressed, elsewhere]
  · simp [arrives, offers]

/-- The lines typed for an aircraft, next to the messages they become. -/
theorem forall₂_arrives (planeID : Int32) (cmds : List ConsoleCommand) :
    List.Forall₂ (fun cmd m => Carries cmd m ∧ ∀ a : Aircraft, a.id = planeID →
        (a.handle m).aircraft = cmd.effect a)
      (cmds.filter fun cmd => cmd.target = some planeID) (cmds.filterMap (arrives planeID)) := by
  induction cmds with
  | nil => exact .nil
  | cons cmd cmds ih =>
      by_cases own : cmd.target = some planeID
      · obtain ⟨m, becomes, carries⟩ := arrives_of_target own
        rw [List.filter_cons_of_pos (by simpa using own), List.filterMap_cons_some becomes]
        refine .cons ⟨carries, ?_⟩ ih
        intro a same
        exact handle_of_carries carries a (by rw [own, same])
      · rw [List.filter_cons_of_neg (by simpa using own),
          List.filterMap_cons_none (arrives_of_not_target own)]
        exact ih

/-- Whatever the interleaving, the commands an aircraft has handled are a subsequence of
the lines typed for it: each arrives as the inter-process command of its kind with the
typed operands and has the effect of the line, and all that an aircraft reads as
intra-process are Radar's requests. -/
theorem commands_reach_target (planeData : List PlaneData) (lines : List ConsoleCommand)
    (labels : List Label) (s : OperatorSystem)
    (h : Machine.run step (start planeData lines) labels = some s) :
    s.console.typed <+: lines ∧
    ∀ t ∈ s.atc.threads,
      (∃ cmds, cmds.Sublist (s.console.typed.filter fun cmd => cmd.target = some t.aircraft.id) ∧
        List.Forall₂ (fun cmd m => Carries cmd m ∧ ∀ a : Aircraft, a.id = t.aircraft.id →
          (a.handle m).aircraft = cmd.effect a) cmds t.operatorMessages) ∧
      OnlyPolls t := by
  have inv := Machine.run_invariant deliveryInvariant_step
    (deliveryInvariant_start planeData lines) h
  refine ⟨⟨s.console.lines, inv.typed⟩, ?_⟩
  intro t mem
  obtain ⟨i, place⟩ := List.mem_iff_getElem?.mp mem
  refine ⟨?_, inv.polls i t place⟩
  have handed := sublist_of_append (inv.delivered i t place)
  have given := (sublist_of_append inv.accepted).filterMap (addressed t.aircraft.id)
  have chain := handed.trans given
  rw [List.filterMap_filterMap] at chain
  obtain ⟨cmds, typed, messages⟩ := List.sublist_filterMap_iff.mp chain
  refine ⟨cmds.filter fun cmd => cmd.target = some t.aircraft.id, typed.filter _, ?_⟩
  rw [messages]
  exact forall₂_arrives t.aircraft.id cmds

/-- Two lines for one aircraft, of which the relay delivers the first and is about to
deliver the second. -/
def twoCommands : List Label :=
  [.atc (.radar .attach), .atc (.aircraft 0 (.opened true)), .atc (.radar .arrivalLoop),
    .atc (.send 0), .atc (.radar .handle), .atc (.aircraft 0 (.attached true)),
    .atc (.aircraft 0 .move), .readLine true, .relayReceive, .readLine true, .relayOpen true,
    .relayDeliver 0, .relayReceive, .relayOpen true]

theorem commands_reach_target_twoCommands :
    ∃ s, Machine.run step (start [⟨0, 7, 50000, 50000, 20000, 100, 0, 0⟩]
        [.changeHeading 7 0 50 0, .changeAltitude 7 21000]) twoCommands = some s ∧
      ∃ t ∈ s.atc.threads, t.operatorMessages.length = 1 ∧
        ∃ cmds, cmds.Sublist
            (s.console.typed.filter fun cmd => cmd.target = some t.aircraft.id) ∧
          List.Forall₂ Carries cmds t.operatorMessages := by
  obtain ⟨s, hs, htest⟩ := Machine.exists_of_map_run step
    (start [⟨0, 7, 50000, 50000, 20000, 100, 0, 0⟩]
      [.changeHeading 7 0 50 0, .changeAltitude 7 21000]) twoCommands
    (fun s => decide (∃ t ∈ s.atc.threads, t.operatorMessages.length = 1))
    (by decide +kernel)
  obtain ⟨t, mem, one⟩ := of_decide_eq_true htest
  obtain ⟨cmds, sub, each⟩ := ((commands_reach_target _ _ twoCommands s hs).2 t mem).1
  exact ⟨s, hs, t, mem, one, cmds, sub, each.imp fun _ _ both => both.1⟩

end OperatorSystem

end QnxAtc
