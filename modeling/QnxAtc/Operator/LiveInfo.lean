import QnxAtc.Operator.Acknowledged

/-! # The outcome of a live-info request

Command 4 goes over two hops, and each hop has its own way to say that nothing came back:
a return code, a reply status, a size. What really happened to a request is read off the
steps of the relay and the aircraft, and compared with the branch the console ends in.
-/

namespace QnxAtc

/-! ## Outcomes and branches -/

/-- What became of a request, whatever the console makes of it. -/
inductive InfoOutcome where
  /-- an aircraft answered with a full record of its state -/
  | answered (record : MsgPlaneInfo)
  /-- the relay had no aircraft to ask, or got no full record -/
  | noRecord
  /-- the relay was not reached -/
  | notReached
deriving DecidableEq

namespace InfoOutcome

/-- The branch that is documented for an outcome. -/
def branch : InfoOutcome → ConsoleResult
  | .answered record => .info record
  | .noRecord => .noData
  | .notReached => .failed

/-- The branch the console ends in. The relay reports that it has no record by the status
of its reply, which `MsgSend` returns, so the size in that reply is never looked at. -/
def shown : InfoOutcome → ConsoleResult
  | .answered record => .info record
  | .noRecord => .failed
  | .notReached => .failed

theorem shown_eq_branch_iff (outcome : InfoOutcome) :
    outcome.shown = outcome.branch ↔ outcome ≠ .noRecord := by
  cases outcome <;> simp [shown, branch]

end InfoOutcome

/-- The `Message` the relay builds for a request. -/
def infoRequest (planeID : Int32) : Message := ⟨true, .requestAugmentedInfo, planeID, none, 0⟩

/-- The answer of an aircraft that the relay hands a message to. -/
def answerOf (a : Aircraft) (msg : Message) : InfoOutcome :=
  match (a.handle (ipcMessage msg)).reply.record? with
  | some _ => .answered a.planeInfo
  | none => .noRecord

/-- An aircraft in its loop answers every request with its state, and the relay and the
console pass the record on. -/
theorem infoResult_answer (a : Aircraft) (planeID : Int32) :
    let reply := outReply (a.handle (ipcMessage (infoRequest planeID))).reply
    Console.infoResult (sizeofMsgPlaneInfo ≤ reply.dataSize.toNat) reply =
      (answerOf a (infoRequest planeID)).shown := by
  have handled : a.handle (ipcMessage (infoRequest planeID)) =
      ⟨a, .interProcess a.augmentedReply, false⟩ := rfl
  have size : sizeofMsgPlaneInfo ≤ a.augmentedReply.dataSize.toNat :=
    Nat.le_refl sizeofMsgPlaneInfo
  have record : MsgPlaneInfo.ofBytes a.augmentedReply.data.toList = a.planeInfo :=
    MsgPlaneInfo.ofBytes_overwrite _ _
  simp [answerOf, handled, outReply, Reply.record?, Console.infoResult, size, record,
    InfoOutcome.shown]

/-- The result of a line, when it is an info request. -/
def infoLine? : ConsoleCommand × ConsoleResult → Option (Int32 × ConsoleResult)
  | (.requestAugmentedInfo planeID, result) => some (planeID, result)
  | _ => none

namespace OperatorSystem

/-- The info requests that ended so far, as the console shows them. -/
def infoResults (s : OperatorSystem) : List (Int32 × ConsoleResult) :=
  s.console.results.filterMap infoLine?

/-- The info request that ends with a step, and what became of it. -/
def infoOutcome (s : OperatorSystem) (label : Label) : List (Int32 × InfoOutcome) :=
  match label, s.console.phase, s.relay.phase with
  | .readLine false, _, _ =>
      match s.console.lines with
      | .requestAugmentedInfo planeID :: _ => [(planeID, .notReached)]
      | _ => []
  | .sendFails, .sending (.requestAugmentedInfo planeID) _ _, _ => [(planeID, .notReached)]
  | .relayOpen false, _, .opening true msg => [(msg.planeID, .noRecord)]
  | .relaySendFails, _, .sending true msg => [(msg.planeID, .noRecord)]
  | .relayDeliver i, _, .sending true msg =>
      match s.atc.threads[i]? with
      | some t => [(msg.planeID, answerOf t.aircraft msg)]
      | none => []
  | _, _, _ => []

/-! ## The request in flight -/

/-- The console waits for the relay exactly while the relay is busy with its request. -/
inductive InfoPending : ConsolePhase → RelayPhase → Prop
  | idle {console : ConsolePhase} {relay : RelayPhase}
      (notAwaiting : ∀ cmd, console ≠ .awaiting cmd)
      (notInfo : ∀ msg, relay ≠ .opening true msg ∧ relay ≠ .sending true msg) :
      InfoPending console relay
  | opening (planeID : Int32) :
      InfoPending (.awaiting (.requestAugmentedInfo planeID)) (.opening true (infoRequest planeID))
  | sending (planeID : Int32) :
      InfoPending (.awaiting (.requestAugmentedInfo planeID)) (.sending true (infoRequest planeID))

structure InfoInvariant (s : OperatorSystem) : Prop where
  pending : InfoPending s.console.phase s.relay.phase
  offers : ∀ cmd server msg, s.console.phase = .sending cmd server msg →
    cmd.request = some (server, msg)

theorem infoInvariant_start (planeData : List PlaneData) (lines : List ConsoleCommand) :
    InfoInvariant (start planeData lines) :=
  ⟨.idle (by simp [start]) (by simp [start]), by simp [start]⟩

theorem InfoPending.notInfo {console : ConsolePhase} {relay : RelayPhase}
    (h : InfoPending console relay) (notAwaiting : ∀ cmd, console ≠ .awaiting cmd) (msg : Message) :
    relay ≠ .opening true msg ∧ relay ≠ .sending true msg := by
  cases h with
  | idle _ notInfo => exact notInfo msg
  | opening planeID | sending planeID => exact absurd rfl (notAwaiting _)

theorem InfoPending.notAwaiting {console : ConsolePhase} {relay : RelayPhase}
    (h : InfoPending console relay)
    (notInfo : ∀ msg, relay ≠ .opening true msg ∧ relay ≠ .sending true msg)
    (cmd : ConsoleCommand) : console ≠ .awaiting cmd := by
  cases h with
  | idle notAwaiting _ => exact notAwaiting cmd
  | opening planeID => exact absurd rfl (notInfo _).1
  | sending planeID => exact absurd rfl (notInfo _).2

/-- The console's request is the one the relay has in hand. -/
theorem InfoPending.of_info {console : ConsolePhase} {msg : Message} {relay : RelayPhase}
    (h : InfoPending console relay) (busy : relay = .opening true msg ∨ relay = .sending true msg) :
    ∃ planeID, console = .awaiting (.requestAugmentedInfo planeID) ∧ msg = infoRequest planeID := by
  cases h with
  | idle _ notInfo =>
      rcases busy with opening | sending
      · exact absurd opening (notInfo msg).1
      · exact absurd sending (notInfo msg).2
  | opening planeID =>
      rcases busy with opening | sending
      · cases opening
        exact ⟨planeID, rfl, rfl⟩
      · cases sending
  | sending planeID =>
      rcases busy with opening | sending
      · cases opening
      · cases sending
        exact ⟨planeID, rfl, rfl⟩

/-! ## One step -/

/-- The account of one step: what it shows is what ended in it. -/
def Accounts (s : OperatorSystem) (label : Label) (s' : OperatorSystem) : Prop :=
  InfoInvariant s' ∧
    s'.infoResults = s.infoResults ++ (s.infoOutcome label).map (Prod.map id InfoOutcome.shown)

theorem infoResults_finish (s s' : OperatorSystem) (cmd : ConsoleCommand) (result : ConsoleResult)
    (same : s'.console.results = s.console.results ++ [(cmd, result)]) :
    s'.infoResults = s.infoResults ++ (infoLine? (cmd, result)).toList := by
  rw [infoResults, infoResults, same, List.filterMap_append]
  cases h : infoLine? (cmd, result) <;> simp [h]

/-- A line that is no info request leaves the account alone. -/
theorem infoLine?_of_request {cmd : ConsoleCommand} {server : Server} {msg : MessageInterProcess}
    (request : cmd.request = some (server, msg)) (command : msg.type ≠ .requestAugmentedInfo)
    (result : ConsoleResult) : infoLine? (cmd, result) = none := by
  cases cmd <;> first | rfl | (cases request; exact absurd rfl command)

theorem info_of_request {cmd : ConsoleCommand} {msg : MessageInterProcess}
    (request : cmd.request = some (.comms, msg)) (info : msg.type = .requestAugmentedInfo) :
    ∃ planeID, cmd = .requestAugmentedInfo planeID ∧ toAircraft msg = infoRequest planeID := by
  cases cmd with
  | requestAugmentedInfo planeID => cases request; exact ⟨planeID, rfl, rfl⟩
  | changeHeading _ _ _ _ | changePosition _ _ _ _ | changeAltitude _ _ =>
      cases request
      cases info
  | changeTimeConstraint _ | exit => cases request

theorem accounts_of_same {s s' : OperatorSystem} {label : Label}
    (pending : InfoPending s'.console.phase s'.relay.phase)
    (offers : ∀ cmd server msg, s'.console.phase = .sending cmd server msg →
      cmd.request = some (server, msg))
    (results : s'.console.results = s.console.results) (silent : s.infoOutcome label = []) :
    s.Accounts label s' := by
  refine ⟨⟨pending, offers⟩, ?_⟩
  rw [infoResults, infoResults, results, silent]
  simp

/-- The end of a line outside of the relay's hands. -/
theorem accounts_finish {s s' : OperatorSystem} {label : Label} {cmd : ConsoleCommand}
    {result : ConsoleResult} (notInfo : ∀ msg, s'.relay.phase ≠ .opening true msg ∧
      s'.relay.phase ≠ .sending true msg)
    (console : s'.console.phase = .reading)
    (results : s'.console.results = s.console.results ++ [(cmd, result)])
    (seen : (infoLine? (cmd, result)).toList =
      (s.infoOutcome label).map (Prod.map id InfoOutcome.shown)) : s.Accounts label s' := by
  refine ⟨⟨.idle (by simp [console]) notInfo, by simp [console]⟩, ?_⟩
  rw [infoResults_finish s s' cmd result results, seen]

theorem accounts_readLine {s : OperatorSystem} (inv : InfoInvariant s)
    (at_ : s.console.phase = .reading) (connected : Bool) :
    s.Accounts (.readLine connected)
      { s with console := s.console.readLine connected } := by
  have notInfo := inv.pending.notInfo (by simp [at_])
  cases hlines : s.console.lines with
  | nil =>
      have done_ : s.console.readLine connected = { s.console with phase := .done } := by
        simp [Console.readLine, hlines]
      rw [done_]
      refine accounts_of_same (.idle (by simp) notInfo) (by simp) rfl ?_
      cases connected <;> simp [infoOutcome, hlines]
  | cons cmd lines =>
      cases request : cmd.request with
      | none =>
          have done_ : s.console.readLine connected = { s.console with
              lines := lines, typed := s.console.typed ++ [cmd], phase := .done } := by
            simp [Console.readLine, hlines, request]
          rw [done_]
          refine accounts_of_same (.idle (by simp) notInfo) (by simp) rfl ?_
          cases cmd <;> cases request
          cases connected <;> simp [infoOutcome, hlines]
      | some sent =>
          obtain ⟨server, msg⟩ := sent
          cases connected with
          | true =>
              have sends : s.console.readLine true = { s.console with
                  lines := lines, typed := s.console.typed ++ [cmd]
                  phase := .sending cmd server msg } := by
                simp [Console.readLine, hlines, request]
              rw [sends]
              refine accounts_of_same (.idle (by simp) notInfo) ?_ rfl (by simp [infoOutcome])
              rintro _ _ _ ⟨⟩
              exact request
          | false =>
              have fails : s.console.readLine false = { s.console with
                  lines := lines, typed := s.console.typed ++ [cmd], phase := .reading
                  results := s.console.results ++ [(cmd, .failed)] } := by
                simp [Console.readLine, hlines, request, Console.finish]
              rw [fails]
              refine accounts_finish notInfo rfl rfl ?_
              cases cmd <;> simp [infoLine?, infoOutcome, hlines, InfoOutcome.shown]

theorem accounts_sendFails {s : OperatorSystem} (inv : InfoInvariant s) {cmd : ConsoleCommand}
    {server : Server} {msg : MessageInterProcess}
    (at_ : s.console.phase = .sending cmd server msg) :
    s.Accounts .sendFails { s with console := s.console.finish cmd .failed } := by
  refine accounts_finish (inv.pending.notInfo (by simp [at_])) rfl rfl ?_
  cases cmd <;> simp [infoLine?, infoOutcome, at_, InfoOutcome.shown]

theorem accounts_relayReceive {s s' : OperatorSystem} (inv : InfoInvariant s)
    (h : s.step .relayReceive = some s') : s.Accounts .relayReceive s' := by
  obtain ⟨cmd, msg, at_, free, outcome⟩ := relayReceive_spec h
  have request := inv.offers cmd .comms msg at_
  have silent : s.infoOutcome .relayReceive = [] := by simp [infoOutcome]
  rcases outcome with ⟨exits, _⟩ | ⟨info, rfl⟩ | ⟨_, command, rfl⟩
  · exact absurd exits (not_exit_of_request request)
  · obtain ⟨planeID, rfl, built⟩ := info_of_request request info
    rw [built]
    exact accounts_of_same (.opening planeID) (by simp) rfl silent
  · refine accounts_finish (by simp) rfl rfl ?_
    rw [infoLine?_of_request request command, silent]
    rfl

/-- The relay answers the console, which ends its line in the branch of the outcome. -/
theorem accounts_released {s s' : OperatorSystem} {label : Label} (inv : InfoInvariant s)
    {msg : Message} (busy : s.relay.phase = .opening true msg ∨ s.relay.phase = .sending true msg)
    {status : Bool} {reply : MessageInterProcess} {outcome : InfoOutcome}
    (free : s'.relay.phase = .receiving)
    (console : s'.console = s.console.released true status reply)
    (seen : s.infoOutcome label = [(msg.planeID, outcome)])
    (shown : Console.infoResult status reply = outcome.shown) : s.Accounts label s' := by
  obtain ⟨planeID, at_, rfl⟩ := inv.pending.of_info busy
  have ends : s'.console =
      s.console.finish (.requestAugmentedInfo planeID) (Console.infoResult status reply) := by
    rw [console]
    simp only [Console.released, at_]
  refine accounts_finish (by simp [free]) (by rw [ends]; rfl) (by rw [ends]; rfl) ?_
  rw [seen, shown]
  rfl

/-- The relay is done with a command, which the console does not wait for. -/
theorem accounts_command {s s' : OperatorSystem} {label : Label} (inv : InfoInvariant s)
    {msg : Message} (busy : s.relay.phase = .opening false msg ∨ s.relay.phase = .sending false msg)
    (notInfo : ∀ msg, s'.relay.phase ≠ .opening true msg ∧ s'.relay.phase ≠ .sending true msg)
    (console : s'.console = s.console) (silent : s.infoOutcome label = []) :
    s.Accounts label s' := by
  have notAwaiting := inv.pending.notAwaiting (by rcases busy with at_ | at_ <;> simp [at_])
  rw [← console] at notAwaiting
  refine accounts_of_same (.idle notAwaiting notInfo) ?_ (by rw [console]) silent
  rw [console]
  exact inv.offers

/-- The channel of the aircraft is opened, or the relay answers that it cannot be. -/
theorem accounts_relayOpen {s s' : OperatorSystem} {ok : Bool} (inv : InfoInvariant s)
    (h : s.step (.relayOpen ok) = some s') : s.Accounts (.relayOpen ok) s' := by
  obtain ⟨augmented, msg, at_, _, rfl⟩ := relayOpen_spec h
  cases ok with
  | true =>
      cases augmented with
      | true =>
          obtain ⟨planeID, console, rfl⟩ := inv.pending.of_info (.inl at_)
          refine accounts_of_same ?_ inv.offers rfl (by simp [infoOutcome])
          simp only [if_true, console]
          exact .sending planeID
      | false => exact accounts_command inv (.inl at_) (by simp) rfl (by simp [infoOutcome])
  | false =>
      cases augmented with
      | true =>
          have seen : s.infoOutcome (.relayOpen false) = [(msg.planeID, .noRecord)] := by
            simp [infoOutcome, at_]
          exact accounts_released inv (.inl at_) rfl rfl seen rfl
      | false => exact accounts_command inv (.inl at_) (by simp) rfl (by simp [infoOutcome, at_])

/-- The aircraft answers, and the relay passes its record on. -/
theorem accounts_relayDeliver {s s' : OperatorSystem} {i : Nat} (inv : InfoInvariant s)
    (h : s.step (.relayDeliver i) = some s') : s.Accounts (.relayDeliver i) s' := by
  obtain ⟨augmented, msg, t, atc, at_, place, own, next, rfl⟩ := relayDeliver_spec h
  cases augmented with
  | true =>
      obtain ⟨planeID, -, rfl⟩ := inv.pending.of_info (.inr at_)
      exact accounts_released inv (.inr at_) rfl rfl (by simp [infoOutcome, at_, place])
        (infoResult_answer t.aircraft planeID)
  | false => exact accounts_command inv (.inr at_) (by simp) rfl (by simp [infoOutcome, at_])

theorem accounts_relaySendFails {s s' : OperatorSystem} (inv : InfoInvariant s)
    (h : s.step .relaySendFails = some s') : s.Accounts .relaySendFails s' := by
  obtain ⟨augmented, msg, at_, _, rfl⟩ := relaySendFails_spec h
  cases augmented with
  | true =>
      have seen : s.infoOutcome .relaySendFails = [(msg.planeID, .noRecord)] := by
        simp [infoOutcome, at_]
      exact accounts_released inv (.inr at_) rfl rfl seen rfl
  | false => exact accounts_command inv (.inr at_) (by simp) rfl (by simp [infoOutcome, at_])

theorem accounts_step {s s' : OperatorSystem} {label : Label} (inv : InfoInvariant s)
    (h : s.step label = some s') : s.Accounts label s' := by
  cases label with
  | atc label =>
      obtain ⟨_, atc, _, rfl⟩ := atc_spec h
      exact accounts_of_same inv.pending inv.offers rfl (by simp [infoOutcome])
  | readLine connected =>
      obtain ⟨at_, rfl⟩ := readLine_spec h
      exact accounts_readLine inv at_ connected
  | sendFails =>
      obtain ⟨cmd, server, msg, at_, rfl⟩ := sendFails_spec h
      exact accounts_sendFails inv at_
  | relayReceive => exact accounts_relayReceive inv h
  | relayError =>
      obtain ⟨free, rfl⟩ := relayError_spec h
      have notAwaiting := inv.pending.notAwaiting (by simp [free])
      exact accounts_of_same (.idle notAwaiting (by simp)) inv.offers rfl (by simp [infoOutcome])
  | relayOpen ok => exact accounts_relayOpen inv h
  | relayDeliver i => exact accounts_relayDeliver inv h
  | relaySendFails => exact accounts_relaySendFails inv h
  | computerReceive =>
      obtain ⟨cmd, msg, at_, rfl⟩ := computerReceive_spec h
      have request := inv.offers cmd .computer msg at_
      refine accounts_finish (inv.pending.notInfo (by simp [at_])) rfl rfl ?_
      cases cmd <;> cases request
      simp [infoLine?, infoOutcome]

/-! ## Whole runs -/

/-- The info requests that ended in a run, and what became of them. -/
def infoOutcomes (planeData : List PlaneData) (lines : List ConsoleCommand)
    (labels : List Label) : List (Int32 × InfoOutcome) :=
  Machine.observed step infoOutcome (start planeData lines) labels

theorem infoResults_run {planeData : List PlaneData} {lines : List ConsoleCommand}
    {labels : List Label} {s : OperatorSystem}
    (run : Machine.run step (start planeData lines) labels = some s) :
    s.infoResults =
      (infoOutcomes planeData lines labels).map (Prod.map id InfoOutcome.shown) := by
  have nothing : (start planeData lines).infoResults = [] := rfl
  have account := Machine.run_observed infoResults (Prod.map id InfoOutcome.shown)
    (fun _ _ _ inv next => (accounts_step inv next).1)
    (fun _ _ _ inv next => (accounts_step inv next).2) (infoInvariant_start planeData lines) run
  rwa [nothing, List.nil_append] at account

/-- The relay ends an info request with this step because the aircraft cannot be reached. -/
def infoUnreachable (s : OperatorSystem) (label : Label) : Bool :=
  match label, s.relay.phase with
  | .relayOpen false, .opening true _ => true
  | .relaySendFails, .sending true _ => true
  | _, _ => false

theorem answerOf_infoRequest (a : Aircraft) (planeID : Int32) :
    answerOf a (infoRequest planeID) = .answered a.planeInfo := rfl

/-- An aircraft that is reached answers, so these are the steps that bring no record. -/
theorem noRecord_iff_unreachable {s s' : OperatorSystem} {label : Label} (inv : InfoInvariant s)
    (h : s.step label = some s') :
    (∀ o ∈ s.infoOutcome label, o.2 ≠ .noRecord) ↔ s.infoUnreachable label = false := by
  cases label with
  | atc | relayReceive | relayError | computerReceive => simp [infoOutcome, infoUnreachable]
  | readLine connected =>
      cases connected with
      | true => simp [infoOutcome, infoUnreachable]
      | false =>
          cases hlines : s.console.lines with
          | nil => simp [infoOutcome, infoUnreachable, hlines]
          | cons cmd lines => cases cmd <;> simp [infoOutcome, infoUnreachable, hlines]
  | sendFails =>
      unfold infoOutcome infoUnreachable
      split <;> simp_all
  | relayOpen ok =>
      cases ok with
      | true => simp [infoOutcome, infoUnreachable]
      | false =>
          obtain ⟨augmented, msg, at_, -⟩ := relayOpen_spec h
          cases augmented <;> simp [infoOutcome, infoUnreachable, at_]
  | relaySendFails =>
      obtain ⟨augmented, msg, at_, -⟩ := relaySendFails_spec h
      cases augmented <;> simp [infoOutcome, infoUnreachable, at_]
  | relayDeliver i =>
      cases at_ : s.relay.phase with
      | receiving | opening | ended => simp [infoOutcome, infoUnreachable, at_]
      | sending augmented msg =>
          cases augmented with
          | false => simp [infoOutcome, infoUnreachable, at_]
          | true =>
              obtain ⟨planeID, -, rfl⟩ := inv.pending.of_info (.inr at_)
              cases place : s.atc.threads[i]? with
              | none => simp [infoOutcome, infoUnreachable, at_, place]
              | some t => simp [infoOutcome, infoUnreachable, at_, place, answerOf_infoRequest]

/-- Only the aircraft a request names is asked. -/
theorem answered_own {s s' : OperatorSystem} {label : Label} (h : s.step label = some s')
    {planeID : Int32} {record : MsgPlaneInfo}
    (mem : (planeID, .answered record) ∈ s.infoOutcome label) : record.id = planeID := by
  unfold infoOutcome at mem
  split at mem
  case h_1 => split at mem <;> simp at mem
  case h_2 | h_3 | h_4 => simp at mem
  case h_5 i msg at_ =>
    split at mem
    · rename_i t place
      simp only [List.mem_singleton, Prod.mk.injEq] at mem
      obtain ⟨rfl, answer⟩ := mem
      have own : t.aircraft.id = msg.planeID := by
        obtain ⟨_, _, _, _, at', place', own, _⟩ := relayDeliver_spec h
        rw [at_] at at'
        cases at'
        rw [place] at place'
        cases place'
        exact own
      unfold answerOf at answer
      split at answer
      · cases answer
        exact own
      · cases answer
    · simp at mem
  case h_6 => simp at mem

/-- A record that came back for a request is that of the aircraft it named. -/
def OwnRecord (o : Int32 × InfoOutcome) : Prop :=
  ∀ record, o.2 = .answered record → record.id = o.1

theorem answered_own_run {planeData : List PlaneData} {lines : List ConsoleCommand}
    {labels : List Label} {s : OperatorSystem}
    (run : Machine.run step (start planeData lines) labels = some s) :
    ∀ o ∈ infoOutcomes planeData lines labels, OwnRecord o := by
  have guarded : Machine.Along step (fun s label => ∀ o ∈ s.infoOutcome label, OwnRecord o)
      (start planeData lines) labels := by
    refine Machine.Along.of_invariant (P := fun _ => True) (fun _ _ _ _ _ => trivial) ?_
      trivial run
    rintro s label s' - next ⟨planeID, outcome⟩ mem record rfl
    exact answered_own next mem
  exact Machine.along_iff_observed.mp guarded

/-- In every run the console shows every info request as it ended exactly when the relay
never had to give one up: an aircraft it cannot reach is shown as a failure to reach the
relay, and the branch for it is never taken. A record comes from the aircraft asked for. -/
theorem info_branches_iff (planeData : List PlaneData) (lines : List ConsoleCommand)
    (labels : List Label) (s : OperatorSystem)
    (run : Machine.run step (start planeData lines) labels = some s) :
    (s.infoResults = (infoOutcomes planeData lines labels).map (Prod.map id InfoOutcome.branch) ↔
      Machine.Along step (fun s label => s.infoUnreachable label = false)
        (start planeData lines) labels) ∧
    ∀ o ∈ infoOutcomes planeData lines labels, OwnRecord o := by
  refine ⟨?_, answered_own_run run⟩
  have guards := Machine.along_congr (fun _ _ _ inv next => (accounts_step inv next).1)
    (fun _ _ _ inv next => noRecord_iff_unreachable inv next) (infoInvariant_start planeData lines)
    run
  rw [← guards, Machine.along_iff_observed, infoResults_run run, List.map_inj_left]
  constructor
  · intro same o mem
    exact (o.2.shown_eq_branch_iff).mp (congrArg Prod.snd (same o mem))
  · intro records o mem
    exact Prod.ext rfl ((o.2.shown_eq_branch_iff).mpr (records o mem))

/-- A request for plane 99, which does not exist. -/
theorem unreachable_shown_as_failure :
    ¬ ∀ (planeData : List PlaneData) (lines : List ConsoleCommand) (labels : List Label)
        (s : OperatorSystem), Machine.run step (start planeData lines) labels = some s →
          s.infoResults =
            (infoOutcomes planeData lines labels).map (Prod.map id InfoOutcome.branch) := by
  intro claim
  obtain ⟨s, run, -⟩ := Machine.exists_of_map_run step (start [] [.requestAugmentedInfo 99])
    [.readLine true, .relayReceive, .relayOpen false] (fun _ => true) (by decide +kernel)
  have outcomes : infoOutcomes [] [.requestAugmentedInfo 99]
      [.readLine true, .relayReceive, .relayOpen false] = [(99, .noRecord)] := by decide +kernel
  have same := (infoResults_run run).symm.trans (claim _ _ _ s run)
  simp [outcomes, InfoOutcome.shown, InfoOutcome.branch] at same

/-- A run in which aircraft 7 enters and is asked. -/
def askOne : List Label :=
  [.atc (.radar .attach), .atc (.aircraft 0 (.opened true)), .atc (.radar .arrivalLoop),
    .atc (.send 0), .atc (.radar .handle), .atc (.aircraft 0 (.attached true)),
    .atc (.aircraft 0 .move), .readLine true, .relayReceive, .relayOpen true, .relayDeliver 0]

theorem info_branches_askOne :
    ∃ s, Machine.run step (start [⟨0, 7, 50000, 50000, 20000, 100, 0, 0⟩]
        [.requestAugmentedInfo 7]) askOne = some s ∧
      s.infoResults = [(7, .info ⟨7, 50100, 50000, 20000, 100, 0, 0⟩)] := by
  obtain ⟨s, run, -⟩ := Machine.exists_of_map_run step
    (start [⟨0, 7, 50000, 50000, 20000, 100, 0, 0⟩] [.requestAugmentedInfo 7]) askOne
    (fun _ => true) (by decide +kernel)
  have outcomes : infoOutcomes [⟨0, 7, 50000, 50000, 20000, 100, 0, 0⟩]
      [.requestAugmentedInfo 7] askOne =
        [(7, .answered ⟨7, 50100, 50000, 20000, 100, 0, 0⟩)] := by decide +kernel
  have shown := (info_branches_iff _ _ askOne s run).1.mpr (by decide +kernel)
  rw [outcomes] at shown
  exact ⟨s, run, shown⟩

end OperatorSystem

end QnxAtc
