import QnxAtc.AirTrafficControl.Crowd
import QnxAtc.Aircraft.Transition
import QnxAtc.Operator.Acknowledged

/-! # What the relay forwards

`HandleCommunications` serves a named channel, so the console is not the only one that
can send to it. Here the relay is put next to the ATC process alone and receives any
message at all; what it hands to an aircraft is recorded next to what it received.
-/

namespace QnxAtc

open FixedArray

/-- A message handed to an aircraft. -/
structure Forwarding where
  received : MessageInterProcess
  sent : MessageInterProcess
  aircraft : Aircraft

/-- The points of `HandleCommunications`, with its local `msg`. -/
inductive CommunicationsPhase where
  | receiving
  | opening (msg : MessageInterProcess)
  | sending (msg : MessageInterProcess)
  | ended

structure CommunicationsSystem where
  phase : CommunicationsPhase
  atc : AirTrafficControl
  forwardings : List Forwarding  -- history: what reached an aircraft, in order

namespace CommunicationsSystem

def start (planeData : List PlaneData) : CommunicationsSystem :=
  ⟨.receiving, AirTrafficControl.start planeData, []⟩

inductive Label where
  /-- anything the ATC process does, messages of other senders included -/
  | atc (label : AirTrafficControl.Label)
  | receive (rcv : Received MessageInterProcess)
  | openChannel (ok : Bool)
  | deliver (i : Nat)
  | sendFails

def step (s : CommunicationsSystem) (label : Label) : Option CommunicationsSystem :=
  match label, s.phase with
  | .atc label, _ => (s.atc.step label).map fun atc => { s with atc := atc }
  | .receive .error, .receiving => some { s with phase := .ended }
  | .receive .pulse, .receiving => some s
  | .receive (.message msg), .receiving =>
      if msg.type = .exit then some { s with phase := .ended }
      else some { s with phase := .opening msg }
  | .openChannel ok, .opening msg =>
      if ok = true ↔ s.atc.Attached (toAircraft msg).planeID then
        some { s with phase := if ok then .sending msg else .receiving }
      else none
  | .deliver i, .sending msg =>
      match s.atc.threads[i]? with
      | none => none
      | some t =>
          if t.aircraft.id = (toAircraft msg).planeID then
            let ipcMsg := ipcMessage (toAircraft msg)
            (s.atc.step (.aircraft i (.received (.message ipcMsg)))).map fun atc =>
              ⟨.receiving, atc, s.forwardings ++ [⟨msg, ipcMsg, t.aircraft⟩]⟩
          else none
  | .sendFails, .sending msg =>
      if s.atc.Attached (toAircraft msg).planeID then none
      else some { s with phase := .receiving }
  | _, _ => none

/-! ## Single messages -/

theorem toAircraft_planeID (msg : MessageInterProcess) :
    (toAircraft msg).planeID = msg.planeID := by
  unfold toAircraft
  split <;> rfl

/-- The message an aircraft is sent for a command, whose size is forwarded as received. -/
theorem forwarded_command {msg : MessageInterProcess} (command : msg.type ≠ .requestAugmentedInfo) :
    forwarded msg = ⟨true, msg.type, msg.planeID,
      if 0 < msg.dataSize.toNat ∧ msg.dataSize.toNat ≤ dataCapacity then
        overwrite MessageInterProcess.zero.data (msg.data.toList.take msg.dataSize.toNat)
      else MessageInterProcess.zero.data, msg.dataSize⟩ := by
  simp only [forwarded, toAircraft, if_neg command, ipcMessage]

/-- The payload the sender claims to have sent, as far as the array goes. -/
def payload (msg : MessageInterProcess) : List Byte := msg.data.toList.take msg.dataSize.toNat

theorem payload_forwarded_iff {msg : MessageInterProcess}
    (command : msg.type ≠ .requestAugmentedInfo) :
    payload (forwarded msg) = payload msg ↔
      msg.dataSize.toNat ≤ dataCapacity ∨ msg.data = MessageInterProcess.zero.data := by
  have whole : ∀ data : Vector Byte dataCapacity, dataCapacity < msg.dataSize.toNat →
      data.toList.take msg.dataSize.toNat = data.toList := by
    intro data large
    exact List.take_of_length_le (by rw [Vector.length_toList]; omega)
  unfold payload
  rw [forwarded_command command]
  by_cases fits : msg.dataSize.toNat ≤ dataCapacity
  · refine iff_of_true ?_ (.inl fits)
    by_cases some_ : 0 < msg.dataSize.toNat
    · have length : (msg.data.toList.take msg.dataSize.toNat).length = msg.dataSize.toNat := by
        rw [List.length_take, Vector.length_toList, Nat.min_eq_left fits]
      have copied := take_overwrite MessageInterProcess.zero.data (length.trans_le fits)
      rw [length] at copied
      simp only [if_pos (And.intro some_ fits)]
      exact copied
    · have none_ : msg.dataSize.toNat = 0 := by omega
      simp only [none_, List.take_zero]
  · have skipped : ¬ (0 < msg.dataSize.toNat ∧ msg.dataSize.toNat ≤ dataCapacity) := by omega
    simp only [if_neg skipped, whole _ (Nat.lt_of_not_le fits)]
    rw [or_iff_right fits, Vector.toList_inj, eq_comm]

/-- Two messages of one type and size that carry the same payload have the same effect. -/
theorem handle_congr (a : Aircraft) {m m' : MessageInterProcess} (header : m.header = true)
    (header' : m'.header = true) (type : m'.type = m.type) (dataSize : m'.dataSize = m.dataSize)
    (same : payload m' = payload m) : a.handle m' = a.handle m := by
  unfold payload at same
  rw [dataSize] at same
  have heading : sizeofMsgChangeHeading ≤ m.dataSize.toNat →
      MsgChangeHeading.ofBytes m'.data.toList = MsgChangeHeading.ofBytes m.data.toList := by
    intro full
    rw [← MsgChangeHeading.ofBytes_take full, same, MsgChangeHeading.ofBytes_take full]
  have position : sizeofMsgChangePosition ≤ m.dataSize.toNat →
      MsgChangePosition.ofBytes m'.data.toList = MsgChangePosition.ofBytes m.data.toList := by
    intro full
    rw [← MsgChangePosition.ofBytes_take full, same, MsgChangePosition.ofBytes_take full]
  simp only [Aircraft.handle, header, header', if_true]
  unfold Aircraft.handleInterProcess
  rw [type, dataSize]
  cases m.type with
  | requestChangeOfHeading =>
      by_cases full : sizeofMsgChangeHeading ≤ m.dataSize.toNat
      · simp only [if_pos full, heading full]
      · simp only [if_neg full]
  | requestChangePosition =>
      by_cases full : sizeofMsgChangePosition ≤ m.dataSize.toNat
      · simp only [if_pos full, position full]
      · simp only [if_neg full]
  | requestChangeAltitude =>
      by_cases full : sizeofMsgChangeHeading ≤ m.dataSize.toNat
      · simp only [if_pos full, heading full]
      · simp only [if_neg full]
  | enterAirspace | exitAirspace | positionUpdate | requestPosition | requestAugmentedInfo
    | changeTimeConstraintCollisions | exit | collisionDetected => rfl

/-! ## Whole runs -/

/-- The aircraft on the channel the message names got the message as it was sent, and does
what it would have done with the original. -/
structure Faithful (f : Forwarding) : Prop where
  addressee : f.aircraft.id = f.received.planeID
  header : f.sent.header = true
  type : f.sent.type = f.received.type
  planeID : f.sent.planeID = f.received.planeID
  dataSize : f.sent.dataSize = f.received.dataSize
  payload : payload f.sent = payload f.received
  effect : f.aircraft.handle f.sent = f.aircraft.handle { f.received with header := true }

/-- Every forwarding is of what was received, to an aircraft with the ID it names. -/
def Recorded (s : CommunicationsSystem) : Prop :=
  ∀ f ∈ s.forwardings, f.sent = forwarded f.received ∧ f.aircraft.id = f.received.planeID

theorem recorded_step (s : CommunicationsSystem) (label : Label) (s' : CommunicationsSystem)
    (h : Recorded s) (hstep : s.step label = some s') : Recorded s' := by
  unfold step at hstep
  split at hstep
  case h_1 label =>
      obtain ⟨atc, -, rfl⟩ := Option.map_eq_some_iff.mp hstep
      exact h
  case h_2 | h_3 => cases hstep; exact h
  case h_4 msg at_ => split at hstep <;> cases hstep <;> exact h
  case h_5 ok msg at_ =>
      split at hstep <;> cases hstep
      exact h
  case h_6 i msg at_ =>
      split at hstep
      · cases hstep
      · rename_i t place
        split at hstep
        · rename_i own
          obtain ⟨atc, -, rfl⟩ := Option.map_eq_some_iff.mp hstep
          intro f mem
          rcases List.mem_append.mp mem with old | new
          · exact h f old
          · rw [List.mem_singleton.mp new]
            exact ⟨rfl, by rw [own, toAircraft_planeID]⟩
        · cases hstep
  case h_7 msg at_ =>
      split at hstep <;> cases hstep
      exact h
  case h_8 => cases hstep

theorem recorded_run {planeData : List PlaneData} {labels : List Label}
    {s : CommunicationsSystem} (run : Machine.run step (start planeData) labels = some s) :
    Recorded s :=
  Machine.run_invariant recorded_step (by simp [Recorded, start]) run

/-- Whatever becomes of it in whatever run, the message is forwarded faithfully or not at all. -/
def ForwardedFaithfully (msg : MessageInterProcess) : Prop :=
  ∀ planeData labels s, Machine.run step (start planeData) labels = some s →
    ∀ f ∈ s.forwardings, f.received = msg → Faithful f

theorem faithful_of_payload {f : Forwarding} (sent : f.sent = forwarded f.received)
    (own : f.aircraft.id = f.received.planeID) (command : f.received.type ≠ .requestAugmentedInfo)
    (same : payload (forwarded f.received) = payload f.received) : Faithful f := by
  have shape := forwarded_command command
  have header : (forwarded f.received).header = true := by rw [shape]
  have type : (forwarded f.received).type = f.received.type := by rw [shape]
  have planeID : (forwarded f.received).planeID = f.received.planeID := by rw [shape]
  have dataSize : (forwarded f.received).dataSize = f.received.dataSize := by rw [shape]
  rw [← sent] at header type planeID dataSize same
  exact ⟨own, header, type, planeID, dataSize, same, handle_congr _ rfl header type dataSize same⟩

/-! ## A run that forwards a given message -/

/-- A file with one aircraft of this ID, hovering inside the airspace. -/
def hoveringFile (planeID : Int32) : List PlaneData := [⟨0, planeID, 50000, 50000, 20000, 0, 0, 0⟩]

theorem reaches_atc {s : CommunicationsSystem} {atc : AirTrafficControl}
    (h : Machine.Reaches AirTrafficControl.step s.atc atc) :
    Machine.Reaches step s { s with atc := atc } := by
  obtain ⟨labels, run⟩ := h
  refine ⟨labels.map .atc, ?_⟩
  induction labels generalizing s with
  | nil => cases run; rfl
  | cons label labels ih =>
      obtain ⟨m, first, rest⟩ := Option.bind_eq_some_iff.mp run
      have next : s.step (.atc label) = some { s with atc := m } := by
        simp only [step, first, Option.map_some]
      rw [List.map_cons, Machine.run_cons_of_step next]
      exact ih (s := { s with atc := m }) rest

/-- An aircraft can be in `MsgReceive` with any ID. -/
theorem hovering_reaches (planeID : Int32) :
    ∃ atc t, Machine.Reaches AirTrafficControl.step
        (AirTrafficControl.start (hoveringFile planeID)) atc ∧
      atc.threads = [t] ∧ t.aircraft.id = planeID ∧ t.phase = .receiving := by
  have enters : ∀ data ∈ hoveringFile planeID, AirTrafficControl.EntersAtOnce data := by
    intro data mem
    rw [List.mem_singleton.mp mem]
    exact ⟨by simp, by
      simp only [Aircraft.not_outOfBounds_iff, Aircraft.move, Aircraft.ofPlaneData]
      decide +kernel⟩
  have attach : AirTrafficControl.step (AirTrafficControl.start (hoveringFile planeID))
      (.radar .attach) = some { AirTrafficControl.start (hoveringFile planeID) with
        radar := { Radar.start with arrival := .looping } } := by
    apply AirTrafficControl.step_radar
    · trivial
    · rfl
  obtain ⟨r, reaches, -, -⟩ := AirTrafficControl.enter_all (hoveringFile planeID) []
    { Radar.start with arrival := .looping } ⟨rfl, rfl, rfl⟩ enters
    (List.nodup_singleton planeID) (by simp)
  exact ⟨_, _, .head attach reaches, rfl, rfl, rfl⟩

/-- Any message that is not an EXIT can be forwarded to an aircraft. -/
theorem exists_forwarding {msg : MessageInterProcess} (notExit : msg.type ≠ .exit) :
    ∃ labels s a, Machine.run step (start (hoveringFile msg.planeID)) labels = some s ∧
      ⟨msg, forwarded msg, a⟩ ∈ s.forwardings := by
  obtain ⟨atc, t, reaches, threads, own, receiving⟩ := hovering_reaches msg.planeID
  have place : atc.threads[0]? = some t := by rw [threads]; rfl
  have attached : atc.Attached (toAircraft msg).planeID := by
    refine ⟨t, by simp [threads], by rw [own, toAircraft_planeID], ?_⟩
    rw [receiving]
    rfl
  have received : step ⟨.receiving, atc, []⟩ (.receive (.message msg)) =
      some ⟨.opening msg, atc, []⟩ := if_neg notExit
  have opened : step ⟨.opening msg, atc, []⟩ (.openChannel true) =
      some ⟨.sending msg, atc, []⟩ := if_pos (iff_of_true rfl attached)
  have answers : AirTrafficControl.step atc (.aircraft 0 (.received (.message (forwarded msg)))) =
      some { atc with threads := atc.threads.set 0 (t.answered (forwarded msg)) } := by
    have next : t.step (.received (.message (forwarded msg))) =
        some (t.answered (forwarded msg)) := by
      simp only [AircraftThread.step, receiving]
    have may : atc.AircraftMay t (.received (.message (forwarded msg))) := trivial
    simp only [AirTrafficControl.step, place, if_pos may, next, Option.map_some]
  have delivered : step ⟨.sending msg, atc, []⟩ (.deliver 0) =
      some ⟨.receiving, { atc with threads := atc.threads.set 0 (t.answered (forwarded msg)) },
        [⟨msg, forwarded msg, t.aircraft⟩]⟩ := by
    unfold forwarded at answers ⊢
    simp only [step, place, if_pos (own.trans (toAircraft_planeID msg).symm), answers,
      Option.map_some, List.nil_append]
  obtain ⟨labels, run⟩ := (reaches_atc (s := start (hoveringFile msg.planeID)) reaches).trans
    (.head received (.head opened (.head delivered (.refl step _))))
  exact ⟨labels, _, t.aircraft, run, List.mem_singleton_self _⟩

/-- A command is forwarded faithfully exactly when the size its sender gives fits into the
array, or the array is all zeros anyway: beyond it the copy is skipped and the size is
forwarded nevertheless. -/
theorem forwarded_faithfully_iff (msg : MessageInterProcess) (notExit : msg.type ≠ .exit)
    (command : msg.type ≠ .requestAugmentedInfo) :
    ForwardedFaithfully msg ↔
      msg.dataSize.toNat ≤ dataCapacity ∨ msg.data = MessageInterProcess.zero.data := by
  rw [← payload_forwarded_iff command]
  constructor
  · intro faithful
    obtain ⟨labels, s, a, run, mem⟩ := exists_forwarding notExit
    exact (faithful _ labels s run _ mem rfl).payload
  · intro same planeData labels s run f mem this
    obtain ⟨sent, own⟩ := recorded_run run f mem
    subst this
    exact faithful_of_payload sent own command same

/-- A position command whose sender says 1025 bytes. -/
def oversized : MessageInterProcess :=
  { AircraftThread.positionCommand 7 ⟨10000, 90000, 30000⟩ with dataSize := 1025 }

/-- The aircraft is sent to the origin, a point that nobody asked for. -/
theorem oversized_altered :
    ¬ ∀ msg : MessageInterProcess, msg.type ≠ .exit → msg.type ≠ .requestAugmentedInfo →
        ForwardedFaithfully msg := by
  intro claim
  have notExit : oversized.type ≠ .exit := nofun
  have command : oversized.type ≠ .requestAugmentedInfo := nofun
  obtain ⟨labels, s, a, run, mem⟩ := exists_forwarding notExit
  have same := (claim oversized notExit command _ labels s run _ mem rfl).payload
  rcases (payload_forwarded_iff command).mp same with fits | zeros
  · exact absurd fits (by decide)
  · have target : MsgChangePosition.ofBytes oversized.data.toList = ⟨10000, 90000, 30000⟩ :=
      MsgChangePosition.ofBytes_overwrite _ _
    rw [zeros] at target
    exact absurd target (by decide +kernel)

theorem forwarded_faithfully_position :
    ForwardedFaithfully (AircraftThread.positionCommand 7 ⟨10000, 90000, 30000⟩) :=
  (forwarded_faithfully_iff (AircraftThread.positionCommand 7 ⟨10000, 90000, 30000⟩)
    nofun nofun).mpr (.inl (by decide +kernel))

/-! ## The relay of the operator's system -/

/-- The phase of the relay in the operator's system, as a phase with the message received. -/
def PhaseMatches : RelayPhase → CommunicationsPhase → Prop
  | .receiving, .receiving => True
  | .opening _ msg, .opening received => msg = toAircraft received
  | .sending _ msg, .sending received => msg = toAircraft received
  | .ended, .ended => True
  | _, _ => False

/-- The operator's system, as far as it is the relay and the ATC process. -/
def Refines (s : OperatorSystem) (c : CommunicationsSystem) : Prop :=
  PhaseMatches s.relay.phase c.phase ∧ c.atc = s.atc

theorem PhaseMatches.receiving {c : CommunicationsPhase} (h : PhaseMatches .receiving c) :
    c = .receiving := by
  cases c <;> first | rfl | exact h.elim

theorem PhaseMatches.opening {augmented : Bool} {msg : Message} {c : CommunicationsPhase}
    (h : PhaseMatches (.opening augmented msg) c) :
    ∃ received, c = .opening received ∧ msg = toAircraft received := by
  cases c with
  | opening received => exact ⟨received, rfl, h⟩
  | receiving | sending | ended => exact h.elim

theorem PhaseMatches.sending {augmented : Bool} {msg : Message} {c : CommunicationsPhase}
    (h : PhaseMatches (.sending augmented msg) c) :
    ∃ received, c = .sending received ∧ msg = toAircraft received := by
  cases c with
  | sending received => exact ⟨received, rfl, h⟩
  | receiving | opening | ended => exact h.elim

/-- One step of this relay carries the simulation over. -/
theorem refines_of_step {s' : OperatorSystem} {c c' : CommunicationsSystem} {label : Label}
    (next : step c label = some c') (h : Refines s' c') :
    ∃ c', Machine.Reaches step c c' ∧ Refines s' c' :=
  ⟨c', .head next (.refl step c'), h⟩

/-- The two relays are left by the same ways. -/
theorem refines_step (s : OperatorSystem) (label : OperatorSystem.Label) (s' : OperatorSystem)
    (c : CommunicationsSystem) (h : Refines s c) (hstep : s.step label = some s') :
    ∃ c', Machine.Reaches step c c' ∧ Refines s' c' := by
  obtain ⟨phase, atc, forwardings⟩ := c
  obtain ⟨phases, same⟩ := h
  simp only at phases same
  subst same
  cases label with
  | atc label =>
      obtain ⟨_, atc', next, rfl⟩ := OperatorSystem.atc_spec hstep
      have moves : step ⟨phase, s.atc, forwardings⟩ (.atc label) =
          some ⟨phase, atc', forwardings⟩ := by
        simp only [step, next, Option.map_some]
      exact refines_of_step moves ⟨phases, rfl⟩
  | readLine =>
      obtain ⟨_, rfl⟩ := OperatorSystem.readLine_spec hstep
      exact ⟨_, .refl step _, phases, rfl⟩
  | sendFails =>
      obtain ⟨_, _, _, _, rfl⟩ := OperatorSystem.sendFails_spec hstep
      exact ⟨_, .refl step _, phases, rfl⟩
  | computerReceive =>
      obtain ⟨_, _, _, rfl⟩ := OperatorSystem.computerReceive_spec hstep
      exact ⟨_, .refl step _, phases, rfl⟩
  | relayReceive =>
      obtain ⟨cmd, msg, _, free, outcome⟩ := OperatorSystem.relayReceive_spec hstep
      rw [free] at phases
      cases phases.receiving
      have ends (exit : msg.type = .exit) :
          step ⟨.receiving, s.atc, forwardings⟩ (.receive (.message msg)) =
            some ⟨.ended, s.atc, forwardings⟩ := if_pos exit
      have opens (notExit : msg.type ≠ .exit) :
          step ⟨.receiving, s.atc, forwardings⟩ (.receive (.message msg)) =
            some ⟨.opening msg, s.atc, forwardings⟩ := if_neg notExit
      rcases outcome with ⟨exit, rfl⟩ | ⟨info, rfl⟩ | ⟨notExit, _, rfl⟩
      · exact refines_of_step (ends exit) ⟨trivial, rfl⟩
      · exact refines_of_step (opens (by simp [info])) ⟨rfl, rfl⟩
      · exact refines_of_step (opens notExit) ⟨rfl, rfl⟩
  | relayError =>
      obtain ⟨free, rfl⟩ := OperatorSystem.relayError_spec hstep
      rw [free] at phases
      cases phases.receiving
      have ends : step ⟨.receiving, s.atc, forwardings⟩ (.receive .error) =
          some ⟨.ended, s.atc, forwardings⟩ := rfl
      exact refines_of_step ends ⟨trivial, rfl⟩
  | relayOpen ok =>
      obtain ⟨augmented, msg, at_, may, rfl⟩ := OperatorSystem.relayOpen_spec hstep
      rw [at_] at phases
      obtain ⟨received, rfl, rfl⟩ := phases.opening
      have opens : step ⟨.opening received, s.atc, forwardings⟩ (.openChannel ok) =
          some ⟨if ok then .sending received else .receiving, s.atc, forwardings⟩ := if_pos may
      refine refines_of_step opens ?_
      cases ok with
      | true => exact ⟨rfl, rfl⟩
      | false => exact ⟨trivial, rfl⟩
  | relayDeliver i =>
      obtain ⟨augmented, msg, t, atc', at_, place, own, next, rfl⟩ :=
        OperatorSystem.relayDeliver_spec hstep
      rw [at_] at phases
      obtain ⟨received, rfl, rfl⟩ := phases.sending
      have delivers : step ⟨.sending received, s.atc, forwardings⟩ (.deliver i) =
          some ⟨.receiving, atc',
            forwardings ++ [⟨received, ipcMessage (toAircraft received), t.aircraft⟩]⟩ := by
        simp only [step, place, if_pos own, next, Option.map_some]
      exact refines_of_step delivers ⟨trivial, rfl⟩
  | relaySendFails =>
      obtain ⟨augmented, msg, at_, gone, rfl⟩ := OperatorSystem.relaySendFails_spec hstep
      rw [at_] at phases
      obtain ⟨received, rfl, rfl⟩ := phases.sending
      have fails : step ⟨.sending received, s.atc, forwardings⟩ .sendFails =
          some ⟨.receiving, s.atc, forwardings⟩ := if_neg gone
      exact refines_of_step fails ⟨trivial, rfl⟩

/-- Every run of the operator's system is a run of this relay with the ATC process. -/
theorem refines_run {planeData : List PlaneData} {lines : List ConsoleCommand}
    {labels : List OperatorSystem.Label} {s : OperatorSystem}
    (run : Machine.run OperatorSystem.step (.start planeData lines) labels = some s) :
    ∃ c, Machine.Reaches step (start planeData) c ∧ Refines s c := by
  have initial : Refines (.start planeData lines) (start planeData) := ⟨trivial, rfl⟩
  exact Machine.Reaches.simulated refines_step initial run

end CommunicationsSystem

end QnxAtc
