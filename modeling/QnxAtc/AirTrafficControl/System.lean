import QnxAtc.Library.Pool
import QnxAtc.Radar.State

/-! # The ATC process

One thread for every line of the planes file, and Radar. A `MsgSend` and the receive
that serves it are one step of both parties, taken when the receiver replies. The
names the kernel keeps are read off the phases: `dipi<ID>` can be opened while a
thread with that ID is attached, `dipi_radar` between Radar's attach and its shutdown.
-/

namespace QnxAtc

structure AirTrafficControl where
  threads : List AircraftThread
  radar : Radar

/-- `dipi_radar` can be opened. -/
def Radar.Reachable (r : Radar) : Prop := r.arrival ≠ .starting ∧ r.stopThreads = false

instance (r : Radar) : Decidable r.Reachable :=
  inferInstanceAs (Decidable (r.arrival ≠ .starting ∧ r.stopThreads = false))

/-- The message a thread is blocked on in `MsgSend` to Radar. -/
def AircraftThread.pendingMessage (t : AircraftThread) : Option Message :=
  match t.phase with
  | .sendingEnter => some (createEnterAirspaceMessage t.aircraft.id)
  | .sendingExit => some (createExitAirspaceMessage t.aircraft.id)
  | _ => none

/-- The request of `getAircraftData`. -/
def requestPositionMessage (planeID : Int32) : Message :=
  ⟨false, .requestPosition, planeID, none, 0⟩

namespace AirTrafficControl

/-- `startPlanes` creates one aircraft for each record of the file. -/
def start (planeData : List PlaneData) : AirTrafficControl :=
  ⟨planeData.map fun data => AircraftThread.start (.ofPlaneData data), Radar.start⟩

/-- Some thread has `dipi<planeID>` attached. -/
def Attached (s : AirTrafficControl) (planeID : Int32) : Prop :=
  ∃ t ∈ s.threads, t.aircraft.id = planeID ∧ t.phase.attached = true

instance (s : AirTrafficControl) (planeID : Int32) : Decidable (s.Attached planeID) :=
  inferInstanceAs (Decidable (∃ t ∈ s.threads, _))

inductive Label where
  | aircraft (i : Nat) (input : Input)
  | radar (label : Radar.Label)
  | send (i : Nat)  -- Radar receives and replies to what aircraft `i` is sending
  | poll (i : Nat)  -- aircraft `i` answers the request Radar is sending

/-- What one aircraft can do by itself. Its name is free when no other thread holds it. -/
def AircraftMay (s : AirTrafficControl) (t : AircraftThread) : Input → Prop
  | .opened ok => ok = true ↔ s.radar.Reachable
  | .sent ok => ok = false ∧ ¬ s.radar.Reachable
  | .attached ok => ok = true → ¬ s.Attached t.aircraft.id
  | .pulse | .move | .received _ | .detach => True

instance (s : AirTrafficControl) (t : AircraftThread) (input : Input) :
    Decidable (s.AircraftMay t input) := by
  cases input <;> unfold AircraftMay <;> infer_instance

/-- What Radar can do by itself; `main` destroys it when every aircraft has finished. -/
def RadarMay (s : AirTrafficControl) : Radar.Label → Prop
  | .receive (.message _) | .answer _ => False
  | .openChannel ok =>
      match s.radar.update with
      | .opening planeID _ => ok = true ↔ s.Attached planeID
      | _ => True
  | .sendFails =>
      match s.radar.update with
      | .sending planeID _ => ¬ s.Attached planeID
      | _ => True
  | .shutdown => ∀ t ∈ s.threads, t.phase.finished = true
  | _ => True

instance (s : AirTrafficControl) (label : Radar.Label) : Decidable (s.RadarMay label) := by
  unfold RadarMay
  split <;> (try split) <;> infer_instance

def step (s : AirTrafficControl) : Label → Option AirTrafficControl
  | .aircraft i input =>
      match s.threads[i]? with
      | none => none
      | some t =>
          if s.AircraftMay t input then
            (t.step input).map fun t' => { s with threads := s.threads.set i t' }
          else none
  | .radar label =>
      if s.RadarMay label then (s.radar.step label).map fun r => { s with radar := r } else none
  | .send i =>
      match s.threads[i]? with
      | none => none
      | some t =>
          match t.pendingMessage with
          | none => none
          | some msg =>
              match t.step (.sent true), s.radar.step (.receive (.message msg)) with
              | some t', some r => some ⟨s.threads.set i t', r⟩
              | _, _ => none
  | .poll i =>
      match s.threads[i]?, s.radar.update with
      | some t, .sending planeID _ =>
          if t.aircraft.id = planeID then
            let buffer := (requestPositionMessage planeID).asBuffer
            match t.step (.received (.message buffer)), (t.aircraft.handle buffer).reply with
            | some t', .planeInfo info =>
                (s.radar.step (.answer info)).map fun r => ⟨s.threads.set i t', r⟩
            | _, _ => none
          else none
      | _, _ => none

/-! ## What one step can do -/

inductive Step (s : AirTrafficControl) : Label → AirTrafficControl → Prop where
  | aircraft (i : Nat) (input : Input) (t t' : AircraftThread) (at_ : s.threads[i]? = some t)
      (may : s.AircraftMay t input) (next : t.step input = some t') :
      Step s (.aircraft i input) { s with threads := s.threads.set i t' }
  | radar (label : Radar.Label) (r : Radar) (may : s.RadarMay label)
      (next : s.radar.step label = some r) : Step s (.radar label) { s with radar := r }
  | send (i : Nat) (t t' : AircraftThread) (msg : Message) (r : Radar)
      (at_ : s.threads[i]? = some t) (pending : t.pendingMessage = some msg)
      (next : t.step (.sent true) = some t')
      (received : s.radar.step (.receive (.message msg)) = some r) :
      Step s (.send i) ⟨s.threads.set i t', r⟩
  | poll (i : Nat) (t t' : AircraftThread) (planeID : Int32) (rest : List Int32) (r : Radar)
      (info : MsgPlaneInfo) (at_ : s.threads[i]? = some t)
      (blocked : s.radar.update = .sending planeID rest) (own : t.aircraft.id = planeID)
      (next : t.step (.received (.message (requestPositionMessage planeID).asBuffer)) = some t')
      (reply : (t.aircraft.handle (requestPositionMessage planeID).asBuffer).reply
        = .planeInfo info)
      (answered : s.radar.step (.answer info) = some r) :
      Step s (.poll i) ⟨s.threads.set i t', r⟩

theorem step_spec {s s' : AirTrafficControl} {label : Label} (h : s.step label = some s') :
    Step s label s' := by
  cases label with
  | aircraft i input =>
      simp only [step] at h
      split at h
      · cases h
      · rename_i t at_
        split at h
        · rename_i may
          obtain ⟨t', next, rfl⟩ := Option.map_eq_some_iff.mp h
          exact .aircraft i input t t' at_ may next
        · cases h
  | radar label =>
      simp only [step] at h
      split at h
      · rename_i may
        obtain ⟨r, next, rfl⟩ := Option.map_eq_some_iff.mp h
        exact .radar label r may next
      · cases h
  | send i =>
      simp only [step] at h
      split at h
      · cases h
      · rename_i t at_
        split at h
        · cases h
        · rename_i msg pending
          split at h
          · rename_i t' r next received
            cases h
            exact .send i t t' msg r at_ pending next received
          · cases h
  | poll i =>
      simp only [step] at h
      split at h
      · rename_i t planeID rest at_ blocked
        split at h
        · rename_i own
          split at h
          · rename_i t' info next reply
            obtain ⟨r, answered, rfl⟩ := Option.map_eq_some_iff.mp h
            exact .poll i t t' planeID rest r info at_ blocked own next reply answered
          · cases h
        · cases h
      · cases h

/-- At most one thread moves in a step. -/
theorem step_moves_thread {s s' : AirTrafficControl} {label : Label} (h : s.step label = some s') :
    s'.threads = s.threads ∨ ∃ i t input t', s.threads[i]? = some t ∧ t.step input = some t' ∧
      s'.threads = s.threads.set i t' := by
  cases step_spec h with
  | aircraft i input t t' at_ may next => exact .inr ⟨i, t, input, t', at_, next, rfl⟩
  | radar label r may next => exact .inl rfl
  | send i t t' msg r at_ pending next received => exact .inr ⟨i, t, _, t', at_, next, rfl⟩
  | poll i t t' planeID rest r info at_ blocked own next reply answered =>
      exact .inr ⟨i, t, _, t', at_, next, rfl⟩

/-- What Radar receives or is answered comes from an aircraft of the process. -/
def Supplies (s : AirTrafficControl) : Radar.Label → Prop
  | .receive (.message msg) => ∃ t ∈ s.threads, t.pendingMessage = some msg
  | .answer info => ∃ t ∈ s.threads, ∃ buffer, t.phase = .receiving ∧
      (t.aircraft.handle buffer).reply.record? = some info
  | _ => True

/-- Radar moves at most once in a step, on what the aircraft supply. -/
theorem step_moves_radar {s s' : AirTrafficControl} {label : Label} (h : s.step label = some s') :
    s'.radar = s.radar ∨ ∃ l, s.Supplies l ∧ s.radar.step l = some s'.radar := by
  cases step_spec h with
  | aircraft i input t t' at_ may next => exact .inl rfl
  | radar label r may next =>
      refine .inr ⟨label, ?_, next⟩
      unfold Supplies
      split
      · exact may.elim
      · exact may.elim
      · trivial
  | send i t t' msg r at_ pending next received =>
      exact .inr ⟨.receive (.message msg), ⟨t, List.mem_of_getElem? at_, pending⟩, received⟩
  | poll i t t' planeID rest r info at_ blocked own next reply answered =>
      have receiving : t.phase = .receiving := by
        cases AircraftThread.step_spec next with
        | answer buffer receiving => exact receiving
      have record : (t.aircraft.handle (requestPositionMessage planeID).asBuffer).reply.record? =
          some info := by
        rw [reply]
        rfl
      exact .inr ⟨.answer info, ⟨t, List.mem_of_getElem? at_, _, receiving, record⟩, answered⟩

/-- Each thread has made a run of its own, from its line of the file. -/
def ThreadsRun (planeData : List PlaneData) (s : AirTrafficControl) : Prop :=
  ∀ (i : Nat) (t : AircraftThread), s.threads[i]? = some t →
    ∃ data inputs, planeData[i]? = some data ∧
      Machine.run AircraftThread.step (.start (.ofPlaneData data)) inputs = some t

theorem threads_run {planeData : List PlaneData} {labels : List Label} {s : AirTrafficControl}
    (h : Machine.run step (start planeData) labels = some s) : s.ThreadsRun planeData := by
  refine Machine.run_invariant ?_ ?_ h
  · intro m label n before last
    rcases step_moves_thread last with same | ⟨i, t, input, t', at_, next, moved⟩
    · rw [ThreadsRun, same]
      exact before
    · rw [ThreadsRun, moved]
      apply Pool.forall_set before
      obtain ⟨data, inputs, here, sofar⟩ := before i t at_
      exact ⟨data, inputs ++ [input], here, Machine.run_concat_eq_some.mpr ⟨t, sofar, next⟩⟩
  · intro i t place
    simp only [start, List.getElem?_map, Option.map_eq_some_iff] at place
    obtain ⟨data, here, rfl⟩ := place
    exact ⟨data, [], here, rfl⟩

end AirTrafficControl

end QnxAtc
