import QnxAtc.Aircraft.Reports
import QnxAtc.Radar.Snapshots
import QnxAtc.Readers.Stopping

/-! # What the readers see

Between an aircraft and the two readers a record passes through a buffer of Radar and
through shared memory, where nothing is made up or changed. So what holds of every
record an aircraft answers with holds of every record the monitor checks for conflicts
and the Display shows.
-/

namespace QnxAtc

/-- The record is in the airspace and carries an ID of the file. -/
def Reported (planeData : List PlaneData) (info : MsgPlaneInfo) : Prop :=
  info.InAirspace ∧ info.id ∈ planeData.map PlaneData.id

namespace AirTrafficControl

/-- Everything Radar holds was reported. -/
def HoldsReported (planeData : List PlaneData) (s : AirTrafficControl) : Prop :=
  s.radar.Holds fun records => ∀ info ∈ records, Reported planeData info

/-- What an aircraft of the process answers, in whatever state it has reached. -/
theorem reported_of_answer {planeData : List PlaneData} {labels : List Label}
    {s : AirTrafficControl} (h : Machine.run step (start planeData) labels = some s)
    {t : AircraftThread} (mem : t ∈ s.threads) (receiving : t.phase = .receiving)
    {buffer : MessageInterProcess} {info : MsgPlaneInfo}
    (record : (t.aircraft.handle buffer).reply.record? = some info) :
    Reported planeData info := by
  obtain ⟨i, place⟩ := List.mem_iff_getElem?.mp mem
  obtain ⟨data, inputs, here, flown⟩ := threads_run h i t place
  have inv := AircraftThread.logInvariant_run flown
  have own : info = t.aircraft.planeInfo := t.aircraft.handle_record record
  rw [own]
  refine ⟨Aircraft.planeInfo_inAirspace (inv.checked receiving), ?_⟩
  have id : t.aircraft.planeInfo.id = data.id := inv.id
  rw [id]
  exact List.mem_map_of_mem (List.mem_of_getElem? here)

theorem holdsReported_run {planeData : List PlaneData} {labels : List Label}
    {s : AirTrafficControl} (h : Machine.run step (start planeData) labels = some s) :
    s.HoldsReported planeData := by
  refine Machine.run_invariant_of_reached ?_ ?_ h
  · exact Radar.holds_start (by simp)
  · intro labels m label n before held last
    rcases step_moves_radar last with same | ⟨l, supplied, next⟩
    · rw [HoldsReported, same]
      exact held
    · refine Radar.holds_step (by simp) held ?_ next
      intro info answer other here
      subst answer
      obtain ⟨t, mem, buffer, receiving, record⟩ := supplied
      rcases List.mem_append.mp here with old | new
      · exact held.buffers m.radar.inactiveBufferIndex other old
      · rw [List.mem_singleton.mp new]
        exact reported_of_answer before mem receiving record

end AirTrafficControl

namespace Surveillance

/-- The readers leave the ATC process alone. -/
theorem step_atc {s s' : Surveillance} {label : Label} (h : s.step label = some s') :
    s'.atc = s.atc ∨ ∃ l, s.atc.step l = some s'.atc := by
  cases label with
  | atc l =>
      obtain ⟨atc, next, rfl⟩ := Option.map_eq_some_iff.mp h
      exact .inr ⟨l, next⟩
  | monitor l | display l =>
      obtain ⟨reader, _, rfl⟩ := Option.map_eq_some_iff.mp h
      exact .inl rfl

theorem atc_run {planeData : List PlaneData} {labels : List Label} {s : Surveillance}
    (h : Machine.run step (start planeData) labels = some s) :
    ∃ ls, Machine.run AirTrafficControl.step (.start planeData) ls = some s.atc := by
  refine Machine.run_invariant
    (P := fun s => ∃ ls, Machine.run AirTrafficControl.step (.start planeData) ls = some s.atc)
    ?_ ⟨[], rfl⟩ h
  intro m label n before last
  obtain ⟨ls, sofar⟩ := before
  rcases step_atc last with same | ⟨l, next⟩
  · rw [same]
    exact ⟨ls, sofar⟩
  · exact ⟨ls ++ [l], Machine.run_concat_eq_some.mpr ⟨m.atc, sofar, next⟩⟩

/-- What a reader copies out of a snapshot that holds reported records only. -/
theorem reported_of_step {planeData : List PlaneData} {atc : AirTrafficControl} {r r' : Reader}
    {label : Reader.Label} (held : atc.HoldsReported planeData)
    (h : ∀ info ∈ r.planes, Reported planeData info)
    (hstep : r.step atc.radar.shared label = some r') :
    ∀ info ∈ r'.planes, Reported planeData info := by
  rcases Reader.step_planes hstep with same | copied
  · rw [same]
    exact h
  · obtain ⟨records, publishes, reported⟩ := held.snapshot
    rw [(readPlanes_eq_ok.mp copied).2, publishes.records]
    exact reported

/-- Both readers hold reported records only. -/
structure SeenReported (planeData : List PlaneData) (s : Surveillance) : Prop where
  monitor : ∀ info ∈ s.monitor.planes, Reported planeData info
  display : ∀ info ∈ s.display.planes, Reported planeData info

/-- Every aircraft the monitor checks and the Display shows is one of the file, at a
position inside the airspace. -/
theorem seen_reported (planeData : List PlaneData) (labels : List Label) (s : Surveillance)
    (h : Machine.run step (start planeData) labels = some s) : s.SeenReported planeData := by
  refine Machine.run_invariant_of_reached ?_ ?_ h
  · exact ⟨by simp [start, Reader.start], by simp [start, Reader.start]⟩
  · intro labels m label n before seen last
    obtain ⟨ls, atc⟩ := atc_run before
    have held := AirTrafficControl.holdsReported_run atc
    cases label with
    | atc l =>
        obtain ⟨next, _, rfl⟩ := Option.map_eq_some_iff.mp last
        exact ⟨seen.monitor, seen.display⟩
    | monitor l =>
        obtain ⟨reader, next, rfl⟩ := Option.map_eq_some_iff.mp last
        exact ⟨reported_of_step held seen.monitor next, seen.display⟩
    | display l =>
        obtain ⟨reader, next, rfl⟩ := Option.map_eq_some_iff.mp last
        exact ⟨seen.monitor, reported_of_step held seen.display next⟩

end Surveillance

end QnxAtc
