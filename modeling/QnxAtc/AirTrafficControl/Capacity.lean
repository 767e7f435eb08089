import QnxAtc.AirTrafficControl.System
import QnxAtc.Radar.Snapshots
import QnxAtc.Readers.Reader

/-! # The snapshot and its array

Nothing between the planes file and `writeToSharedMemory` counts the aircraft. The
write and the readers stay inside the array of 100 records as long as no pass collects
more answers. That is so for every file of at most 100 aircraft, since a pass visits each
ID once; a larger file can make a pass that does.
-/

namespace QnxAtc

namespace Radar

/-- The write that is due has a result, and the readers' loops over `count` stay inside
the array. -/
structure SnapshotFits (r : Radar) : Prop where
  write : ∀ polled tickCounter, r.update = .writing polled →
    ∃ written, r.writeToSharedMemory tickCounter = .ok written
  count : r.shared.count ≤ planeDataCapacity
  read : ∃ planes, readPlanes r.shared = .ok planes

/-- Neither buffer nor the snapshot exceeds the array. -/
def WithinCapacity (r : Radar) : Prop := r.Holds fun records => records.length ≤ planeDataCapacity

theorem WithinCapacity.snapshotFits {r : Radar} (h : WithinCapacity r) : r.SnapshotFits := by
  obtain ⟨records, publishes, fits⟩ := h.snapshot
  rw [← publishes.count] at fits
  refine ⟨?_, fits, _, readPlanes_eq_ok.mpr ⟨fits, rfl⟩⟩
  intro polled tickCounter _
  exact (r.writeToSharedMemory_ok_iff tickCounter).mpr (h.buffers r.activeBufferIndex)

theorem withinCapacity_step {r r' : Radar} {label : Label} (h : WithinCapacity r)
    (room : ∀ info, label = .answer info → r.inactiveBuffer.length < planeDataCapacity)
    (hstep : r.step label = some r') : WithinCapacity r' := by
  refine holds_step (Nat.zero_le _) h ?_ hstep
  intro info answer
  have space := room info answer
  rw [List.length_append, List.length_singleton]
  omega

/-- Every ID that Radar holds or is about to hold is one of `ids`. -/
structure KnowsOnly (ids : Finset Int32) (r : Radar) : Prop where
  handling : ∀ msg, r.arrival = .handling msg → msg.planeID ∈ ids
  planes : r.planesInAirspace ⊆ ids

theorem knowsOnly_step {ids : Finset Int32} {r r' : Radar} {label : Label}
    (h : KnowsOnly ids r)
    (receives : ∀ msg, label = .receive (.message msg) → msg.planeID ∈ ids)
    (hstep : r.step label = some r') : KnowsOnly ids r' := by
  cases step_spec hstep with
  | arrival label phase idle local_ =>
      exact ⟨fun msg busy => absurd busy (idle msg), h.planes⟩
  | receive msg at_ =>
      refine ⟨?_, h.planes⟩
      intro other busy
      cases busy
      exact receives msg rfl
  | handle msg at_ =>
      refine ⟨nofun, ?_⟩
      intro planeID mem
      rcases (r.mem_handleMessage msg planeID).mp mem with ⟨_, rfl⟩ | ⟨old, _⟩
      · exact h.handling msg at_
      · exact h.planes old
  | erase planeID rest at_ => exact ⟨h.handling, (Finset.erase_subset ..).trans h.planes⟩
  | write polled tickCounter at_ written result =>
      rw [(writeToSharedMemory_spec result).frame]
      exact ⟨h.handling, h.planes⟩
  | loop | pulse | foundPlanes | stillEmpty | nowEmpty | copy | switch | turn | gone
    | openChannel | answer | sendFails | shutdown | clear => exact ⟨h.handling, h.planes⟩

end Radar

/-- Both messages to Radar carry the sender's own ID. -/
theorem AircraftThread.pendingMessage_planeID {t : AircraftThread} {msg : Message}
    (h : t.pendingMessage = some msg) : msg.planeID = t.aircraft.id := by
  unfold pendingMessage at h
  split at h <;> cases h <;> rfl

namespace AirTrafficControl

/-- When an aircraft answers, the buffer of the pass still has room for its record. -/
def AnswersFit (s : AirTrafficControl) (label : Label) : Prop :=
  ∀ i, label = .poll i → s.radar.inactiveBuffer.length < planeDataCapacity

instance (s : AirTrafficControl) (label : Label) : Decidable (s.AnswersFit label) :=
  match label with
  | .poll i => decidable_of_iff (s.radar.inactiveBuffer.length < planeDataCapacity) (by
      simp [AnswersFit])
  | .aircraft _ _ | .radar _ | .send _ => .isTrue nofun

theorem withinCapacity_step (s : AirTrafficControl) (label : Label) (s' : AirTrafficControl)
    (h : s.radar.WithinCapacity) (room : s.AnswersFit label) (hstep : s.step label = some s') :
    s'.radar.WithinCapacity := by
  cases step_spec hstep with
  | aircraft => exact h
  | radar label r may next =>
      refine Radar.withinCapacity_step h ?_ next
      intro info same
      subst same
      exact may.elim
  | send i t t' msg r at_ pending next received =>
      refine Radar.withinCapacity_step h ?_ received
      intro info same
      cases same
  | poll i t t' planeID rest r info at_ blocked own next reply answered =>
      exact Radar.withinCapacity_step h (fun _ _ => room i rfl) answered

theorem withinCapacity_run {planeData : List PlaneData} {labels : List Label}
    {s : AirTrafficControl} (room : Machine.Along step AnswersFit (start planeData) labels)
    (h : Machine.run step (start planeData) labels = some s) : s.radar.WithinCapacity :=
  Machine.run_invariant_along (P := fun s => s.radar.WithinCapacity) withinCapacity_step
    (Radar.holds_start (Nat.zero_le _)) room h

/-! ## Small files -/

/-- The threads keep the IDs of the file, line by line. -/
theorem threads_ids_step (s : AirTrafficControl) (label : Label) (s' : AirTrafficControl)
    {ids : List Int32} (h : (s.threads.map fun t => t.aircraft.id) = ids)
    (hstep : s.step label = some s') : (s'.threads.map fun t => t.aircraft.id) = ids := by
  rcases step_moves_thread hstep with same | ⟨i, t, input, t', at_, next, moved⟩
  · rw [same]
    exact h
  · rw [moved, Pool.map_set_eq (fun t => t.aircraft.id) at_ (AircraftThread.step_id next)]
    exact h

/-- The process in a file with few IDs: Radar knows no others, and keeps its snapshots. -/
structure FewInvariant (ids : List Int32) (s : AirTrafficControl) : Prop where
  threads : (s.threads.map fun t => t.aircraft.id) = ids
  knows : s.radar.KnowsOnly ids.toFinset
  snapshot : s.radar.SnapshotInvariant

theorem fewInvariant_start (planeData : List PlaneData) :
    FewInvariant (planeData.map PlaneData.id) (start planeData) := by
  refine ⟨?_, ⟨nofun, Finset.empty_subset _⟩, Radar.snapshotInvariant_start⟩
  simp only [start, List.map_map]
  rfl

theorem fewInvariant_step {ids : List Int32} (few : ids.toFinset.card ≤ planeDataCapacity)
    (s : AirTrafficControl) (label : Label) (s' : AirTrafficControl) (h : FewInvariant ids s)
    (hstep : s.step label = some s') : FewInvariant ids s' := by
  have threads := threads_ids_step s label s' h.threads hstep
  rcases step_moves_radar hstep with same | ⟨l, supplied, next⟩
  · exact ⟨threads, same ▸ h.knows, same ▸ h.snapshot⟩
  · have known : s.radar.planesInAirspace.card ≤ planeDataCapacity :=
      (Finset.card_le_card h.knows.planes).trans few
    refine ⟨threads, Radar.knowsOnly_step h.knows ?_ next,
      Radar.snapshotInvariant_step s.radar l s'.radar h.snapshot known next⟩
    intro msg same
    subst same
    obtain ⟨t, mem, pending⟩ := supplied
    rw [AircraftThread.pendingMessage_planeID pending, List.mem_toFinset, ← h.threads]
    exact List.mem_map_of_mem mem

/-- While an aircraft of the pass is still to answer, its record has room. -/
theorem FewInvariant.answersFit {ids : List Int32} {s s' : AirTrafficControl} {label : Label}
    (h : FewInvariant ids s) (hstep : s.step label = some s') : s.AnswersFit label := by
  intro i same
  subst same
  cases step_spec hstep with
  | poll i t t' planeID rest r info at_ blocked own next reply answered =>
      have shape := h.snapshot.shape
      rw [blocked] at shape
      obtain ⟨pass, _, visiting, records⟩ := shape.2
      have room := visiting.records_length
      rw [records]
      simp only [List.length_cons] at room
      omega

/-- A file of at most 100 aircraft never makes a pass too long for the array. -/
theorem answersFit_of_few {planeData : List PlaneData} {labels : List Label}
    {s : AirTrafficControl}
    (few : (planeData.map PlaneData.id).toFinset.card ≤ planeDataCapacity)
    (h : Machine.run step (start planeData) labels = some s) :
    Machine.Along step AnswersFit (start planeData) labels :=
  Machine.Along.of_invariant (fewInvariant_step few) (fun _ _ _ inv => inv.answersFit)
    (fewInvariant_start planeData) h

/-- Each write and each reader stays inside the array, whatever the schedule, in a process
over at most 100 aircraft, and in every run whose passes never collect more than 100
answers. -/
theorem snapshot_fits (planeData : List PlaneData) (labels : List Label) (s : AirTrafficControl)
    (h : Machine.run step (start planeData) labels = some s)
    (room : (planeData.map PlaneData.id).toFinset.card ≤ planeDataCapacity ∨
      Machine.Along step AnswersFit (start planeData) labels) : s.radar.SnapshotFits := by
  have guarded : Machine.Along step AnswersFit (start planeData) labels := by
    rcases room with few | guarded
    · exact answersFit_of_few few h
    · exact guarded
  exact (withinCapacity_run guarded h).snapshotFits

/-- One aircraft enters, is polled and is about to be published. -/
def pollOne : List Label :=
  [.radar .attach, .aircraft 0 (.opened true), .radar .arrivalLoop, .send 0, .radar .handle,
    .aircraft 0 (.attached true), .aircraft 0 .move, .radar .updateLoop, .radar .pulse,
    .radar .testEmpty, .radar (.copy [7]), .radar .nextPlane, .radar (.openChannel true),
    .poll 0, .radar .nextPlane]

theorem snapshot_fits_pollOne :
    ∃ s, Machine.run step (start [⟨0, 7, 50000, 50000, 20000, 100, 0, 0⟩]) pollOne = some s ∧
      s.radar.update = .writing true ∧ s.radar.SnapshotFits := by
  obtain ⟨s, hs, htest⟩ := Machine.exists_of_map_run step
    (start [⟨0, 7, 50000, 50000, 20000, 100, 0, 0⟩]) pollOne
    (fun s => decide (s.radar.update = .writing true)) (by decide +kernel)
  have room : Machine.Along step AnswersFit (start [⟨0, 7, 50000, 50000, 20000, 100, 0, 0⟩])
      pollOne := by decide +kernel
  exact ⟨s, hs, of_decide_eq_true htest, snapshot_fits _ pollOne s hs (.inr room)⟩

end AirTrafficControl

end QnxAtc
