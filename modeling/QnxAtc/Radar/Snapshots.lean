import QnxAtc.Radar.State

/-! # Published snapshots

What an iteration of `ListenUpdatePosition` leaves in shared memory is the pass it
made: one record for each aircraft that answered, none from an earlier pass. The
invariant behind it joins the two buffers, the flag and the point of the iteration.
-/

namespace QnxAtc.Radar

open FixedArray

/-! ## The two buffers -/

theorem inactiveBufferIndex_ne (r : Radar) : r.activeBufferIndex ≠ r.inactiveBufferIndex := by
  have distinct : ∀ i : Fin 2, i ≠ i + 1 := by decide
  exact distinct r.activeBufferIndex

@[simp] theorem getActiveBuffer_setInactiveBuffer (r : Radar) (buffer : List MsgPlaneInfo) :
    (r.setInactiveBuffer buffer).getActiveBuffer = r.getActiveBuffer := by
  simp only [getActiveBuffer, setInactiveBuffer, Function.update_of_ne r.inactiveBufferIndex_ne]

@[simp] theorem inactiveBuffer_setInactiveBuffer (r : Radar) (buffer : List MsgPlaneInfo) :
    (r.setInactiveBuffer buffer).inactiveBuffer = buffer := by
  simp only [inactiveBuffer, setInactiveBuffer]
  exact Function.update_self ..

/-! ## One publication -/

/-- Shared memory holds exactly `records`. -/
structure Publishes (shared : SharedMemory) (records : List MsgPlaneInfo) : Prop where
  count : shared.count = records.length
  isEmpty : shared.isEmpty = records.isEmpty
  records : shared.planeData.toList.take shared.count = records

theorem Publishes.isEmpty_iff {shared : SharedMemory} {records : List MsgPlaneInfo}
    (h : Publishes shared records) : shared.isEmpty = true ↔ shared.count = 0 := by
  rw [h.isEmpty, h.count, List.isEmpty_iff, List.length_eq_zero_iff]

/-- What `writeToSharedMemory` does when it has a result. -/
structure Written (r written : Radar) : Prop where
  frame : written = { r with
    shared := written.shared, planesInAirspaceData := written.planesInAirspaceData }
  cleared : written.getActiveBuffer = []
  buffers : ∀ i, written.planesInAirspaceData i = r.planesInAirspaceData i ∨
    written.planesInAirspaceData i = []
  publishes : Publishes written.shared r.getActiveBuffer

theorem writeToSharedMemory_spec {r written : Radar} {tickCounter : UInt64}
    (h : r.writeToSharedMemory tickCounter = .ok written) : Written r written := by
  unfold writeToSharedMemory at h
  split at h
  · rename_i none
    have empty := List.isEmpty_iff.mp none
    cases h
    exact ⟨rfl, empty, fun _ => .inl rfl, by simp [empty], by simp [empty], by simp [empty]⟩
  · rename_i some
    split at h
    · cases h
    · rename_i planeData copied
      obtain ⟨fits, rfl⟩ := copyInto_eq_some.mp copied
      cases h
      refine ⟨rfl, Function.update_self .., ?_, rfl, (Bool.eq_false_iff.mpr some).symm,
        take_overwrite _ fits⟩
      intro i
      by_cases active : i = r.activeBufferIndex
      · subst active
        exact .inr (Function.update_self ..)
      · exact .inl (Function.update_of_ne active ..)

/-- The copy is defined exactly when the buffer fits the array. -/
theorem writeToSharedMemory_ok_iff (r : Radar) (tickCounter : UInt64) :
    (∃ written, r.writeToSharedMemory tickCounter = .ok written) ↔
      r.getActiveBuffer.length ≤ planeDataCapacity := by
  unfold writeToSharedMemory
  split
  · rename_i none
    have empty := List.isEmpty_iff.mp none
    exact iff_of_true ⟨_, rfl⟩ (by simp [empty])
  · cases copied : copyInto r.shared.planeData r.getActiveBuffer with
    | none =>
        have long := copyInto_eq_none.mp copied
        exact iff_of_false (by simp) (by omega)
    | some planeData => exact iff_of_true ⟨_, rfl⟩ (copyInto_eq_some.mp copied).1

/-! ## Everything Radar holds -/

/-- `Q` holds of both buffers and of the records in the snapshot. -/
structure Holds (Q : List MsgPlaneInfo → Prop) (r : Radar) : Prop where
  buffers : ∀ i, Q (r.planesInAirspaceData i)
  snapshot : ∃ records, Publishes r.shared records ∧ Q records

theorem publishes_clearedMemory : Publishes clearedMemory [] := by
  refine ⟨rfl, rfl, ?_⟩
  simp [clearedMemory]

theorem holds_start {Q : List MsgPlaneInfo → Prop} (empty : Q []) : Holds Q start :=
  ⟨fun _ => empty, [], publishes_clearedMemory, empty⟩

theorem Holds.setInactiveBuffer {Q : List MsgPlaneInfo → Prop} {r : Radar} (h : Holds Q r)
    {buffer : List MsgPlaneInfo} (new : Q buffer) : Holds Q (r.setInactiveBuffer buffer) := by
  refine ⟨?_, h.snapshot⟩
  intro i
  by_cases here : i = r.inactiveBufferIndex
  · subst here
    simp only [Radar.setInactiveBuffer, Function.update_self]
    exact new
  · simp only [Radar.setInactiveBuffer, Function.update_of_ne here]
    exact h.buffers i

/-- Only an answer makes a buffer longer: what holds of the empty buffer and survives the
answers holds of all that is buffered and published. -/
theorem holds_step {Q : List MsgPlaneInfo → Prop} {r r' : Radar} {label : Label} (empty : Q [])
    (h : Holds Q r)
    (grows : ∀ info, label = .answer info → Q (r.inactiveBuffer ++ [info]))
    (hstep : r.step label = some r') : Holds Q r' := by
  cases step_spec hstep with
  | arrival | receive | loop | pulse | foundPlanes | stillEmpty | nowEmpty | switch | turn | gone
    | openChannel | sendFails | erase | shutdown => exact ⟨h.buffers, h.snapshot⟩
  | handle msg at_ =>
      obtain ⟨planes, same⟩ := r.handleMessage_eq msg
      rw [same]
      exact ⟨h.buffers, h.snapshot⟩
  | copy planesToPoll at_ once all =>
      have cleared := h.setInactiveBuffer empty
      exact ⟨cleared.buffers, cleared.snapshot⟩
  | answer planeID rest at_ info own =>
      have longer := h.setInactiveBuffer (grows info rfl)
      exact ⟨longer.buffers, longer.snapshot⟩
  | write polled tickCounter at_ written result =>
      have spec := writeToSharedMemory_spec result
      refine ⟨?_, r.getActiveBuffer, spec.publishes, h.buffers r.activeBufferIndex⟩
      intro i
      show Q (written.planesInAirspaceData i)
      rcases spec.buffers i with same | cleared
      · rw [same]
        exact h.buffers i
      · rw [cleared]
        exact empty
  | clear ended => exact ⟨h.buffers, [], publishes_clearedMemory, empty⟩

/-! ## One pass -/

/-- A pass that still has `rest` to visit. -/
structure Visiting (pass : PollPass) (rest : List Int32) : Prop where
  once : pass.copied.Nodup
  order : pass.turns.map Prod.fst ++ rest = pass.copied
  own : ∀ turn ∈ pass.turns, ∀ info, turn.2 = .answered info → info.id = turn.1
  small : pass.copied.length ≤ planeDataCapacity

theorem Visiting.next {pass : PollPass} {planeID : Int32} {rest : List Int32}
    (h : Visiting pass (planeID :: rest)) (turn : Turn)
    (own : ∀ info, turn = .answered info → info.id = planeID) :
    Visiting { pass with turns := pass.turns ++ [(planeID, turn)] } rest := by
  refine ⟨h.once, ?_, ?_, h.small⟩
  · rw [← h.order]
    simp
  · intro other hmem
    rcases List.mem_append.mp hmem with old | new
    · exact h.own other old
    · rw [List.mem_singleton.mp new]
      exact own

theorem PollPass.records_append (pass : PollPass) (planeID : Int32) (turn : Turn) :
    PollPass.records { pass with turns := pass.turns ++ [(planeID, turn)] } =
      pass.records ++ turn.record?.toList := by
  cases turn <;> simp [PollPass.records, Turn.record?]

/-- The records so far leave room for those still to come. -/
theorem Visiting.records_length {pass : PollPass} {rest : List Int32} (h : Visiting pass rest) :
    pass.records.length + rest.length ≤ planeDataCapacity := by
  have kept : pass.records.length ≤ pass.turns.length := List.length_filterMap_le ..
  have visited := congrArg List.length h.order
  have small := h.small
  simp only [List.length_append, List.length_map] at visited
  omega

/-! ## The invariant -/

/-- What is still to be visited at a point inside a pass. -/
def pending : UpdatePhase → Option (List Int32)
  | .polling rest => some rest
  | .opening planeID rest | .sending planeID rest | .unreachable planeID rest =>
      some (planeID :: rest)
  | _ => none

/-- Between two iterations the snapshot is that of the last pass, or empty. -/
def Settled (r : Radar) : Prop :=
  match r.pass with
  | none => r.shared.isEmpty = true
  | some pass => Visiting pass [] ∧ Publishes r.shared pass.records

def InPass (r : Radar) (rest : List Int32) : Prop :=
  ∃ pass, r.pass = some pass ∧ Visiting pass rest ∧ r.inactiveBuffer = pass.records

/-- What the buffers, the snapshot and the pass are at each point. -/
def IterationShape (r : Radar) : UpdatePhase → Prop
  | .looping | .waiting | .testing => r.getActiveBuffer = [] ∧ Settled r
  | .copying => r.getActiveBuffer = []
  | .polling rest => r.getActiveBuffer = [] ∧ InPass r rest
  | .opening planeID rest | .sending planeID rest | .unreachable planeID rest =>
      r.getActiveBuffer = [] ∧ InPass r (planeID :: rest)
  | .writing true =>
      ∃ pass, r.pass = some pass ∧ Visiting pass [] ∧ r.getActiveBuffer = pass.records
  | .writing false => r.getActiveBuffer = [] ∧ r.pass = none
  | .ended => True

structure SnapshotInvariant (r : Radar) : Prop where
  flag : r.shared.isEmpty = true ↔ r.shared.count = 0
  wasEmpty : r.wasAirspaceEmpty = true → r.shared.isEmpty = true
  shape : IterationShape r r.update

theorem snapshotInvariant_start : SnapshotInvariant start :=
  ⟨by simp [start, clearedMemory], fun _ => rfl, rfl, rfl⟩

/-- One more turn of a pass, with the record it adds to the inactive buffer. -/
theorem InPass.next {r r' : Radar} {planeID : Int32} {rest : List Int32}
    (h : InPass r (planeID :: rest)) (turn : Turn)
    (own : ∀ info, turn = .answered info → info.id = planeID)
    (pass : r'.pass = (r.record planeID turn).pass)
    (buffer : r'.inactiveBuffer = r.inactiveBuffer ++ turn.record?.toList) : InPass r' rest := by
  obtain ⟨old, hold, visiting, same⟩ := h
  refine ⟨_, ?_, visiting.next turn own, ?_⟩
  · rw [pass, record, hold]
    rfl
  · rw [buffer, same, PollPass.records_append]

/-- The write of an iteration publishes its pass, or the empty snapshot if it made none. -/
theorem SnapshotInvariant.write {r written : Radar} {polled : Bool} (h : SnapshotInvariant r)
    (at_ : r.update = .writing polled) (spec : Written r written) :
    SnapshotInvariant { written with update := .looping, wasAirspaceEmpty := !polled } := by
  have shape := h.shape
  have samePass : written.pass = r.pass := by rw [spec.frame]
  rw [at_] at shape
  cases polled with
  | true =>
      obtain ⟨pass, hpass, visiting, same⟩ := shape
      refine ⟨spec.publishes.isEmpty_iff, nofun, spec.cleared, ?_⟩
      simp only [Settled, samePass, hpass]
      exact ⟨visiting, same ▸ spec.publishes⟩
  | false =>
      obtain ⟨empty, hpass⟩ := shape
      have published : written.shared.isEmpty = true := by
        rw [spec.publishes.isEmpty, empty]
        rfl
      refine ⟨spec.publishes.isEmpty_iff, fun _ => published, spec.cleared, ?_⟩
      simp only [Settled, samePass, hpass]
      exact published

theorem snapshotInvariant_step (r : Radar) (label : Label) (r' : Radar)
    (h : SnapshotInvariant r) (few : r.planesInAirspace.card ≤ planeDataCapacity)
    (hstep : r.step label = some r') : SnapshotInvariant r' := by
  have shape := h.shape
  cases step_spec hstep with
  | arrival label phase idle local_ => exact ⟨h.flag, h.wasEmpty, shape⟩
  | receive msg at_ => exact ⟨h.flag, h.wasEmpty, shape⟩
  | handle msg at_ =>
      obtain ⟨planes, same⟩ := r.handleMessage_eq msg
      rw [same]
      exact ⟨h.flag, h.wasEmpty, shape⟩
  | shutdown => exact ⟨h.flag, h.wasEmpty, shape⟩
  | clear ended =>
      refine ⟨by simp [clearedMemory], fun _ => rfl, ?_⟩
      simp only [ended, IterationShape]
  | loop phase at_ next =>
      rw [at_] at shape
      refine ⟨h.flag, h.wasEmpty, ?_⟩
      rcases next with rfl | rfl
      · exact shape
      · trivial
  | pulse at_ =>
      rw [at_] at shape
      exact ⟨h.flag, h.wasEmpty, shape⟩
  | foundPlanes at_ found =>
      rw [at_] at shape
      exact ⟨h.flag, h.wasEmpty, shape.1⟩
  | stillEmpty at_ found was =>
      rw [at_] at shape
      exact ⟨h.flag, h.wasEmpty, shape.1, h.wasEmpty was⟩
  | nowEmpty at_ found was =>
      rw [at_] at shape
      exact ⟨h.flag, h.wasEmpty, shape.1, rfl⟩
  | copy planesToPoll at_ once all =>
      rw [at_] at shape
      have small : planesToPoll.length ≤ planeDataCapacity := by
        rw [← List.toFinset_card_of_nodup once, all]
        exact few
      refine ⟨h.flag, h.wasEmpty, ?_, ⟨planesToPoll, []⟩, rfl, ⟨once, rfl, by simp, small⟩, ?_⟩
      · exact (r.getActiveBuffer_setInactiveBuffer []).trans shape
      · exact r.inactiveBuffer_setInactiveBuffer []
  | switch at_ =>
      rw [at_] at shape
      obtain ⟨pass, hpass, visiting, same⟩ := shape.2
      exact ⟨h.flag, h.wasEmpty, pass, hpass, visiting, same⟩
  | turn planeID rest at_ here =>
      rw [at_] at shape
      exact ⟨h.flag, h.wasEmpty, shape⟩
  | gone planeID rest at_ left =>
      rw [at_] at shape
      refine ⟨h.flag, h.wasEmpty, shape.1, shape.2.next .gone ?_ rfl ?_⟩
      · intro info same
        cases same
      · exact (List.append_nil _).symm
  | openChannel planeID rest at_ ok =>
      rw [at_] at shape
      refine ⟨h.flag, h.wasEmpty, ?_⟩
      cases ok
      · exact shape
      · exact shape
  | answer planeID rest at_ info own =>
      rw [at_] at shape
      refine ⟨h.flag, h.wasEmpty, ?_, shape.2.next (.answered info) ?_ rfl ?_⟩
      · exact (r.getActiveBuffer_setInactiveBuffer _).trans shape.1
      · intro answered same
        cases same
        exact own
      · show (r.setInactiveBuffer (r.inactiveBuffer ++ [info])).inactiveBuffer = _
        exact r.inactiveBuffer_setInactiveBuffer _
  | sendFails planeID rest at_ =>
      rw [at_] at shape
      exact ⟨h.flag, h.wasEmpty, shape⟩
  | erase planeID rest at_ =>
      rw [at_] at shape
      refine ⟨h.flag, h.wasEmpty, shape.1, shape.2.next .unreachable ?_ rfl ?_⟩
      · intro info same
        cases same
      · exact (List.append_nil _).symm
  | write polled tickCounter at_ written result =>
      exact h.write at_ (writeToSharedMemory_spec result)

theorem snapshotInvariant_run {labels : List Label} {r : Radar}
    (h : Machine.run step start labels = some r)
    (few : Machine.Along step (fun r _ => r.planesInAirspace.card ≤ planeDataCapacity) start
      labels) : SnapshotInvariant r :=
  Machine.run_invariant_along snapshotInvariant_step snapshotInvariant_start few h

/-! ## Snapshots over a whole run -/

/-- The snapshot has one record for each ID that was copied by the pass, still in the set
at its turn and answered, and no other record. -/
structure Faithful (shared : SharedMemory) (pass : PollPass) : Prop where
  copiedOnce : pass.copied.Nodup
  visited : pass.turns.map Prod.fst = pass.copied
  count : shared.count = pass.records.length
  records : shared.planeData.toList.take shared.count = pass.records
  distinct : (pass.records.map MsgPlaneInfo.id).Nodup
  mem_iff : ∀ planeID, planeID ∈ pass.records.map MsgPlaneInfo.id ↔
    ∃ info, (planeID, .answered info) ∈ pass.turns

/-- The IDs on the records are those of the answered turns, in their order. -/
theorem records_ids_sublist (turns : List (Int32 × Turn))
    (own : ∀ turn ∈ turns, ∀ info, turn.2 = .answered info → info.id = turn.1) :
    ((turns.filterMap fun turn => turn.2.record?).map MsgPlaneInfo.id).Sublist
      (turns.map Prod.fst) := by
  induction turns with
  | nil => exact .slnil
  | cons turn turns ih =>
      have rest := ih fun other hmem => own other (List.mem_cons_of_mem turn hmem)
      obtain ⟨planeID, outcome⟩ := turn
      cases outcome with
      | gone => exact rest.cons planeID
      | unreachable => exact rest.cons planeID
      | answered info =>
          have same : info.id = planeID := own _ List.mem_cons_self info rfl
          simp only [List.filterMap_cons, Turn.record?, List.map_cons, same]
          exact rest.cons_cons planeID

theorem faithful_of_settled {shared : SharedMemory} {pass : PollPass} (visiting : Visiting pass [])
    (publishes : Publishes shared pass.records) : Faithful shared pass := by
  have visited : pass.turns.map Prod.fst = pass.copied := by simpa using visiting.order
  have ids := records_ids_sublist pass.turns visiting.own
  refine ⟨visiting.once, visited, publishes.count, publishes.records, ?_, ?_⟩
  · rw [visited] at ids
    exact visiting.once.sublist ids
  · intro planeID
    constructor
    · intro hmem
      obtain ⟨info, hinfo, rfl⟩ := List.mem_map.mp hmem
      obtain ⟨⟨visitedID, outcome⟩, hturn, hrecord⟩ := List.mem_filterMap.mp hinfo
      cases outcome with
      | gone => cases hrecord
      | unreachable => cases hrecord
      | answered answer =>
          cases hrecord
          have own : info.id = visitedID := visiting.own _ hturn info rfl
          rw [own]
          exact ⟨info, hturn⟩
    · intro answered
      obtain ⟨info, hturn⟩ := answered
      have own : info.id = planeID := visiting.own _ hturn info rfl
      have hrecord : info ∈ pass.records := List.mem_filterMap.mpr ⟨_, hturn, rfl⟩
      rw [← own]
      exact List.mem_map_of_mem hrecord

/-- While the set never holds more than 100 aircraft, every write of Radar is defined,
each iteration leaves the snapshot of its own pass, or an empty one when it found the
set empty, and `is_empty` always says whether the count is zero. -/
theorem snapshots_faithful (labels : List Label) (r : Radar)
    (h : Machine.run step start labels = some r)
    (few : Machine.Along step (fun r _ => r.planesInAirspace.card ≤ planeDataCapacity) start
      labels) :
    (∀ polled tickCounter, r.update = .writing polled →
      ∃ written, r.writeToSharedMemory tickCounter = .ok written) ∧
    (r.update = .looping →
      match r.pass with
      | some pass => Faithful r.shared pass
      | none => r.shared.isEmpty = true ∧ r.shared.count = 0) ∧
    (r.shared.isEmpty = true ↔ r.shared.count = 0) := by
  have inv := snapshotInvariant_run h few
  have shape := inv.shape
  refine ⟨?_, ?_, inv.flag⟩
  · intro polled tickCounter at_
    rw [at_] at shape
    apply (r.writeToSharedMemory_ok_iff tickCounter).mpr
    cases polled with
    | true =>
        obtain ⟨pass, _, visiting, same⟩ := shape
        rw [same]
        exact visiting.records_length
    | false =>
        rw [shape.1]
        exact Nat.zero_le _
  · intro at_
    rw [at_] at shape
    have settled := shape.2
    cases hpass : r.pass with
    | none =>
        simp only [Settled, hpass] at settled
        exact ⟨settled, inv.flag.mp settled⟩
    | some pass =>
        simp only [Settled, hpass] at settled
        exact faithful_of_settled settled.1 settled.2

/-- One iteration over two aircraft, of which the first is gone when its turn comes. -/
def oneLeaves : List Label :=
  let enter (planeID : Int32) : List Label :=
    [.arrivalLoop, .receive (.message (createEnterAirspaceMessage planeID)), .handle]
  .attach :: enter 1 ++ enter 2 ++ [.updateLoop, .pulse, .testEmpty, .copy [1, 2], .arrivalLoop,
    .receive (.message (createExitAirspaceMessage 1)), .handle, .nextPlane, .nextPlane,
    .openChannel true, .answer ⟨2, 500, 600, 20000, 10, 0, 0⟩, .nextPlane, .write 3]

theorem snapshots_faithful_oneLeaves :
    ∃ r pass, Machine.run step start oneLeaves = some r ∧ r.pass = some pass ∧
      pass.turns.map Prod.fst = [1, 2] ∧ r.shared.count = 1 ∧ Faithful r.shared pass := by
  obtain ⟨r, hr, htest⟩ := Machine.exists_of_map_run step start oneLeaves
    (fun r => decide (r.update = .looping) && r.shared.count == 1 &&
      r.pass.any fun pass => pass.turns.map Prod.fst == [1, 2]) (by decide +kernel)
  simp only [Bool.and_eq_true, decide_eq_true_eq, beq_iff_eq, Option.any_eq_true] at htest
  obtain ⟨⟨looping, one⟩, pass, hpass, turns⟩ := htest
  have safe := snapshots_faithful oneLeaves r hr (by decide +kernel)
  have settled := safe.2.1 looping
  rw [hpass] at settled
  exact ⟨r, pass, hr, hpass, turns, one, settled⟩

end QnxAtc.Radar
