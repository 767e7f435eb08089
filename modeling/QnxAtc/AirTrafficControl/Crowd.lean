import QnxAtc.AirTrafficControl.Capacity

/-! # A crowded airspace

Every planes file whose aircraft arrive at once, with IDs of their own, can be in the
airspace all together and be polled in one pass. The pass then holds as many records as
the file has lines, and from 101 lines on the write leaves the array.
-/

namespace QnxAtc.AirTrafficControl

/-- An aircraft that arrives at once and is inside after its first update. -/
structure EntersAtOnce (data : PlaneData) : Prop where
  now : data.arrivaTime.toInt ≤ 0
  inside : ¬ (Aircraft.ofPlaneData data).move.OutOfBounds

/-- The thread of such an aircraft when it waits for its first message. -/
def flying (data : PlaneData) : AircraftThread :=
  ⟨(Aircraft.ofPlaneData data).move, .receiving, [.sentEnter (createEnterAirspaceMessage data.id)]⟩

/-! ## Steps in the middle of the pool -/

theorem step_aircraft_middle {done todo : List AircraftThread} {t t' : AircraftThread} {r : Radar}
    {input : Input} (may : AircraftMay ⟨done ++ t :: todo, r⟩ t input)
    (next : t.step input = some t') :
    step ⟨done ++ t :: todo, r⟩ (.aircraft done.length input) =
      some ⟨done ++ t' :: todo, r⟩ := by
  simp only [step, Pool.getElem?_middle, if_pos may, next, Option.map_some, Pool.set_middle]

theorem step_radar {s : AirTrafficControl} {label : Radar.Label} {r : Radar}
    (may : s.RadarMay label) (next : s.radar.step label = some r) :
    s.step (.radar label) = some { s with radar := r } := by
  simp only [step, if_pos may, next, Option.map_some]

/-! ## Everybody enters -/

/-- Radar between two messages and between two iterations. -/
structure Idle (r : Radar) : Prop where
  arrival : r.arrival = .looping
  update : r.update = .looping
  running : r.stopThreads = false

theorem Idle.reachable {r : Radar} (idle : Idle r) : r.Reachable := by
  refine ⟨?_, idle.running⟩
  rw [idle.arrival]
  nofun

theorem step_send_middle {done todo : List AircraftThread} {t t' : AircraftThread} {r r' : Radar}
    {msg : Message} (pending : t.pendingMessage = some msg) (next : t.step (.sent true) = some t')
    (received : r.step (.receive (.message msg)) = some r') :
    step ⟨done ++ t :: todo, r⟩ (.send done.length) = some ⟨done ++ t' :: todo, r'⟩ := by
  simp only [step, Pool.getElem?_middle, pending, next, received, Pool.set_middle]

/-- One aircraft enters: Radar serves its message and it attaches its channel. -/
theorem enter_one {done todo : List AircraftThread} {data : PlaneData} {r : Radar}
    (enters : EntersAtOnce data) (idle : Idle r)
    (fresh : ∀ t ∈ done ++ todo, t.aircraft.id = data.id → t.phase.attached = false) :
    ∃ r', Machine.Reaches step ⟨done ++ AircraftThread.start (.ofPlaneData data) :: todo, r⟩
        ⟨done ++ flying data :: todo, r'⟩ ∧
      Idle r' ∧ r'.planesInAirspace = insert data.id r.planesInAirspace := by
  have due : ¬ ((0 : Nat) : Int) < (Aircraft.ofPlaneData data).arrivalTime.toInt := by
    simpa [Aircraft.ofPlaneData] using enters.now
  let msg : Message := createEnterAirspaceMessage data.id
  let thread (phase : Phase) : AircraftThread :=
    ⟨.ofPlaneData data, phase, [.sentEnter msg]⟩
  let entered : Radar :=
    { r.addPlaneToAirspace msg with arrival := .looping, handled := r.handled ++ [msg] }
  have opened : (AircraftThread.start (.ofPlaneData data)).step (.opened true) =
      some (thread .sendingEnter) := by
    simp only [AircraftThread.step, AircraftThread.start, if_neg due]
    rfl
  have moved : (thread .moving).step .move = some (flying data) := by
    simp only [AircraftThread.step, thread, AircraftThread.moved, if_neg enters.inside]
    rfl
  have free : ¬ Attached ⟨done ++ thread .attaching :: todo, entered⟩ data.id := by
    rintro ⟨t, mem, own, attached⟩
    have others : t = thread .attaching ∨ t ∈ done ++ todo := by
      simp only [List.mem_append, List.mem_cons] at mem ⊢
      tauto
    rcases others with rfl | other
    · cases attached
    · rw [fresh t other own] at attached
      cases attached
  have request : step ⟨done ++ AircraftThread.start (.ofPlaneData data) :: todo, r⟩
      (.aircraft done.length (.opened true)) = some ⟨done ++ thread .sendingEnter :: todo, r⟩ :=
    step_aircraft_middle (iff_of_true rfl idle.reachable) opened
  have listens : step ⟨done ++ thread .sendingEnter :: todo, r⟩ (.radar .arrivalLoop) =
      some ⟨done ++ thread .sendingEnter :: todo, { r with arrival := .receiving }⟩ := by
    apply step_radar
    · trivial
    · simp [Radar.step, Radar.arrivalStep, idle.arrival, idle.running]
  have served : step ⟨done ++ thread .sendingEnter :: todo, { r with arrival := .receiving }⟩
      (.send done.length) =
        some ⟨done ++ thread .attaching :: todo, { r with arrival := .handling msg }⟩ :=
    step_send_middle rfl rfl rfl
  have handled : step ⟨done ++ thread .attaching :: todo, { r with arrival := .handling msg }⟩
      (.radar .handle) = some ⟨done ++ thread .attaching :: todo, entered⟩ := by
    apply step_radar
    · trivial
    · rfl
  have attaches : step ⟨done ++ thread .attaching :: todo, entered⟩
      (.aircraft done.length (.attached true)) = some ⟨done ++ thread .moving :: todo, entered⟩ :=
    step_aircraft_middle (fun _ => free) rfl
  have moves : step ⟨done ++ thread .moving :: todo, entered⟩ (.aircraft done.length .move) =
      some ⟨done ++ flying data :: todo, entered⟩ :=
    step_aircraft_middle trivial moved
  refine ⟨entered, ?_, ⟨rfl, idle.update, idle.running⟩, rfl⟩
  exact .head request (.head listens (.head served (.head handled (.head attaches
    (.head moves (.refl step _))))))

/-- All aircraft of a list enter, one after the other. -/
theorem enter_all (todo : List PlaneData) (done : List AircraftThread) (r : Radar) (idle : Idle r)
    (enters : ∀ data ∈ todo, EntersAtOnce data) (distinct : (todo.map PlaneData.id).Nodup)
    (fresh : ∀ t ∈ done, t.aircraft.id ∉ todo.map PlaneData.id) :
    ∃ r', Machine.Reaches step
        ⟨done ++ todo.map fun data => AircraftThread.start (.ofPlaneData data), r⟩
        ⟨done ++ todo.map flying, r'⟩ ∧
      Idle r' ∧ r'.planesInAirspace = r.planesInAirspace ∪ (todo.map PlaneData.id).toFinset := by
  induction todo generalizing done r with
  | nil => exact ⟨r, .refl step _, idle, by simp⟩
  | cons data todo ih =>
      obtain ⟨new, rest⟩ := List.nodup_cons.mp distinct
      have others : ∀ t ∈ done ++ todo.map fun data => AircraftThread.start (.ofPlaneData data),
          t.aircraft.id = data.id → t.phase.attached = false := by
        intro t mem own
        rcases List.mem_append.mp mem with inside | outside
        · exact absurd (own ▸ List.mem_cons_self) (fresh t inside)
        · obtain ⟨other, _, rfl⟩ := List.mem_map.mp outside
          rfl
      obtain ⟨r₁, reaches₁, idle₁, planes₁⟩ :=
        enter_one (enters data List.mem_cons_self) idle others
      have fresh₁ : ∀ t ∈ done ++ [flying data], t.aircraft.id ∉ todo.map PlaneData.id := by
        intro t mem
        rcases List.mem_append.mp mem with inside | here
        · intro later
          exact fresh t inside (List.mem_cons_of_mem _ later)
        · rw [List.mem_singleton.mp here]
          exact new
      obtain ⟨r₂, reaches₂, idle₂, planes₂⟩ := ih (done ++ [flying data]) r₁ idle₁
        (fun other mem => enters other (List.mem_cons_of_mem data mem)) rest fresh₁
      simp only [List.append_assoc, List.singleton_append] at reaches₂
      refine ⟨r₂, reaches₁.trans reaches₂, idle₂, ?_⟩
      rw [planes₂, planes₁]
      ext planeID
      simp only [Finset.mem_union, Finset.mem_insert, List.mem_toFinset, List.map_cons,
        List.mem_cons]
      tauto

/-! ## Everybody is polled -/

theorem step_poll_middle {done todo : List AircraftThread} {t t' : AircraftThread} {r r' : Radar}
    {planeID : Int32} {rest : List Int32} {info : MsgPlaneInfo}
    (blocked : r.update = .sending planeID rest) (own : t.aircraft.id = planeID)
    (next : t.step (.received (.message (requestPositionMessage planeID).asBuffer)) = some t')
    (reply : (t.aircraft.handle (requestPositionMessage planeID).asBuffer).reply
      = .planeInfo info)
    (answered : r.step (.answer info) = some r') :
    step ⟨done ++ t :: todo, r⟩ (.poll done.length) = some ⟨done ++ t' :: todo, r'⟩ := by
  simp only [step, Pool.getElem?_middle, blocked, if_pos own, next, reply, answered,
    Option.map_some, Pool.set_middle]

/-- Radar at the beginning of a pass over `planesToPoll`. -/
def passBegun (r : Radar) (planesToPoll : List Int32) : Radar :=
  { r.setInactiveBuffer [] with
    update := .polling planesToPoll
    pass := some ⟨planesToPoll, []⟩ }

/-- A pass over aircraft that all wait for a message gets an answer from each. -/
theorem poll_all (todo : List PlaneData) (done : List AircraftThread) (r : Radar)
    (polling : r.update = .polling (todo.map PlaneData.id))
    (here : ∀ data ∈ todo, data.id ∈ r.planesInAirspace) :
    ∃ threads r', Machine.Reaches step ⟨done ++ todo.map flying, r⟩ ⟨threads, r'⟩ ∧
      r'.update = .polling [] ∧
      r'.inactiveBuffer.length = r.inactiveBuffer.length + todo.length := by
  induction todo generalizing done r with
  | nil => exact ⟨_, r, .refl step _, polling, rfl⟩
  | cons data todo ih =>
      let info : MsgPlaneInfo := (flying data).aircraft.planeInfo
      let buffer := (requestPositionMessage data.id).asBuffer
      let opening : Radar := { r with update := .opening data.id (todo.map PlaneData.id) }
      let sending : Radar := { r with update := .sending data.id (todo.map PlaneData.id) }
      let answered : Radar :=
        { (r.setInactiveBuffer (r.inactiveBuffer ++ [info])).record data.id (.answered info) with
          update := .polling (todo.map PlaneData.id) }
      have turn : step ⟨done ++ flying data :: todo.map flying, r⟩ (.radar .nextPlane) =
          some ⟨done ++ flying data :: todo.map flying, opening⟩ := by
        apply step_radar
        · trivial
        · simp [Radar.step, Radar.updateStep, polling, here data List.mem_cons_self, opening]
      have reached : Attached ⟨done ++ flying data :: todo.map flying, opening⟩ data.id :=
        ⟨flying data, by simp, rfl, rfl⟩
      have opens : step ⟨done ++ flying data :: todo.map flying, opening⟩
          (.radar (.openChannel true)) =
            some ⟨done ++ flying data :: todo.map flying, sending⟩ := by
        apply step_radar
        · exact iff_of_true rfl reached
        · rfl
      have taken : sending.step (.answer info) = some answered := if_pos rfl
      have answers : step ⟨done ++ flying data :: todo.map flying, sending⟩ (.poll done.length) =
          some ⟨done ++ (flying data).answered buffer :: todo.map flying, answered⟩ :=
        step_poll_middle rfl rfl rfl rfl taken
      obtain ⟨threads, r', reaches, passOver, length⟩ :=
        ih (done ++ [(flying data).answered buffer]) answered rfl
          fun other mem => here other (List.mem_cons_of_mem data mem)
      simp only [List.append_assoc, List.singleton_append] at reaches
      refine ⟨threads, r', .head turn (.head opens (.head answers reaches)), passOver, ?_⟩
      have longer : answered.inactiveBuffer = r.inactiveBuffer ++ [info] :=
        r.inactiveBuffer_setInactiveBuffer (r.inactiveBuffer ++ [info])
      rw [length, longer, List.length_append, List.length_singleton, List.length_cons]
      omega

/-- An idle Radar wakes up and copies a set that is not empty, in any order. -/
theorem copy_set (threads : List AircraftThread) {r : Radar} {planesToPoll : List Int32}
    (idle : Idle r) (found : r.planesInAirspace ≠ ∅) (once : planesToPoll.Nodup)
    (all : planesToPoll.toFinset = r.planesInAirspace) :
    Machine.Reaches step ⟨threads, r⟩ ⟨threads, passBegun r planesToPoll⟩ := by
  have loops : step ⟨threads, r⟩ (.radar .updateLoop) =
      some ⟨threads, { r with update := .waiting }⟩ := by
    apply step_radar
    · trivial
    · simp [Radar.step, Radar.updateStep, idle.update, idle.running]
  have wakes : step ⟨threads, { r with update := .waiting }⟩ (.radar .pulse) =
      some ⟨threads, { r with update := .testing }⟩ := by
    apply step_radar
    · trivial
    · rfl
  have finds : step ⟨threads, { r with update := .testing }⟩ (.radar .testEmpty) =
      some ⟨threads, { r with update := .copying, pass := some ⟨[], []⟩ }⟩ := by
    apply step_radar
    · trivial
    · exact if_pos found
  have copies : step ⟨threads, { r with update := .copying, pass := some ⟨[], []⟩ }⟩
      (.radar (.copy planesToPoll)) = some ⟨threads, passBegun r planesToPoll⟩ := by
    apply step_radar
    · trivial
    · exact if_pos ⟨once, all⟩
  exact .head loops (.head wakes (.head finds (.head copies (.refl step _))))

/-- The whole file in one pass: as many records as lines are about to be written. -/
theorem crowd_reaches (planeData : List PlaneData) (some_ : planeData ≠ [])
    (enters : ∀ data ∈ planeData, EntersAtOnce data)
    (distinct : (planeData.map PlaneData.id).Nodup) :
    ∃ s, Machine.Reaches step (start planeData) s ∧ s.radar.update = .writing true ∧
      s.radar.getActiveBuffer.length = planeData.length := by
  have attach : step (start planeData) (.radar .attach) =
      some { start planeData with radar := { Radar.start with arrival := .looping } } := by
    apply step_radar
    · trivial
    · rfl
  obtain ⟨r, reaches, idle, planes⟩ := enter_all planeData []
    { Radar.start with arrival := .looping } ⟨rfl, rfl, rfl⟩ enters distinct (by simp)
  simp only [List.nil_append] at reaches
  let threads := planeData.map flying
  let copied : Radar := passBegun r (planeData.map PlaneData.id)
  have set : (planeData.map PlaneData.id).toFinset = r.planesInAirspace := by
    rw [planes]
    exact (Finset.empty_union _).symm
  have nonempty : r.planesInAirspace ≠ ∅ := by
    rw [← set]
    simpa [List.toFinset_eq_empty_iff] using some_
  have copies : Machine.Reaches step ⟨threads, r⟩ ⟨threads, copied⟩ :=
    copy_set threads idle nonempty distinct set
  have here : ∀ data ∈ planeData, data.id ∈ copied.planesInAirspace := by
    intro data mem
    show data.id ∈ r.planesInAirspace
    rw [← set, List.mem_toFinset]
    exact List.mem_map_of_mem mem
  obtain ⟨threads', r', polled, passOver, length⟩ := poll_all planeData [] copied rfl here
  have cleared : copied.inactiveBuffer = [] := r.inactiveBuffer_setInactiveBuffer []
  rw [cleared, List.length_nil, Nat.zero_add] at length
  let written : Radar :=
    { r' with activeBufferIndex := r'.inactiveBufferIndex, update := .writing true }
  have switches : step ⟨threads', r'⟩ (.radar .nextPlane) = some ⟨threads', written⟩ := by
    apply step_radar
    · trivial
    · simp [Radar.step, Radar.updateStep, passOver, written]
  refine ⟨⟨threads', written⟩, ?_, rfl, length⟩
  apply Machine.Reaches.head attach
  apply reaches.trans
  apply copies.trans
  apply Machine.Reaches.trans polled
  exact .head switches (.refl step _)

/-- For aircraft that are all in the airspace together, the array is large enough exactly
when the file has at most 100 lines. -/
theorem always_fits_iff (planeData : List PlaneData)
    (enters : ∀ data ∈ planeData, EntersAtOnce data)
    (distinct : (planeData.map PlaneData.id).Nodup) :
    (∀ labels s, Machine.run step (start planeData) labels = some s → s.radar.SnapshotFits) ↔
      planeData.length ≤ planeDataCapacity := by
  constructor
  · intro fits
    by_cases some_ : planeData = []
    · subst some_
      exact Nat.zero_le _
    · obtain ⟨s, ⟨labels, run⟩, writing, length⟩ :=
        crowd_reaches planeData some_ enters distinct
      rw [← length]
      exact (s.radar.writeToSharedMemory_ok_iff 0).mp ((fits labels s run).write true 0 writing)
  · intro few labels s run
    have known : (planeData.map PlaneData.id).toFinset.card ≤ planeDataCapacity := by
      rw [List.toFinset_card_of_nodup distinct, List.length_map]
      exact few
    exact (withinCapacity_run (answersFit_of_few known run) run).snapshotFits

/-- A file of 101 aircraft that hover in the middle of the airspace. -/
def crowdedFile : List PlaneData :=
  (List.range 101).map fun i => ⟨0, Int32.ofNat (i + 1), 50000, 50000, 20000, 0, 0, 0⟩

/-- Radar reaches a write of 101 records into the array of 100. -/
theorem crowdedFile_overflows :
    ¬ ∀ (planeData : List PlaneData) (labels : List Label) (s : AirTrafficControl),
        Machine.run step (start planeData) labels = some s → s.radar.SnapshotFits := by
  intro claim
  have conditions : ∀ data ∈ crowdedFile, data.arrivaTime.toInt ≤ 0 ∧
      ¬ (Aircraft.ofPlaneData data).move.OutOfBounds := by decide +kernel
  have enters : ∀ data ∈ crowdedFile, EntersAtOnce data := by
    intro data mem
    exact ⟨(conditions data mem).1, (conditions data mem).2⟩
  have few := (always_fits_iff crowdedFile enters (by decide +kernel)).mp (claim crowdedFile)
  exact absurd few (by decide)

end QnxAtc.AirTrafficControl
