import QnxAtc.Aircraft.Flight
import QnxAtc.Library.Progression

/-! # The filed trajectory

Under read-only messages an aircraft moves along the line its file entry names. It
moves before it answers for the first time, so its reports start one step after the
entry point; and on integer speeds it leaves the airspace after a number of rounds that
is known beforehand.
-/

namespace QnxAtc

def MsgPlaneInfo.position (r : MsgPlaneInfo) : ℚ × ℚ × ℚ := (r.positionX, r.positionY, r.positionZ)

def MsgPlaneInfo.velocity (r : MsgPlaneInfo) : ℚ × ℚ × ℚ := (r.velocityX, r.velocityY, r.velocityZ)

namespace Aircraft

@[simp] theorem planeInfo_position (a : Aircraft) : a.planeInfo.position = a.position := rfl

@[simp] theorem planeInfo_velocity (a : Aircraft) : a.planeInfo.velocity = a.velocity := rfl

theorem not_outOfBounds_of_inAirspace {a : Aircraft} (h : a.planeInfo.InAirspace) :
    ¬ a.OutOfBounds :=
  a.not_outOfBounds_iff.mpr ⟨h.x, h.y, h.z⟩

/-- An aircraft with no velocity does not move. -/
theorem move_iterate_of_velocity {a : Aircraft} (still : a.velocity = (0, 0, 0)) (n : Nat) :
    move^[n] a = a := by
  cases a
  simp only [velocity, Prod.mk.injEq] at still
  obtain ⟨rfl, rfl, rfl⟩ := still
  rw [move_iterate]
  simp only [mul_zero, add_zero]

theorem position_move_iff (a : Aircraft) :
    a.move.position = a.position ↔ a.velocity = (0, 0, 0) := by
  simp only [position, velocity, move, Prod.mk.injEq, add_eq_left]

end Aircraft

namespace AircraftThread

/-! ## From the creation of the thread to its first update -/

/-- Before the loop, or finished without entering it. -/
structure Approach (a : Aircraft) (t : AircraftThread) : Prop where
  aircraft : t.aircraft = a
  phase : (∃ c, t.phase = .arriving c) ∨ t.phase = .sendingEnter ∨ t.phase = .attaching ∨
    t.phase = .ended
  reports : t.reports = []

/-- A thread under read-only messages since its creation, `k` updates later. -/
def Filed (a : Aircraft) (k : Nat) (t : AircraftThread) : Prop :=
  Approach a t ∧ k = 0 ∨ ∃ log, log.filterMap Event.record? = [] ∧ Flight a log k t

theorem filed_start (a : Aircraft) : Filed a 0 (start a) :=
  .inl ⟨⟨rfl, .inl ⟨0, rfl⟩, rfl⟩, rfl⟩

theorem Approach.step {a : Aircraft} {t t' : AircraftThread} {i : Input} (h : Approach a t)
    (hstep : t.step i = some t') : i.isMove = false ∧ Filed a 0 t' := by
  obtain ⟨rfl, phase, reports⟩ := h
  cases step_spec hstep with
  | tick c at_ => exact ⟨rfl, .inl ⟨⟨rfl, .inl ⟨c + 1, rfl⟩, reports⟩, rfl⟩⟩
  | enter c at_ =>
      refine ⟨rfl, .inl ⟨⟨rfl, .inr (.inl rfl), ?_⟩, rfl⟩⟩
      simpa [AircraftThread.reports, List.filterMap_cons, Event.record?] using reports
  | noRadar c at_ => exact ⟨rfl, .inl ⟨⟨rfl, .inr (.inr (.inr rfl)), reports⟩, rfl⟩⟩
  | enterSent ok at_ =>
      cases ok with
      | false => exact ⟨rfl, .inl ⟨⟨rfl, .inr (.inr (.inr rfl)), reports⟩, rfl⟩⟩
      | true => exact ⟨rfl, .inl ⟨⟨rfl, .inr (.inr (.inl rfl)), reports⟩, rfl⟩⟩
  | attach ok at_ =>
      cases ok with
      | false => exact ⟨rfl, .inl ⟨⟨rfl, .inr (.inr (.inr rfl)), reports⟩, rfl⟩⟩
      | true => exact ⟨rfl, .inr ⟨t.log, reports, Flight.start (.inl rfl)⟩⟩
  | move at_ | exitSent _ at_ | receiveError at_ | receivePulse at_ | answer _ at_ | wake at_
    | detach at_ => simp [at_] at phase

theorem Filed.step {a : Aircraft} {k : Nat} {t t' : AircraftThread} {i : Input} (h : Filed a k t)
    (readOnly : ∀ rcv, i = .received rcv → rcv.ReadOnly) (hstep : t.step i = some t') :
    Filed a (k + if i.isMove then 1 else 0) t' := by
  rcases h with ⟨approach, rfl⟩ | ⟨log, silent, flight⟩
  · obtain ⟨noMove, filed⟩ := approach.step hstep
    rw [noMove]
    exact filed
  · exact .inr ⟨log, silent, flight.step readOnly hstep⟩

theorem Filed.run {a : Aircraft} {k : Nat} {t t' : AircraftThread} {inputs : List Input}
    (h : Filed a k t) (readOnly : ReadOnlyInputs inputs)
    (hrun : Machine.run AircraftThread.step t inputs = some t') :
    Filed a (k + inputs.countP Input.isMove) t' := by
  induction inputs generalizing t k with
  | nil => cases hrun; exact h
  | cons i inputs ih =>
      obtain ⟨m, hm, rest⟩ := Option.bind_eq_some_iff.mp hrun
      have next := h.step (fun rcv heq => readOnly rcv (heq ▸ List.mem_cons_self)) hm
      have flown := ih next readOnly.tail rest
      rw [List.countP_cons]
      convert flown using 1
      omega

/-- Whatever read-only messages come, the reports are those of an increasing sequence of
updates, none of them the entry position, and every update up to them passed the check. -/
theorem reports_filed {a : Aircraft} {inputs : List Input} {t : AircraftThread}
    (readOnly : ReadOnlyInputs inputs)
    (run : Machine.run AircraftThread.step (start a) inputs = some t) :
    ∃ iterations : List Nat, iterations.Pairwise (· < ·) ∧
      t.reports = recordsAt a iterations ∧
      ∀ n ∈ iterations, 1 ≤ n ∧ ∀ i, 1 ≤ i → i ≤ n → ¬ (Aircraft.move^[i] a).OutOfBounds := by
  have filed := (filed_start a).run readOnly run
  rcases filed with ⟨approach, -⟩ | ⟨log, silent, flight⟩
  · exact ⟨[], .nil, approach.reports, by simp⟩
  · obtain ⟨iterations, sorted, bounds, -, reports⟩ := flight.reports
    rw [silent, List.nil_append] at reports
    refine ⟨iterations, sorted, reports, ?_⟩
    intro n mem
    refine ⟨(bounds n mem).1, ?_⟩
    intro i one le
    rcases Nat.lt_or_eq_of_le (le.trans (bounds n mem).2) with lt | last
    · exact flight.earlier i one lt
    · -- the last update was reported, and everything reported is inside
      have same : i = n := by
        have := (bounds n mem).2
        omega
      have reported : (Aircraft.move^[n] a).planeInfo ∈ t.reports := by
        rw [reports]
        exact List.mem_map.mpr ⟨n, mem, rfl⟩
      rw [same]
      exact Aircraft.not_outOfBounds_of_inAirspace ((logInvariant_run run).reports _ reported).1

/-! ## A run into the loop -/

/-- The inputs that take a new thread to the head of its loop. -/
def entry (a : Aircraft) : List Input :=
  List.replicate a.arrivalTime.toInt.toNat .pulse ++ [.opened true, .sent true, .attached true]

theorem run_arriving (a : Aircraft) (log : List Event) (c m : Nat)
    (early : (c + m : Int) ≤ a.arrivalTime.toInt) :
    Machine.run step ⟨a, .arriving c, log⟩ (List.replicate m .pulse) =
      some ⟨a, .arriving (c + m), log⟩ := by
  induction m generalizing c with
  | zero => rfl
  | succ m ih =>
      have tick : step ⟨a, .arriving c, log⟩ .pulse = some ⟨a, .arriving (c + 1), log⟩ :=
        if_pos (by simp only; omega)
      rw [List.replicate_succ, Machine.run_cons_of_step tick, ih (c + 1) (by push_cast; omega)]
      congr 3
      omega

/-- Every new thread gets to its loop. -/
theorem run_entry (a : Aircraft) : Machine.run step (start a) (entry a) =
    some ⟨a, .moving, [.sentEnter (createEnterAirspaceMessage a.id)]⟩ := by
  rw [entry, Machine.run_append_eq_some]
  by_cases late : 0 < a.arrivalTime.toInt
  · refine ⟨_, run_arriving a [] 0 _ (by omega), ?_⟩
    have due : ¬ ((0 + a.arrivalTime.toInt.toNat : Nat) : Int) < a.arrivalTime.toInt := by omega
    simp only [Machine.run, step, if_neg due, if_true, Option.bind_some, List.nil_append]
  · have none_ : a.arrivalTime.toInt.toNat = 0 := by omega
    rw [none_]
    have due : ¬ ((0 : Nat) : Int) < a.arrivalTime.toInt := by omega
    exact ⟨start a, rfl, by
      simp only [Machine.run, start, step, if_neg due, if_true, Option.bind_some,
        List.nil_append]⟩

theorem entry_readOnly (a : Aircraft) : ReadOnlyInputs (entry a) := by
  intro rcv mem
  simp [entry, List.mem_replicate] at mem

/-! ## Reports against the file -/

/-- The aircraft of a file entry `n` steps along its line, counted from the entry point. -/
def filedAt (data : PlaneData) (n : Nat) : Aircraft :=
  { Aircraft.ofPlaneData data with
    posX := data.posX.toInt + n * data.speedX.toInt
    posY := data.posY.toInt + n * data.speedY.toInt
    posZ := data.posZ.toInt + n * data.speedZ.toInt }

theorem filedAt_eq (data : PlaneData) (n : Nat) :
    filedAt data n = Aircraft.move^[n] (.ofPlaneData data) := by
  rw [Aircraft.move_iterate]
  rfl

/-- The `n`-th report shows the `n`-th point of the filed line and the filed velocity, as
long as the line is inside the airspace up to there. -/
def ReportsFollow (data : PlaneData) : Prop :=
  ∀ inputs t, ReadOnlyInputs inputs →
    Machine.run step (start (.ofPlaneData data)) inputs = some t →
      ∀ n r, t.reports[n]? = some r → (∀ i ≤ n, ¬ (filedAt data i).OutOfBounds) →
        r.position = (filedAt data n).position ∧ r.velocity = (filedAt data 0).velocity

def poll (planeID : Int32) : MessageInterProcess :=
  Message.asBuffer ⟨false, .requestPosition, planeID, none, 0⟩

/-- An aircraft polled in its first round answers with the point after its first update. -/
theorem run_first_report (a : Aircraft) (inside : ¬ a.move.OutOfBounds) :
    ∃ inputs t, ReadOnlyInputs inputs ∧ Machine.run step (start a) inputs = some t ∧
      t.reports[0]? = some a.move.planeInfo := by
  have command : ¬ (poll a.id).IsCommand := by
    simp [MessageInterProcess.IsCommand, poll, Message.asBuffer]
  have exit_ : ¬ (poll a.id).IsExit := by
    simp [MessageInterProcess.IsExit, poll, Message.asBuffer]
  have answer : a.move.handle (poll a.id) = ⟨a.move, .planeInfo a.move.planeInfo, false⟩ := by
    simp [Aircraft.handle, Aircraft.handleIntraProcess, poll, Message.asBuffer]
  refine ⟨entry a ++ [.move, .received (.message (poll a.id))],
    ⟨a.move, .waiting, [.sentEnter (createEnterAirspaceMessage a.id)] ++
      [.received (poll a.id), .replied (.planeInfo a.move.planeInfo)]⟩, ?_, ?_, rfl⟩
  · intro rcv mem
    rcases List.mem_append.mp mem with mem | mem
    · exact entry_readOnly a rcv mem
    · simp only [List.mem_cons, reduceCtorEq, Input.received.injEq, List.not_mem_nil, or_false,
        false_or] at mem
      rw [mem]
      exact ⟨command, exit_⟩
  · rw [Machine.run_append_eq_some]
    refine ⟨_, run_entry a, ?_⟩
    simp [Machine.run, step, moved, inside, answered, answer]

/-- The reports of an aircraft follow its file entry from the entry point exactly when it
does not move at all, or leaves with its first update and is never reported. -/
theorem reports_follow_filed_iff (data : PlaneData) (inside : ¬ (filedAt data 0).OutOfBounds) :
    ReportsFollow data ↔
      (data.speedX = 0 ∧ data.speedY = 0 ∧ data.speedZ = 0) ∨ (filedAt data 1).OutOfBounds := by
  have zero : ∀ v : Int32, (v.toInt : ℚ) = 0 ↔ v = 0 := by
    intro v
    rw [Int.cast_eq_zero, ← Int32.toInt_zero, Int32.toInt_inj]
  have still : (Aircraft.ofPlaneData data).velocity = (0, 0, 0) ↔
      data.speedX = 0 ∧ data.speedY = 0 ∧ data.speedZ = 0 := by
    simp only [Aircraft.velocity, Aircraft.ofPlaneData, Prod.mk.injEq, zero]
  constructor
  · intro follow
    by_cases out : (filedAt data 1).OutOfBounds
    · exact .inr out
    · left
      rw [filedAt_eq] at out
      obtain ⟨inputs, t, readOnly, run, first⟩ := run_first_report _ out
      have shown := (follow inputs t readOnly run 0 _ first fun i le => by
        rw [Nat.le_zero.mp le]
        exact inside).1
      rw [filedAt_eq] at shown
      exact still.mp ((Aircraft.position_move_iff _).mp shown)
  · rintro (none_ | out)
    · intro inputs t readOnly run n r report _
      obtain ⟨iterations, -, reports, -⟩ := reports_filed readOnly run
      rw [reports, recordsAt, List.getElem?_map, Option.map_eq_some_iff] at report
      obtain ⟨k, -, rfl⟩ := report
      simp only [filedAt_eq, Aircraft.move_iterate_of_velocity (still.mpr none_),
        Aircraft.planeInfo_position, Aircraft.planeInfo_velocity, and_self]
    · intro inputs t readOnly run n r report _
      obtain ⟨iterations, -, reports, checked⟩ := reports_filed readOnly run
      rw [reports, recordsAt, List.getElem?_map, Option.map_eq_some_iff] at report
      obtain ⟨k, at_, -⟩ := report
      obtain ⟨one, inside_⟩ := checked k (List.mem_of_getElem? at_)
      rw [filedAt_eq] at out
      exact absurd out (inside_ 1 le_rfl one)

/-- The first line of the planes file. -/
def shipped : PlaneData := ⟨0, 1, 95750, 59850, 29950, 250, 150, 50⟩

/-- It is reported one step late from the start. -/
theorem reports_skip_entry_point :
    ¬ ∀ data : PlaneData, ¬ (filedAt data 0).OutOfBounds → ReportsFollow data := by
  intro claim
  have inside : ¬ (filedAt shipped 0).OutOfBounds := by
    decide +kernel
  have stays : ¬ (Aircraft.ofPlaneData shipped).move.OutOfBounds := by
    decide +kernel
  obtain ⟨inputs, t, readOnly, run, first⟩ := run_first_report _ stays
  have shown := (claim _ inside inputs t readOnly run 0 _ first fun i le => by
    rw [Nat.le_zero.mp le]
    exact inside).1
  revert shown
  decide +kernel

/-- An aircraft that stands still is reported where it entered. -/
theorem reports_follow_filed_hovering : ReportsFollow ⟨3, 1, 100, 200, 20000, 0, 0, 0⟩ :=
  (reports_follow_filed_iff ⟨3, 1, 100, 200, 20000, 0, 0, 0⟩ (by decide +kernel)).mpr
    (.inl (by decide))

/-! ## The way out -/

/-- An aircraft whose position and velocity are integers. -/
def ofInts (id arrivalTime : Int32) (p v : ℤ × ℤ × ℤ) : Aircraft where
  id := id
  posX := p.1
  posY := p.2.1
  posZ := p.2.2
  speedX := v.1
  speedY := v.2.1
  speedZ := v.2.2
  arrivalTime := arrivalTime

/-- The point `n` steps along the line from `p` with velocity `v`. -/
def along (p v : ℤ × ℤ × ℤ) (n : ℕ) : ℤ × ℤ × ℤ :=
  (p.1 + n * v.1, p.2.1 + n * v.2.1, p.2.2 + n * v.2.2)

/-- A point of the airspace box. -/
def InBox (p : ℤ × ℤ × ℤ) : Prop :=
  p.1 ∈ Set.Icc airspace.lowerXBoundary airspace.upperXBoundary ∧
    p.2.1 ∈ Set.Icc airspace.lowerYBoundary airspace.upperYBoundary ∧
    p.2.2 ∈ Set.Icc airspace.lowerZBoundary airspace.upperZBoundary

theorem move_iterate_ofInts (id arrivalTime : Int32) (p v : ℤ × ℤ × ℤ) (n : ℕ) :
    Aircraft.move^[n] (ofInts id arrivalTime p v) = ofInts id arrivalTime (along p v n) v := by
  rw [Aircraft.move_iterate]
  simp only [ofInts, along]
  push_cast
  rfl

theorem outOfBounds_ofInts_iff (id arrivalTime : Int32) (p v : ℤ × ℤ × ℤ) :
    (ofInts id arrivalTime p v).OutOfBounds ↔ ¬ InBox p := by
  have cast : ∀ lo hi q : ℤ, (q : ℚ) ∈ Set.Icc (lo : ℚ) hi ↔ q ∈ Set.Icc lo hi := by
    intro lo hi q
    simp only [Set.mem_Icc]
    norm_cast
  rw [← not_iff_not, not_not, Aircraft.not_outOfBounds_iff]
  simp only [ofInts, InBox, airspace, ← cast]
  norm_num

theorem outOfBounds_ofInts (id arrivalTime : Int32) (p v : ℤ × ℤ × ℤ) (n : ℕ) :
    (Aircraft.move^[n] (ofInts id arrivalTime p v)).OutOfBounds ↔ ¬ InBox (along p v n) := by
  rw [move_iterate_ofInts]
  exact outOfBounds_ofInts_iff id arrivalTime (along p v n) v

/-- A moving aircraft gets out of the box at some step. -/
theorem exists_out {p v : ℤ × ℤ × ℤ} (moving : v ≠ 0) :
    ∃ n : ℕ, 1 ≤ n ∧ ¬ InBox (along p v n) := by
  by_cases hx : v.1 = 0
  · by_cases hy : v.2.1 = 0
    · have hz : v.2.2 ≠ 0 := fun hz => moving (Prod.ext hx (Prod.ext hy hz))
      obtain ⟨n, one, out⟩ := Progression.exists_leaves airspace.lowerZBoundary
        airspace.upperZBoundary p.2.2 hz
      exact ⟨n, one, fun inside => out inside.2.2⟩
    · obtain ⟨n, one, out⟩ := Progression.exists_leaves airspace.lowerYBoundary
        airspace.upperYBoundary p.2.1 hy
      exact ⟨n, one, fun inside => out inside.2.1⟩
  · obtain ⟨n, one, out⟩ := Progression.exists_leaves airspace.lowerXBoundary
      airspace.upperXBoundary p.1 hx
    exact ⟨n, one, fun inside => out inside.1⟩

/-- A first step outside comes no later than the one after the steps that fit into an axis. -/
theorem first_le {lo hi q w : ℤ} {n : ℕ} (inside : q ∈ Set.Icc lo hi) (moving : w ≠ 0)
    (earlier : ∀ i : ℕ, 1 ≤ i → i < n → q + i * w ∈ Set.Icc lo hi) :
    (n : ℤ) ≤ 1 + (hi - lo) / |w| := by
  obtain ⟨m, one, count⟩ := Progression.exists_steps (v := w) (inside.1.trans inside.2)
  have out := Progression.leaves_of_mem inside moving
  rw [← count] at out ⊢
  by_contra late
  exact out (earlier m one (by omega))

/-- `n` is the first step after the start that leads out of the box. -/
def FirstOut (p v : ℤ × ℤ × ℤ) (n : ℕ) : Prop :=
  1 ≤ n ∧ ¬ InBox (along p v n) ∧ ∀ i, 1 ≤ i → i < n → InBox (along p v i)

theorem exists_firstOut {p v : ℤ × ℤ × ℤ} (moving : v ≠ 0) : ∃ n, FirstOut p v n := by
  classical
  have leaves := exists_out (p := p) moving
  obtain ⟨one, out⟩ := Nat.find_spec leaves
  refine ⟨Nat.find leaves, one, out, ?_⟩
  intro i le lt
  by_contra outside
  exact Nat.find_min leaves lt ⟨le, outside⟩

/-- The first step outside, axis by axis. -/
theorem FirstOut.le {p v : ℤ × ℤ × ℤ} {n : ℕ} (first : FirstOut p v n) (inside : InBox p) :
    (v.1 ≠ 0 → (n : ℤ) ≤ 1 + (airspace.upperXBoundary - airspace.lowerXBoundary) / |v.1|) ∧
      (v.2.1 ≠ 0 →
        (n : ℤ) ≤ 1 + (airspace.upperYBoundary - airspace.lowerYBoundary) / |v.2.1|) ∧
      (v.2.2 ≠ 0 →
        (n : ℤ) ≤ 1 + (airspace.upperZBoundary - airspace.lowerZBoundary) / |v.2.2|) := by
  obtain ⟨-, -, earlier⟩ := first
  refine ⟨?_, ?_, ?_⟩
  · exact fun moving => first_le inside.1 moving fun i one lt => (earlier i one lt).1
  · exact fun moving => first_le inside.2.1 moving fun i one lt => (earlier i one lt).2.1
  · exact fun moving => first_le inside.2.2 moving fun i one lt => (earlier i one lt).2.2

/-- Under read-only messages the loop of an aircraft on integer speeds makes no more than
`n` updates, and sends its EXIT_AIRSPACE with the `n`-th one. -/
theorem Flight.exits_at {id arrivalTime : Int32} {p v : ℤ × ℤ × ℤ} {n k : ℕ} {log : List Event}
    {t : AircraftThread} (first : FirstOut p v n)
    (h : Flight (ofInts id arrivalTime p v) log k t) :
    k ≤ n ∧ t.log.countP Event.isExit = log.countP Event.isExit + if k = n then 1 else 0 := by
  obtain ⟨one, out, earlier⟩ := first
  rw [← outOfBounds_ofInts id arrivalTime] at out
  have notLater : ¬ n < k := fun lt => h.earlier n one lt out
  rcases h.now with ⟨-, inside, exits⟩ | ⟨-, oneK, outK, exits⟩
  · have before : k ≠ n := fun same => by
      subst same
      exact inside one out
    rw [if_neg before]
    exact ⟨by omega, exits⟩
  · have same : k = n := by
      by_contra before
      exact (outOfBounds_ofInts id arrivalTime p v k).mp outK (earlier k oneK (by omega))
    rw [if_pos same]
    exact ⟨by omega, exits⟩

/-- The run that ends in the first step outside, with one message in every round. -/
theorem run_firstOut (id arrivalTime : Int32) {p v : ℤ × ℤ × ℤ} {n : ℕ} (first : FirstOut p v n)
    (log : List Event) {rcvs : ℕ → Received MessageInterProcess}
    (readOnly : ∀ i, (rcvs i).ReadOnly) :
    ∃ inside before, Machine.run step ⟨ofInts id arrivalTime p v, .moving, log⟩
        (rounds rcvs (n - 1)) = some ⟨inside, .moving, before⟩ ∧
      Machine.run step ⟨ofInts id arrivalTime p v, .moving, log⟩ (rounds rcvs (n - 1) ++ [.move]) =
        some ⟨ofInts id arrivalTime (along p v n) v, .sendingExit,
          before ++ [.sentExit (createExitAirspaceMessage id)]⟩ := by
  obtain ⟨one, out, earlier⟩ := first
  have stays : ∀ i, 1 ≤ i → i ≤ n - 1 →
      ¬ (Aircraft.move^[i] (ofInts id arrivalTime p v)).OutOfBounds := by
    intro i oneI le outside
    exact (outOfBounds_ofInts id arrivalTime p v i).mp outside (earlier i oneI (by omega))
  obtain ⟨before, run⟩ := run_rounds (ofInts id arrivalTime p v) log readOnly (n - 1) stays
  have arrived : (Aircraft.move^[n - 1] (ofInts id arrivalTime p v)).move =
      ofInts id arrivalTime (along p v n) v := by
    rw [← Function.iterate_succ_apply' Aircraft.move, Nat.succ_eq_add_one,
      Nat.sub_add_cancel one]
    exact move_iterate_ofInts id arrivalTime p v n
  have outside : (ofInts id arrivalTime (along p v n) v).OutOfBounds :=
    (outOfBounds_ofInts_iff id arrivalTime (along p v n) v).mpr out
  refine ⟨_, before, run, ?_⟩
  rw [Machine.run_append_eq_some]
  refine ⟨_, run, ?_⟩
  simp only [Machine.run, step, moved, arrived, if_pos outside, Option.bind_some]
  rw [move_iterate_ofInts]
  rfl

/-- A moving aircraft always leaves. Whatever read-only messages come, one in every round,
the loop ends in the first step `n` that leads out of the box, with its only
EXIT_AIRSPACE; and from inside the box this is at most one step more than fit into it on
any axis on which the aircraft moves. -/
theorem moving_aircraft_leaves (id arrivalTime : Int32) (p v : ℤ × ℤ × ℤ) (moving : v ≠ 0)
    (log : List Event) (rcvs : ℕ → Received MessageInterProcess)
    (readOnly : ∀ i, (rcvs i).ReadOnly) :
    ∃ n, FirstOut p v n ∧
      (∃ before, Machine.run step ⟨ofInts id arrivalTime p v, .moving, log⟩
          (rounds rcvs (n - 1) ++ [.move]) =
        some ⟨ofInts id arrivalTime (along p v n) v, .sendingExit,
          before ++ [.sentExit (createExitAirspaceMessage id)]⟩ ∧
        before.countP Event.isExit = log.countP Event.isExit) ∧
      (∀ inputs t, ReadOnlyInputs inputs →
        Machine.run step ⟨ofInts id arrivalTime p v, .moving, log⟩ inputs = some t →
          inputs.countP Input.isMove ≤ n ∧ t.log.countP Event.isExit =
            log.countP Event.isExit + if inputs.countP Input.isMove = n then 1 else 0) ∧
      (InBox p →
        (v.1 ≠ 0 → (n : ℤ) ≤ 1 + (airspace.upperXBoundary - airspace.lowerXBoundary) / |v.1|) ∧
        (v.2.1 ≠ 0 →
          (n : ℤ) ≤ 1 + (airspace.upperYBoundary - airspace.lowerYBoundary) / |v.2.1|) ∧
        (v.2.2 ≠ 0 →
          (n : ℤ) ≤ 1 + (airspace.upperZBoundary - airspace.lowerZBoundary) / |v.2.2|)) := by
  obtain ⟨n, first⟩ := exists_firstOut (p := p) moving
  have anyRun : ∀ inputs t, ReadOnlyInputs inputs →
      Machine.run step ⟨ofInts id arrivalTime p v, .moving, log⟩ inputs = some t →
        inputs.countP Input.isMove ≤ n ∧ t.log.countP Event.isExit =
          log.countP Event.isExit + if inputs.countP Input.isMove = n then 1 else 0 := by
    intro inputs t quiet run
    have flown := (Flight.start (.inl rfl)).run quiet run
    rw [Nat.zero_add] at flown
    exact flown.exits_at first
  obtain ⟨_, before, flying, leaving⟩ := run_firstOut id arrivalTime first log readOnly
  refine ⟨n, first, ⟨before, leaving, ?_⟩, anyRun, fun inside => first.le inside⟩
  have silent := (anyRun _ _ (rounds_readOnly readOnly (n - 1)) flying).2
  have one : 1 ≤ n := first.1
  rw [rounds_isMove, if_neg (by omega)] at silent
  exact silent

/-- The slowest way out of the box is along the z axis at speed 1. -/
theorem moving_aircraft_leaves_climbing : ∃ n : ℕ, FirstOut (0, 0, 15000) (0, 0, 1) n ∧
    (n : ℤ) ≤ 25001 := by
  obtain ⟨n, first, -, -, bound⟩ := moving_aircraft_leaves 7 0 (0, 0, 15000) (0, 0, 1)
    (by decide) [] (fun _ => .pulse) (fun _ => trivial)
  have inside : InBox (0, 0, 15000) := by
    simp [InBox, airspace]
  have steps := (bound inside).2.2 (by decide)
  exact ⟨n, first, steps.trans (by decide)⟩

end AircraftThread

end QnxAtc
