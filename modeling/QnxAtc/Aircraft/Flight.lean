import QnxAtc.Aircraft.Reports
import QnxAtc.Aircraft.Timing
import Mathlib.Order.Interval.Set.Defs

/-! # Flight between commands

From one command to the next only the position update changes an aircraft, so the
state `k` updates later is known in closed form. `Flight` carries along what goes
with it: which updates passed the boundary check, whether EXIT_AIRSPACE was sent, and
which records were reported.
-/

namespace QnxAtc

/-! ## Position and velocity -/

namespace Aircraft

def position (a : Aircraft) : ℚ × ℚ × ℚ := (a.posX, a.posY, a.posZ)

def velocity (a : Aircraft) : ℚ × ℚ × ℚ := (a.speedX, a.speedY, a.speedZ)

/-- The boundary test, one interval for each axis. -/
theorem not_outOfBounds_iff (a : Aircraft) :
    ¬ a.OutOfBounds ↔ a.posX ∈ Set.Icc (0 : ℚ) 100000 ∧ a.posY ∈ Set.Icc (0 : ℚ) 100000 ∧
      a.posZ ∈ Set.Icc (15000 : ℚ) 40000 := by
  simp only [OutOfBounds, airspace, not_or, not_lt, gt_iff_lt, Set.mem_Icc]
  push_cast
  tauto

theorem outOfBounds_congr {a b : Aircraft} (h : a.position = b.position) :
    a.OutOfBounds ↔ b.OutOfBounds := by
  simp only [position, Prod.mk.injEq] at h
  simp only [OutOfBounds, h.1, h.2.1, h.2.2]

@[simp] theorem velocity_move_iterate (a : Aircraft) (n : Nat) :
    (move^[n] a).velocity = a.velocity := by
  rw [move_iterate]
  rfl

end Aircraft

/-! ## Inputs -/

def Input.isMove : Input → Bool
  | .move => true
  | _ => false

/-- No heading, position or altitude command is among the messages received. -/
def CommandFree (inputs : List Input) : Prop :=
  ∀ buffer, .received (.message buffer) ∈ inputs → ¬ buffer.IsCommand

/-- Every message received changes nothing and lets the loop go on. -/
def ReadOnlyInputs (inputs : List Input) : Prop :=
  ∀ rcv, .received rcv ∈ inputs → rcv.ReadOnly

theorem ReadOnlyInputs.tail {i : Input} {inputs : List Input} (h : ReadOnlyInputs (i :: inputs)) :
    ReadOnlyInputs inputs :=
  fun rcv hrcv => h rcv (List.mem_cons_of_mem i hrcv)

theorem ReadOnlyInputs.cons_pulse {inputs : List Input} (h : ReadOnlyInputs inputs) :
    ReadOnlyInputs (.pulse :: inputs) := by
  intro rcv mem
  rcases List.mem_cons.mp mem with here | later
  · cases here
  · exact h rcv later

/-- In the update loop, on the way to the next `MsgReceive` or in it. -/
def Phase.inLoop : Phase → Bool
  | .moving | .receiving | .waiting => true
  | .arriving _ | .sendingEnter | .attaching | .sendingExit | .detaching | .ended
  | .abandoned => false

namespace AircraftThread

@[simp] theorem moved_aircraft (t : AircraftThread) : t.moved.aircraft = t.aircraft.move := by
  unfold moved
  split <;> rfl

/-- Without commands only the position updates change an aircraft. -/
theorem run_aircraft {t t' : AircraftThread} {inputs : List Input}
    (free : CommandFree inputs) (h : Machine.run step t inputs = some t') :
    t'.aircraft = Aircraft.move^[inputs.countP Input.isMove] t.aircraft := by
  induction inputs generalizing t with
  | nil => cases h; rfl
  | cons i inputs ih =>
      obtain ⟨m, hm, ht⟩ := Option.bind_eq_some_iff.mp h
      have rest := ih (fun buffer hb => free buffer (List.mem_cons_of_mem i hb)) ht
      rw [rest, List.countP_cons]
      cases step_spec hm with
      | move hp => simp [Input.isMove]
      | answer buffer hp =>
          have stays := t.aircraft.handle_of_not_command (free buffer List.mem_cons_self)
          simp [Input.isMove, answered, stays]
      | tick | enter | noRadar | enterSent | attach | exitSent | receiveError | receivePulse
        | wake | detach => simp [Input.isMove]

/-! ## What is carried along -/

/-- The records of the given iterations of a flight. -/
def recordsAt (a : Aircraft) (iterations : List Nat) : List MsgPlaneInfo :=
  iterations.map fun n => (Aircraft.move^[n] a).planeInfo

/-- A thread that was in its loop with state `a` and log `log`, `k` position updates
later and under read-only messages. -/
structure Flight (a : Aircraft) (log : List Event) (k : Nat) (t : AircraftThread) : Prop where
  aircraft : t.aircraft = Aircraft.move^[k] a
  earlier : ∀ n, 1 ≤ n → n < k → ¬ (Aircraft.move^[n] a).OutOfBounds
  now : t.phase.inLoop = true ∧ (1 ≤ k → ¬ (Aircraft.move^[k] a).OutOfBounds) ∧
      t.log.countP Event.isExit = log.countP Event.isExit ∨
    TimedLoop.gone t.phase ∧ 1 ≤ k ∧ (Aircraft.move^[k] a).OutOfBounds ∧
      t.log.countP Event.isExit = log.countP Event.isExit + 1
  reports : ∃ iterations : List Nat, iterations.Pairwise (· < ·) ∧
    (∀ n ∈ iterations, 1 ≤ n ∧ n ≤ k) ∧
    (t.phase = .receiving → 1 ≤ k ∧ ∀ n ∈ iterations, n < k) ∧
    t.reports = log.filterMap Event.record? ++ recordsAt a iterations

theorem Flight.start {a : Aircraft} {log : List Event} {phase : Phase}
    (at_ : phase = .moving ∨ phase = .waiting) : Flight a log 0 ⟨a, phase, log⟩ := by
  refine ⟨rfl, by omega, .inl ?_, [], .nil, by simp, ?_,
    by simp [AircraftThread.reports, recordsAt]⟩
  · rcases at_ with rfl | rfl <;> exact ⟨rfl, by omega, rfl⟩
  · intro receiving
    rcases at_ with rfl | rfl <;> cases receiving

namespace Flight

variable {a : Aircraft} {log : List Event} {k : Nat} {t : AircraftThread}

/-- In the loop nothing was sent and the last update passed the check. -/
theorem inside (h : Flight a log k t) (at_ : t.phase.inLoop = true) :
    (1 ≤ k → ¬ (Aircraft.move^[k] a).OutOfBounds) ∧
      t.log.countP Event.isExit = log.countP Event.isExit := by
  rcases h.now with ⟨-, inside, exits⟩ | ⟨gone, -⟩
  · exact ⟨inside, exits⟩
  · cases hp : t.phase <;> simp_all [Phase.inLoop, TimedLoop.gone]

/-- After the loop the last update was the one that failed the check. -/
theorem outside (h : Flight a log k t) (at_ : TimedLoop.gone t.phase) :
    1 ≤ k ∧ (Aircraft.move^[k] a).OutOfBounds ∧
      t.log.countP Event.isExit = log.countP Event.isExit + 1 := by
  rcases h.now with ⟨inLoop, -⟩ | ⟨-, one, out, exits⟩
  · cases hp : t.phase <;> simp_all [Phase.inLoop, TimedLoop.gone]
  · exact ⟨one, out, exits⟩

/-- Every update but the last one passed the check. -/
theorem checked (h : Flight a log k t) (at_ : t.phase.inLoop = true) {n : Nat} (one : 1 ≤ n)
    (le : n ≤ k) : ¬ (Aircraft.move^[n] a).OutOfBounds := by
  rcases Nat.lt_or_eq_of_le le with lt | rfl
  · exact h.earlier n one lt
  · exact (h.inside at_).1 one

theorem moved (h : Flight a log k t) (at_ : t.phase = .moving) :
    Flight a log (k + 1) t.moved := by
  obtain ⟨iterations, sorted, bounds, -, reports⟩ := h.reports
  have exits := (h.inside (by rw [at_]; rfl)).2
  have next : t.aircraft.move = Aircraft.move^[k + 1] a := by
    rw [h.aircraft, Function.iterate_succ_apply']
  have earlier : ∀ n, 1 ≤ n → n < k + 1 → ¬ (Aircraft.move^[n] a).OutOfBounds := by
    intro n one lt
    exact h.checked (by rw [at_]; rfl) one (by omega)
  have within : ∀ n ∈ iterations, 1 ≤ n ∧ n ≤ k + 1 := by
    intro n mem
    have := bounds n mem
    omega
  unfold AircraftThread.moved
  split
  · rename_i out
    rw [next] at out
    refine ⟨next, earlier, .inr ⟨trivial, by omega, out, ?_⟩, iterations, sorted, within,
      nofun, ?_⟩
    · simp [List.countP_append, exits, Event.isExit]
    · simpa [AircraftThread.reports, List.filterMap_cons, Event.record?] using reports
  · rename_i inside
    rw [next] at inside
    refine ⟨next, earlier, .inl ⟨rfl, fun _ => inside, exits⟩, iterations, sorted, within,
      fun _ => ⟨by omega, ?_⟩, reports⟩
    intro n mem
    have := bounds n mem
    omega

/-- Answering a message that is no command reports the update of this iteration, or nothing. -/
theorem answered (h : Flight a log k t) (at_ : t.phase = .receiving)
    {buffer : MessageInterProcess} (readOnly : ¬ buffer.IsCommand ∧ ¬ buffer.IsExit) :
    Flight a log k (t.answered buffer) := by
  obtain ⟨iterations, sorted, bounds, fresh, reports⟩ := h.reports
  obtain ⟨one, below⟩ := fresh at_
  obtain ⟨inside, exits⟩ := h.inside (by rw [at_]; rfl)
  have same := t.aircraft.handle_of_not_command readOnly.1
  have stays : (t.aircraft.handle buffer).exits = false :=
    Bool.eq_false_iff.mpr fun hexit =>
      readOnly.2 ((t.aircraft.handle_exits_iff buffer).mp hexit)
  have phase : (t.answered buffer).phase = .waiting := by
    simp [AircraftThread.answered, stays]
  have aircraft : (t.answered buffer).aircraft = Aircraft.move^[k] a := by
    rw [← h.aircraft]
    exact same
  refine ⟨aircraft, h.earlier, .inl ⟨by rw [phase]; rfl, inside, ?_⟩, ?_⟩
  · simp [AircraftThread.answered, List.countP_append, exits, Event.isExit]
  · have added : (t.answered buffer).reports =
        t.reports ++ (t.aircraft.handle buffer).reply.record?.toList := by
      simp only [AircraftThread.reports, AircraftThread.answered, List.filterMap_append]
      cases hr : (t.aircraft.handle buffer).reply.record? <;>
        simp [List.filterMap_cons, Event.record?, hr]
    cases hr : (t.aircraft.handle buffer).reply.record? with
    | none =>
        refine ⟨iterations, sorted, bounds, by simp [phase], ?_⟩
        simpa [added, hr] using reports
    | some r =>
        refine ⟨iterations ++ [k], ?_, ?_, by simp [phase], ?_⟩
        · rw [List.pairwise_append]
          exact ⟨sorted, List.pairwise_singleton _ _, by simpa using below⟩
        · intro n mem
          rcases List.mem_append.mp mem with mem | mem
          · exact bounds n mem
          · rw [List.mem_singleton.mp mem]
            exact ⟨one, le_rfl⟩
        · have self := t.aircraft.handle_record hr
          rw [added, hr, reports, self, h.aircraft]
          simp [recordsAt]

/-- A step that only changes the phase, within the loop. -/
theorem goesOn (h : Flight a log k t) (was : t.phase.inLoop = true) {phase : Phase}
    (is : phase = .moving ∨ phase = .waiting) : Flight a log k { t with phase := phase } := by
  obtain ⟨iterations, sorted, bounds, -, reports⟩ := h.reports
  obtain ⟨inside, exits⟩ := h.inside was
  refine ⟨h.aircraft, h.earlier, .inl ⟨?_, inside, exits⟩, iterations, sorted, bounds, ?_, reports⟩
  · rcases is with rfl | rfl <;> rfl
  · rcases is with rfl | rfl <;> exact nofun

/-- A step that only changes the phase, after the loop. -/
theorem afterLoop (h : Flight a log k t) (was : TimedLoop.gone t.phase) {phase : Phase}
    (is : TimedLoop.gone phase) : Flight a log k { t with phase := phase } := by
  obtain ⟨iterations, sorted, bounds, -, reports⟩ := h.reports
  refine ⟨h.aircraft, h.earlier, .inr ⟨is, h.outside was⟩, iterations, sorted, bounds, ?_, reports⟩
  intro receiving
  simp only at receiving
  rw [receiving] at is
  exact is.elim

theorem step {i : Input} {t' : AircraftThread} (h : Flight a log k t)
    (readOnly : ∀ rcv, i = .received rcv → rcv.ReadOnly) (hstep : t.step i = some t') :
    Flight a log (k + if i.isMove then 1 else 0) t' := by
  have reached : t.phase.inLoop = true ∨ TimedLoop.gone t.phase := by
    rcases h.now with ⟨inLoop, -⟩ | ⟨gone, -⟩
    · exact .inl inLoop
    · exact .inr gone
  cases step_spec hstep with
  | move at_ => exact h.moved at_
  | answer buffer at_ => exact h.answered at_ (readOnly _ rfl)
  | receivePulse at_ => exact h.goesOn (by rw [at_]; rfl) (.inr rfl)
  | wake at_ => exact h.goesOn (by rw [at_]; rfl) (.inl rfl)
  | receiveError at_ => exact (readOnly _ rfl).elim
  | exitSent ok at_ =>
      exact h.afterLoop (by rw [at_]; trivial) (by cases ok <;> trivial)
  | detach at_ => exact h.afterLoop (by rw [at_]; trivial) trivial
  | tick _ at_ | enter _ at_ | noRadar _ at_ | enterSent _ at_ | attach _ at_ =>
      simp [at_, Phase.inLoop, TimedLoop.gone] at reached

theorem run {inputs : List Input} {t' : AircraftThread} (h : Flight a log k t)
    (readOnly : ReadOnlyInputs inputs) (hrun : Machine.run AircraftThread.step t inputs = some t') :
    Flight a log (k + inputs.countP Input.isMove) t' := by
  induction inputs generalizing t k with
  | nil => cases hrun; exact h
  | cons i inputs ih =>
      obtain ⟨m, hm, rest⟩ := Option.bind_eq_some_iff.mp hrun
      have next := h.step (fun rcv heq => readOnly rcv (heq ▸ List.mem_cons_self)) hm
      have flown := ih next readOnly.tail rest
      rw [List.countP_cons]
      convert flown using 1
      omega

end Flight

/-! ## Rounds of the loop -/

/-- The first `n` rounds of the loop, with one of the given messages in each. -/
def rounds (rcvs : Nat → Received MessageInterProcess) (n : Nat) : List Input :=
  (List.range n).flatMap fun i => [.move, .received (rcvs i), .pulse]

theorem rounds_succ (rcvs : Nat → Received MessageInterProcess) (n : Nat) :
    rounds rcvs (n + 1) = rounds rcvs n ++ [.move, .received (rcvs n), .pulse] := by
  simp [rounds, List.range_succ]

theorem rounds_readOnly {rcvs : Nat → Received MessageInterProcess}
    (readOnly : ∀ i, (rcvs i).ReadOnly) (n : Nat) : ReadOnlyInputs (rounds rcvs n) := by
  intro rcv mem
  simp only [rounds, List.mem_flatMap, List.mem_cons, reduceCtorEq, List.not_mem_nil, or_false,
    false_or, Input.received.injEq] at mem
  obtain ⟨i, -, rfl⟩ := mem
  exact readOnly i

@[simp] theorem rounds_isMove (rcvs : Nat → Received MessageInterProcess) (n : Nat) :
    (rounds rcvs n).countP Input.isMove = n := by
  induction n with
  | zero => rfl
  | succ n ih =>
      rw [rounds_succ, List.countP_append, ih]
      rfl

/-- A read-only message is taken, answered and leads back to the head of the loop. -/
theorem run_round (a : Aircraft) (log : List Event) {rcv : Received MessageInterProcess}
    (readOnly : rcv.ReadOnly) (inside : ¬ a.move.OutOfBounds) :
    ∃ log', Machine.run step ⟨a, .moving, log⟩ [.move, .received rcv, .pulse] =
      some ⟨a.move, .moving, log'⟩ := by
  cases rcv with
  | error => exact readOnly.elim
  | pulse => exact ⟨log, by simp [Machine.run, step, moved, inside]⟩
  | message buffer =>
      have same := a.move.handle_of_not_command readOnly.1
      have stays : (a.move.handle buffer).exits = false :=
        Bool.eq_false_iff.mpr fun hexit =>
          readOnly.2 ((a.move.handle_exits_iff buffer).mp hexit)
      exact ⟨log ++ [.received buffer, .replied (a.move.handle buffer).reply],
        by simp [Machine.run, step, moved, inside, answered, same, stays]⟩

/-- While every update passes the check, the loop goes round whatever read-only messages come. -/
theorem run_rounds (a : Aircraft) (log : List Event) {rcvs : Nat → Received MessageInterProcess}
    (readOnly : ∀ i, (rcvs i).ReadOnly) (n : Nat)
    (inside : ∀ i, 1 ≤ i → i ≤ n → ¬ (Aircraft.move^[i] a).OutOfBounds) :
    ∃ log', Machine.run step ⟨a, .moving, log⟩ (rounds rcvs n) =
      some ⟨Aircraft.move^[n] a, .moving, log'⟩ := by
  induction n with
  | zero => exact ⟨log, rfl⟩
  | succ n ih =>
      obtain ⟨log₁, before⟩ := ih fun i one le => inside i one (by omega)
      have last := inside (n + 1) (by omega) le_rfl
      rw [Function.iterate_succ_apply'] at last
      obtain ⟨log₂, round⟩ := run_round (Aircraft.move^[n] a) log₁ (readOnly n) last
      refine ⟨log₂, ?_⟩
      rw [rounds_succ, Machine.run_append_eq_some]
      exact ⟨_, before, by rw [round, Function.iterate_succ_apply']⟩

end AircraftThread

end QnxAtc
