import QnxAtc.Aircraft.Thread
import QnxAtc.Library.BoundedCount

/-! # The update loop against its two queues

The loop blocks twice in every round, in `MsgReceive` until a message is queued
and in `waitTimer` until a pulse is queued. The timed loop keeps both queues next
to the thread, and counts what was delivered and how often the position moved.
-/

namespace QnxAtc

open BoundedCount

/-- Messages that leave an aircraft as it is and let its loop go on. -/
def Received.ReadOnly : Received MessageInterProcess → Prop
  | .error => False
  | .pulse => True
  | .message buffer => ¬ buffer.IsCommand ∧ ¬ buffer.IsExit

structure TimedLoop where
  thread : AircraftThread
  queue : List (Received MessageInterProcess)
  pulses : Nat
  messagesDelivered : Nat
  pulsesDelivered : Nat
  updates : Nat

namespace TimedLoop

inductive Label where
  | deliver (rcv : Received MessageInterProcess)
  | pulse
  | move
  /-- `MsgReceive` takes one of the queued messages, whichever has priority -/
  | receive (i : Nat)
  | waitTimer
  | sent (ok : Bool)
  | detach

def Label.isDelivery : Label → Bool
  | .deliver _ => true
  | _ => false

def Label.isPulse : Label → Bool
  | .pulse => true
  | _ => false

/-- The loop right after `name_attach`: nothing queued, nothing done. -/
def start (a : Aircraft) (log : List Event) : TimedLoop := ⟨⟨a, .moving, log⟩, [], 0, 0, 0, 0⟩

def step (l : TimedLoop) : Label → Option TimedLoop
  | .deliver rcv =>
      some { l with queue := l.queue ++ [rcv], messagesDelivered := l.messagesDelivered + 1 }
  | .pulse => some { l with pulses := l.pulses + 1, pulsesDelivered := l.pulsesDelivered + 1 }
  | .move => (l.thread.step .move).map fun t => { l with thread := t, updates := l.updates + 1 }
  | .receive i =>
      match l.queue[i]? with
      | none => none
      | some rcv => (l.thread.step (.received rcv)).map fun t =>
          { l with thread := t, queue := l.queue.eraseIdx i }
  | .waitTimer =>
      if l.pulses = 0 then none
      else (l.thread.step .pulse).map fun t => { l with thread := t, pulses := l.pulses - 1 }
  | .sent ok => (l.thread.step (.sent ok)).map fun t => { l with thread := t }
  | .detach => (l.thread.step .detach).map fun t => { l with thread := t }

/-- The two delivery counters count the deliveries. -/
theorem run_delivered {l l' : TimedLoop} {labels : List Label}
    (h : Machine.run step l labels = some l') :
    l'.messagesDelivered = l.messagesDelivered + labels.countP Label.isDelivery ∧
      l'.pulsesDelivered = l.pulsesDelivered + labels.countP Label.isPulse := by
  induction labels generalizing l with
  | nil => cases h; exact ⟨rfl, rfl⟩
  | cons label labels ih =>
      obtain ⟨m, hm, ht⟩ := Option.bind_eq_some_iff.mp h
      obtain ⟨hmsg, hpulse⟩ := ih ht
      rw [hmsg, hpulse, List.countP_cons, List.countP_cons]
      cases label with
      | deliver rcv | pulse =>
          cases hm
          simp [Label.isDelivery, Label.isPulse]
          omega
      | move | sent ok | detach =>
          obtain ⟨t, _, rfl⟩ := Option.map_eq_some_iff.mp hm
          simp [Label.isDelivery, Label.isPulse]
      | receive i =>
          simp only [step] at hm
          split at hm
          · cases hm
          · obtain ⟨t, _, rfl⟩ := Option.map_eq_some_iff.mp hm
            simp [Label.isDelivery, Label.isPulse]
      | waitTimer =>
          simp only [step] at hm
          split at hm
          · cases hm
          · obtain ⟨t, _, rfl⟩ := Option.map_eq_some_iff.mp hm
            simp [Label.isDelivery, Label.isPulse]

/-- The phases of the update loop and after it. -/
def inLoop : Phase → Prop
  | .arriving _ | .sendingEnter | .attaching => False
  | _ => True

/-- The update loop is over. -/
def gone : Phase → Prop
  | .sendingExit | .detaching | .ended | .abandoned => True
  | _ => False

/-- The thread has done all it can with what was delivered so far. -/
def Blocked (l : TimedLoop) : Prop :=
  l.thread.phase = .receiving ∧ l.queue = [] ∨ l.thread.phase = .waiting ∧ l.pulses = 0 ∨
    gone l.thread.phase

/-- The message of the current round is still to be taken. -/
def messageOwed : Phase → Nat
  | .moving | .waiting => 0
  | _ => 1

/-- The pulse of the current round is still to be taken. -/
def pulseOwed : Phase → Nat
  | .moving => 0
  | _ => 1

/-- The loop of aircraft `a` under read-only traffic: every round takes one message
and one pulse, and the position is the filed one at every boundary check. -/
structure Invariant (a : Aircraft) (l : TimedLoop) : Prop where
  phase : inLoop l.thread.phase
  position : l.thread.aircraft = Aircraft.move^[l.updates] a
  queued : ∀ rcv ∈ l.queue, rcv.ReadOnly
  messages : l.messagesDelivered + messageOwed l.thread.phase = l.updates + l.queue.length
  timer : l.pulsesDelivered + pulseOwed l.thread.phase = l.updates + l.pulses
  moved : l.thread.phase ≠ .moving → 1 ≤ l.updates
  checked : ∀ n, 1 ≤ n → n < l.updates → ¬ (Aircraft.move^[n] a).OutOfBounds
  left : gone l.thread.phase → (Aircraft.move^[l.updates] a).OutOfBounds
  stayed : 1 ≤ l.updates → ¬ gone l.thread.phase → ¬ (Aircraft.move^[l.updates] a).OutOfBounds

theorem invariant_start (a : Aircraft) (log : List Event) : Invariant a (start a log) :=
  ⟨trivial, rfl, by simp [start], rfl, rfl, nofun, by simp [start], nofun, by simp [start]⟩

/-- A read-only message ends its round in `waitTimer` and changes nothing. -/
theorem receive_readOnly {t t' : AircraftThread} {rcv : Received MessageInterProcess}
    (hro : rcv.ReadOnly) (h : t.step (.received rcv) = some t') :
    t.phase = .receiving ∧ t'.phase = .waiting ∧ t'.aircraft = t.aircraft := by
  cases AircraftThread.step_spec h with
  | receiveError hp => exact hro.elim
  | receivePulse hp => exact ⟨hp, rfl, rfl⟩
  | answer buffer hp =>
      have stays : (t.aircraft.handle buffer).exits = false :=
        Bool.eq_false_iff.mpr fun hexit => hro.2 ((t.aircraft.handle_exits_iff buffer).mp hexit)
      exact ⟨hp, by simp [AircraftThread.answered, stays],
        t.aircraft.handle_of_not_command hro.1⟩

theorem Invariant.move {a : Aircraft} {l : TimedLoop} (h : Invariant a l)
    (hp : l.thread.phase = .moving) :
    Invariant a { l with thread := l.thread.moved, updates := l.updates + 1 } := by
  have messages := h.messages
  have timer := h.timer
  simp only [hp, messageOwed, pulseOwed] at messages timer
  have next : l.thread.aircraft.move = Aircraft.move^[l.updates + 1] a := by
    rw [h.position, Function.iterate_succ_apply']
  have earlier : ∀ n, 1 ≤ n → n < l.updates + 1 → ¬ (Aircraft.move^[n] a).OutOfBounds := by
    intro n hn hlt
    rcases Nat.lt_succ_iff_lt_or_eq.mp hlt with hlt | rfl
    · exact h.checked n hn hlt
    · exact h.stayed hn (by simp [hp, gone])
  unfold AircraftThread.moved
  split
  · rename_i out
    rw [next] at out
    exact ⟨trivial, next, h.queued, by simp only [messageOwed]; omega,
      by simp only [pulseOwed]; omega, fun _ => by simp only; omega, earlier, fun _ => out,
      fun _ hstay => (hstay trivial).elim⟩
  · rename_i inside
    rw [next] at inside
    exact ⟨trivial, next, h.queued, by simp only [messageOwed]; omega,
      by simp only [pulseOwed]; omega, fun _ => by simp only; omega, earlier, nofun,
      fun _ _ => inside⟩

theorem Invariant.receive {a : Aircraft} {l : TimedLoop} (h : Invariant a l) {i : Nat}
    {rcv : Received MessageInterProcess} {t : AircraftThread} (hi : l.queue[i]? = some rcv)
    (hstep : l.thread.step (.received rcv) = some t) :
    Invariant a { l with thread := t, queue := l.queue.eraseIdx i } := by
  obtain ⟨hp, ht, same⟩ := receive_readOnly (h.queued rcv (List.mem_of_getElem? hi)) hstep
  obtain ⟨bound, _⟩ := List.getElem?_eq_some_iff.mp hi
  have messages := h.messages
  have timer := h.timer
  simp only [hp, messageOwed, pulseOwed] at messages timer
  have one := h.moved (by simp [hp])
  refine ⟨by simp [ht, inLoop], by simpa [same] using h.position,
    fun r hr => h.queued r (List.mem_of_mem_eraseIdx hr), ?_, by simp [ht, pulseOwed, timer],
    fun _ => one, h.checked, by simp [ht, gone], fun _ _ => h.stayed one (by simp [hp, gone])⟩
  simp only [ht, messageOwed, List.length_eraseIdx_of_lt bound]
  omega

theorem Invariant.wake {a : Aircraft} {l : TimedLoop} (h : Invariant a l)
    {t : AircraftThread} (pending : l.pulses ≠ 0) (hstep : l.thread.step .pulse = some t) :
    Invariant a { l with thread := t, pulses := l.pulses - 1 } := by
  have phase := h.phase
  have messages := h.messages
  have timer := h.timer
  cases AircraftThread.step_spec hstep with
  | tick c hp => simp [hp, inLoop] at phase
  | wake hp =>
      simp only [hp, messageOwed, pulseOwed] at messages timer
      have one := h.moved (by simp [hp])
      refine ⟨trivial, h.position, h.queued, by simpa [messageOwed] using messages, ?_, nofun,
        h.checked, nofun, fun _ _ => h.stayed one (by simp [hp, gone])⟩
      simp only [pulseOwed]
      omega

/-- After the loop only the phase changes. -/
theorem Invariant.afterLoop {a : Aircraft} {l : TimedLoop} (h : Invariant a l) {p : Phase}
    (was : gone l.thread.phase) (is : gone p) :
    Invariant a { l with thread := { l.thread with phase := p } } := by
  have owed : ∀ q, gone q → inLoop q ∧ messageOwed q = 1 ∧ pulseOwed q = 1 ∧ q ≠ .moving := by
    intro q hq
    cases q <;> simp_all [gone, inLoop, messageOwed, pulseOwed]
  obtain ⟨_, hm, ht, hne⟩ := owed _ was
  obtain ⟨hin, hm', ht', hne'⟩ := owed p is
  have messages := h.messages
  have timer := h.timer
  exact ⟨hin, h.position, h.queued, by simp only [hm'] at *; omega, by simp only [ht'] at *; omega,
    fun _ => h.moved hne, h.checked, fun _ => h.left was, fun _ hstay => (hstay is).elim⟩

theorem invariant_step {a : Aircraft} (l : TimedLoop) (label : Label) (l' : TimedLoop)
    (h : Invariant a l) (readOnly : ∀ rcv, label = .deliver rcv → rcv.ReadOnly)
    (hstep : l.step label = some l') : Invariant a l' := by
  have phase := h.phase
  cases label with
  | deliver rcv =>
      cases hstep
      have messages := h.messages
      refine ⟨h.phase, h.position, ?_, ?_, h.timer, h.moved, h.checked, h.left, h.stayed⟩
      · intro r hr
        rcases List.mem_append.mp hr with hr | hr
        · exact h.queued r hr
        · exact readOnly r (by simp [List.mem_singleton.mp hr])
      · simp only [List.length_append, List.length_singleton]
        omega
  | pulse =>
      cases hstep
      have timer := h.timer
      exact ⟨h.phase, h.position, h.queued, h.messages, by simp only; omega, h.moved, h.checked,
        h.left, h.stayed⟩
  | move =>
      obtain ⟨t, ht, rfl⟩ := Option.map_eq_some_iff.mp hstep
      cases AircraftThread.step_spec ht with
      | move hp => exact h.move hp
  | receive i =>
      simp only [step] at hstep
      cases hi : l.queue[i]? with
      | none => simp [hi] at hstep
      | some rcv =>
          simp only [hi] at hstep
          obtain ⟨t, ht, rfl⟩ := Option.map_eq_some_iff.mp hstep
          exact h.receive hi ht
  | waitTimer =>
      simp only [step] at hstep
      split at hstep
      · cases hstep
      · rename_i pending
        obtain ⟨t, ht, rfl⟩ := Option.map_eq_some_iff.mp hstep
        exact h.wake pending ht
  | sent ok =>
      obtain ⟨t, ht, rfl⟩ := Option.map_eq_some_iff.mp hstep
      cases AircraftThread.step_spec ht with
      | enterSent _ hp => simp [hp, inLoop] at phase
      | exitSent _ hp => exact h.afterLoop (by simp [hp, gone]) (by cases ok <;> trivial)
  | detach =>
      obtain ⟨t, ht, rfl⟩ := Option.map_eq_some_iff.mp hstep
      cases AircraftThread.step_spec ht with
      | detach hp => exact h.afterLoop (by simp [hp, gone]) trivial

/-- A run from the loop's entry in which only read-only messages arrive. -/
structure ReadOnlyRun (a : Aircraft) (log : List Event) (labels : List Label) (l : TimedLoop) :
    Prop where
  readOnly : ∀ rcv, .deliver rcv ∈ labels → rcv.ReadOnly
  run : Machine.run step (start a log) labels = some l

theorem ReadOnlyRun.invariant {a : Aircraft} {log : List Event} {labels : List Label}
    {l : TimedLoop} (h : ReadOnlyRun a log labels l) : Invariant a l :=
  Machine.run_invariant_of_mem
    (fun s label t hs hmem hstep =>
      invariant_step s label t hs (fun rcv heq => h.readOnly rcv (heq ▸ hmem)) hstep)
    (invariant_start a log) h.run

/-- When the loop is blocked, it has made one update more than the rounds it could
complete, or has stopped at the first update that left the airspace. -/
theorem Invariant.countsTo {a : Aircraft} {l : TimedLoop} (h : Invariant a l)
    (blocked : l.Blocked) :
    CountsTo (fun n => (Aircraft.move^[n] a).OutOfBounds)
      (min l.messagesDelivered l.pulsesDelivered + 1) l.updates := by
  have messages := h.messages
  have timer := h.timer
  rcases blocked with ⟨hp, hq⟩ | ⟨hp, hpulse⟩ | hgone
  · simp only [hp, hq, messageOwed, pulseOwed, List.length_nil] at messages timer
    exact ⟨h.moved (by simp [hp]), by omega, h.checked, .inl (by omega)⟩
  · simp only [hp, hpulse, messageOwed, pulseOwed] at messages timer
    exact ⟨h.moved (by simp [hp]), by omega, h.checked, .inl (by omega)⟩
  · have owed : messageOwed l.thread.phase = 1 ∧ pulseOwed l.thread.phase = 1 ∧
        l.thread.phase ≠ .moving := by
      cases hp : l.thread.phase <;> simp_all [gone, messageOwed, pulseOwed]
    rw [owed.1] at messages
    rw [owed.2.1] at timer
    exact ⟨h.moved owed.2.2, by omega, h.checked, .inr (h.left hgone)⟩

/-- Two runs of one aircraft under the same number `k` of pulses have made the same
updates, and stand at the same position, exactly when the messages delivered in each,
counted up to `k`, are equally many, or both delivered enough for the aircraft to leave. -/
theorem updates_agree_iff (a : Aircraft) (log₁ log₂ : List Event) (labels₁ labels₂ : List Label)
    (l₁ l₂ : TimedLoop) (k : Nat) (run₁ : ReadOnlyRun a log₁ labels₁ l₁)
    (run₂ : ReadOnlyRun a log₂ labels₂ l₂) (blocked₁ : l₁.Blocked) (blocked₂ : l₂.Blocked)
    (pulses₁ : labels₁.countP Label.isPulse = k) (pulses₂ : labels₂.countP Label.isPulse = k) :
    (l₁.updates = l₂.updates ∧ l₁.thread.aircraft = l₂.thread.aircraft) ↔
      (min (labels₁.countP Label.isDelivery) k = min (labels₂.countP Label.isDelivery) k ∨
        ∃ n, 1 ≤ n ∧ n ≤ labels₁.countP Label.isDelivery + 1 ∧
          n ≤ labels₂.countP Label.isDelivery + 1 ∧ n ≤ k + 1 ∧
            (Aircraft.move^[n] a).OutOfBounds) := by
  have inv₁ := run₁.invariant
  have inv₂ := run₂.invariant
  obtain ⟨messages₁, timer₁⟩ := run_delivered run₁.run
  obtain ⟨messages₂, timer₂⟩ := run_delivered run₂.run
  simp only [start, Nat.zero_add] at messages₁ timer₁ messages₂ timer₂
  have position : l₁.updates = l₂.updates → l₁.thread.aircraft = l₂.thread.aircraft := by
    intro heq
    rw [inv₁.position, inv₂.position, heq]
  have counts := (inv₁.countsTo blocked₁).eq_iff (inv₂.countsTo blocked₂)
  rw [messages₁, messages₂, timer₁, timer₂, pulses₁, pulses₂] at counts
  constructor
  · rintro ⟨heq, _⟩
    rcases counts.mp heq with hbudget | ⟨n, hn, h₁, h₂, out⟩
    · exact .inl (by omega)
    · exact .inr ⟨n, hn, by omega, by omega, by omega, out⟩
  · intro hsame
    have heq : l₁.updates = l₂.updates := by
      apply counts.mpr
      rcases hsame with hmin | ⟨n, hn, h₁, h₂, h₃, out⟩
      · exact .inl (by omega)
      · exact .inr ⟨n, hn, by omega, by omega, out⟩
    exact ⟨heq, position heq⟩

/-! One aircraft and one pulse: without a poll it stays where it is, with one it moves on. -/

def cruising : Aircraft := ⟨1, 50000, 50000, 20000, 100, 0, 0, 0⟩

def unpolled : List Label := [.move, .pulse]

def polled : List Label :=
  [.move, .deliver (.message (Message.asBuffer ⟨false, .requestPosition, 1, none, 0⟩)),
    .receive 0, .pulse, .waitTimer, .move]

theorem unpolled_run : ∃ l, ReadOnlyRun cruising [] unpolled l ∧ l.Blocked ∧ l.updates = 1 := by
  obtain ⟨l, hl, htest⟩ := Machine.exists_of_map_run step (start cruising [])
    unpolled (fun l => decide (l.thread.phase = .receiving) &&
      l.queue.isEmpty && l.updates == 1) (by decide +kernel)
  simp only [Bool.and_eq_true, decide_eq_true_eq, List.isEmpty_iff, beq_iff_eq] at htest
  exact ⟨l, ⟨by simp [unpolled], hl⟩, .inl htest.1, htest.2⟩

theorem polled_run : ∃ l, ReadOnlyRun cruising [] polled l ∧ l.Blocked ∧ l.updates = 2 := by
  obtain ⟨l, hl, htest⟩ := Machine.exists_of_map_run step (start cruising [])
    polled (fun l => decide (l.thread.phase = .receiving) &&
      l.queue.isEmpty && l.updates == 2) (by decide +kernel)
  simp only [Bool.and_eq_true, decide_eq_true_eq, List.isEmpty_iff, beq_iff_eq] at htest
  have readOnly : ∀ rcv, .deliver rcv ∈ polled → rcv.ReadOnly := by
    intro rcv hrcv
    simp only [polled, List.mem_cons, reduceCtorEq, List.not_mem_nil, or_false, false_or,
      Label.deliver.injEq] at hrcv
    subst hrcv
    exact ⟨by simp [MessageInterProcess.IsCommand, Message.asBuffer],
      by simp [MessageInterProcess.IsExit, Message.asBuffer]⟩
  exact ⟨l, ⟨readOnly, hl⟩, .inl htest.1, htest.2⟩

/-- Motion depends on the traffic: the claim that it does not fails for these two runs. -/
theorem updates_depend_on_messages :
    ¬ ∀ (a : Aircraft) (log₁ log₂ : List Event) (labels₁ labels₂ : List Label)
        (l₁ l₂ : TimedLoop) (k : Nat), ReadOnlyRun a log₁ labels₁ l₁ →
        ReadOnlyRun a log₂ labels₂ l₂ → l₁.Blocked → l₂.Blocked →
        labels₁.countP Label.isPulse = k → labels₂.countP Label.isPulse = k →
        l₁.updates = l₂.updates ∧ l₁.thread.aircraft = l₂.thread.aircraft := by
  intro claim
  obtain ⟨l₁, run₁, blocked₁, one⟩ := unpolled_run
  obtain ⟨l₂, run₂, blocked₂, two⟩ := polled_run
  have same := (claim cruising [] [] unpolled polled l₁ l₂ 1 run₁ run₂ blocked₁ blocked₂
    (by decide) (by decide)).1
  omega

theorem updates_agree_iff_cruising :
    ∃ l₁ l₂, ReadOnlyRun cruising [] unpolled l₁ ∧ ReadOnlyRun cruising [] polled l₂ ∧
      l₁.updates ≠ l₂.updates ∧
      ((l₁.updates = l₂.updates ∧ l₁.thread.aircraft = l₂.thread.aircraft) ↔
        (min 0 1 = min 1 1 ∨ ∃ n, 1 ≤ n ∧ n ≤ 1 ∧ n ≤ 2 ∧ n ≤ 2 ∧
          (Aircraft.move^[n] cruising).OutOfBounds)) := by
  obtain ⟨l₁, run₁, blocked₁, one⟩ := unpolled_run
  obtain ⟨l₂, run₂, blocked₂, two⟩ := polled_run
  exact ⟨l₁, l₂, run₁, run₂, by omega,
    updates_agree_iff cruising [] [] unpolled polled l₁ l₂ 1 run₁ run₂ blocked₁ blocked₂
      (by decide) (by decide)⟩

end TimedLoop

end QnxAtc
