import QnxAtc.AirTrafficControl.System
import QnxAtc.Radar.Snapshots

/-! # Aircraft that Radar loses

Radar erases an ID it cannot reach. An aircraft attaches its channel only after the
reply to its ENTER_AIRSPACE, and it enters only once, so a poll that opens the channel
in between erases it for good. Without such a poll an entered aircraft stays known.
-/

namespace QnxAtc

/-- Radar has replied to the ENTER_AIRSPACE of the thread. -/
def Phase.announced : Phase → Bool
  | .arriving _ | .sendingEnter => false
  | _ => true

/-- After the entry only the gap and the end are without a channel. -/
theorem Phase.ended_of_not_attached {p : Phase} (announced : p.announced = true)
    (notAttached : p.attached = false) (noGap : p ≠ .attaching) : p = .ended := by
  cases p with
  | arriving c | sendingEnter => cases announced
  | attaching => exact absurd rfl noGap
  | moving | sendingExit | receiving | waiting | detaching | abandoned => cases notAttached
  | ended => rfl

namespace AircraftThread

theorem step_eq_none_of_finished {t : AircraftThread} (done : t.phase.finished = true)
    (i : Input) : t.step i = none := by
  unfold step
  cases hp : t.phase <;> simp_all [Phase.finished]

theorem moved_phase (t : AircraftThread) :
    t.moved.phase = .sendingExit ∨ t.moved.phase = .receiving := by
  unfold moved
  split
  · exact .inl rfl
  · exact .inr rfl

theorem answered_phase (t : AircraftThread) (buffer : MessageInterProcess) :
    (t.answered buffer).phase = .detaching ∨ (t.answered buffer).phase = .waiting := by
  unfold answered
  split
  · exact .inl rfl
  · exact .inr rfl

/-- A channel is given up only at the end of the thread. -/
theorem step_attached {t t' : AircraftThread} {i : Input} (h : t.step i = some t')
    (was : t.phase.attached = true) : t'.phase.attached = true ∨ t'.phase = .ended := by
  cases step_spec h with
  | tick c hp | enter c hp | noRadar c hp | enterSent ok hp | attach ok hp =>
      rw [hp] at was
      cases was
  | move hp => rcases t.moved_phase with h | h <;> exact .inl (by rw [h]; rfl)
  | answer buffer hp =>
      rcases t.answered_phase buffer with h | h <;> exact .inl (by rw [h]; rfl)
  | exitSent ok hp => cases ok <;> exact .inl rfl
  | receiveError hp | receivePulse hp | wake hp => exact .inl rfl
  | detach hp => exact .inr rfl

theorem step_announced {t t' : AircraftThread} {i : Input} (h : t.step i = some t')
    (was : t.phase.announced = true) : t'.phase.announced = true := by
  cases step_spec h with
  | tick c hp | enter c hp | noRadar c hp | enterSent ok hp =>
      rw [hp] at was
      cases was
  | move hp => rcases t.moved_phase with h | h <;> rw [h] <;> rfl
  | answer buffer hp => rcases t.answered_phase buffer with h | h <;> rw [h] <;> rfl
  | attach ok hp | exitSent ok hp => cases ok <;> rfl
  | receiveError hp | receivePulse hp | wake hp | detach hp => rfl

/-- A thread whose ENTER_AIRSPACE is served goes on to attach its channel. -/
theorem sent_enter {t t' : AircraftThread} {msg : Message} (pending : t.pendingMessage = some msg)
    (enter : msg.type = .enterAirspace) (h : t.step (.sent true) = some t') :
    msg.planeID = t.aircraft.id ∧ t'.phase = .attaching := by
  cases step_spec h with
  | enterSent ok hp =>
      simp only [pendingMessage, hp, Option.some.injEq] at pending
      subst pending
      exact ⟨rfl, rfl⟩
  | exitSent ok hp =>
      simp only [pendingMessage, hp, Option.some.injEq] at pending
      subst pending
      cases enter

end AircraftThread

namespace Radar

def EnterHandled (r : Radar) (planeID : Int32) : Prop :=
  ∃ msg ∈ r.handled, msg.type = .enterAirspace ∧ msg.planeID = planeID

def ExitHandled (r : Radar) (planeID : Int32) : Prop :=
  ∃ msg ∈ r.handled, msg.type = .exitAirspace ∧ msg.planeID = planeID

/-- The ENTER_AIRSPACE has been replied to, and is handled or about to be. -/
def EnterReceived (r : Radar) (planeID : Int32) : Prop :=
  r.EnterHandled planeID ∨
    ∃ msg, r.arrival = .handling msg ∧ msg.type = .enterAirspace ∧ msg.planeID = planeID

end Radar

namespace AirTrafficControl

/-- From its ENTER_AIRSPACE to its EXIT_AIRSPACE or its end, the aircraft is in the set. -/
def Kept (s : AirTrafficControl) (t : AircraftThread) : Prop :=
  s.radar.EnterHandled t.aircraft.id → ¬ s.radar.ExitHandled t.aircraft.id →
    t.phase.finished = false → t.aircraft.id ∈ s.radar.planesInAirspace

def NoneLost (s : AirTrafficControl) : Prop := ∀ t ∈ s.threads, s.Kept t

/-- The ID whose channel the step opens. -/
def opens? (s : AirTrafficControl) : Label → Option Int32
  | .radar (.openChannel _) =>
      match s.radar.update with
      | .opening planeID _ => some planeID
      | _ => none
  | _ => none

/-- No aircraft is between the reply to its ENTER_AIRSPACE and its `name_attach` when the
step opens its channel. -/
def OpensNoGap (s : AirTrafficControl) (label : Label) : Prop :=
  ∀ t ∈ s.threads, ¬ (s.opens? label = some t.aircraft.id ∧ t.phase = .attaching)

instance (s : AirTrafficControl) (label : Label) : Decidable (s.OpensNoGap label) :=
  inferInstanceAs (Decidable (∀ t ∈ s.threads, ¬ (_ ∧ _)))

/-- What is known of the aircraft whose turn it is. -/
def CurrentTurn (s : AirTrafficControl) : UpdatePhase → Prop
  | .opening planeID _ => s.radar.EnterHandled planeID
  | .sending planeID _ => s.radar.EnterHandled planeID ∧
      ∀ (i : Nat) (t : AircraftThread), s.threads[i]? = some t → t.aircraft.id = planeID →
        t.phase.attached = true ∨ t.phase = .ended
  | .unreachable planeID _ => s.radar.EnterHandled planeID ∧
      ∀ (i : Nat) (t : AircraftThread), s.threads[i]? = some t → t.aircraft.id = planeID →
        t.phase = .ended
  | _ => True

/-- What carries `NoneLost` along a run. -/
structure EnteredInvariant (s : AirTrafficControl) : Prop where
  distinct : (s.threads.map fun t => t.aircraft.id).Nodup
  announced : ∀ (i : Nat) (t : AircraftThread), s.threads[i]? = some t →
    s.radar.EnterReceived t.aircraft.id → t.phase.announced = true
  members : ∀ planeID ∈ s.radar.planesInAirspace, s.radar.EnterHandled planeID
  current : s.CurrentTurn s.radar.update
  kept : ∀ (i : Nat) (t : AircraftThread), s.threads[i]? = some t → s.Kept t

/-! ## A step of one aircraft -/

theorem EnteredInvariant.aircraft {s : AirTrafficControl} (h : EnteredInvariant s) {i : Nat}
    {t t' : AircraftThread} {input : Input} (at_ : s.threads[i]? = some t)
    (next : t.step input = some t') :
    EnteredInvariant { s with threads := s.threads.set i t' } := by
  have same : t'.aircraft.id = t.aircraft.id := AircraftThread.step_id next
  have running : t.phase.finished = false := by
    by_contra done
    rw [AircraftThread.step_eq_none_of_finished (Bool.not_eq_false _ ▸ done)] at next
    cases next
  refine ⟨?_, ?_, h.members, ?_, ?_⟩
  · rw [Pool.map_set_eq (fun t => t.aircraft.id) at_ same]
    exact h.distinct
  · apply Pool.forall_set h.announced
    intro received
    rw [same] at received
    exact AircraftThread.step_announced next (h.announced i t at_ received)
  · have current := h.current
    cases hu : s.radar.update with
    | looping | waiting | testing | copying | polling | writing | ended => trivial
    | opening planeID rest =>
        rw [hu] at current
        exact current
    | sending planeID rest =>
        rw [hu] at current
        refine ⟨current.1, Pool.forall_set current.2 ?_⟩
        intro own
        rw [same] at own
        rcases current.2 i t at_ own with attached | ended
        · exact AircraftThread.step_attached next attached
        · rw [ended] at running
          cases running
    | unreachable planeID rest =>
        rw [hu] at current
        refine ⟨current.1, Pool.forall_set current.2 ?_⟩
        intro own
        rw [same] at own
        rw [current.2 i t at_ own] at running
        cases running
  · apply Pool.forall_set h.kept
    intro entered notLeft _
    rw [same] at entered notLeft ⊢
    exact h.kept i t at_ entered notLeft running

/-! ## A step of Radar -/

/-- A step of Radar that leaves the set and what was handled alone. -/
theorem EnteredInvariant.quiet {s : AirTrafficControl} (h : EnteredInvariant s) {r : Radar}
    (planes : r.planesInAirspace = s.radar.planesInAirspace)
    (handled : r.handled = s.radar.handled)
    (arrival : ∀ msg, r.arrival = .handling msg → s.radar.arrival = .handling msg)
    (current : CurrentTurn { s with radar := r } r.update) :
    EnteredInvariant { s with radar := r } := by
  have entered : ∀ planeID, r.EnterHandled planeID ↔ s.radar.EnterHandled planeID := by
    intro planeID
    simp only [Radar.EnterHandled, handled]
  have exited : ∀ planeID, r.ExitHandled planeID ↔ s.radar.ExitHandled planeID := by
    intro planeID
    simp only [Radar.ExitHandled, handled]
  refine ⟨h.distinct, ?_, ?_, current, ?_⟩
  · intro i t at_ received
    apply h.announced i t at_
    rcases received with done | ⟨msg, busy, what⟩
    · exact .inl ((entered _).mp done)
    · exact .inr ⟨msg, arrival msg busy, what⟩
  · intro planeID mem
    rw [planes] at mem
    exact (entered planeID).mpr (h.members planeID mem)
  · intro i t at_ done notLeft running
    rw [planes]
    exact h.kept i t at_ ((entered _).mp done) (fun left => notLeft ((exited _).mpr left)) running

theorem EnteredInvariant.handle {s : AirTrafficControl} (h : EnteredInvariant s) {msg : Message}
    (at_ : s.radar.arrival = .handling msg) :
    EnteredInvariant { s with radar := { s.radar.handleMessage msg with
      arrival := .looping, handled := s.radar.handled ++ [msg] } } := by
  obtain ⟨planes, frame⟩ := s.radar.handleMessage_eq msg
  have mem := s.radar.mem_handleMessage msg
  rw [frame] at mem ⊢
  have entered : ∀ planeID, Radar.EnterHandled { s.radar with
      planesInAirspace := planes, arrival := .looping, handled := s.radar.handled ++ [msg] }
        planeID ↔ s.radar.EnterHandled planeID ∨
          msg.type = .enterAirspace ∧ msg.planeID = planeID := by
    intro planeID
    simp [Radar.EnterHandled, or_and_right, exists_or]
  have exited : ∀ planeID, Radar.ExitHandled { s.radar with
      planesInAirspace := planes, arrival := .looping, handled := s.radar.handled ++ [msg] }
        planeID ↔ s.radar.ExitHandled planeID ∨
          msg.type = .exitAirspace ∧ msg.planeID = planeID := by
    intro planeID
    simp [Radar.ExitHandled, or_and_right, exists_or]
  refine ⟨h.distinct, ?_, ?_, ?_, ?_⟩
  · intro i t place received
    apply h.announced i t place
    rcases received with done | ⟨other, busy, _⟩
    · rcases (entered _).mp done with old | new
      · exact .inl old
      · exact .inr ⟨msg, at_, new⟩
    · cases busy
  · intro planeID here
    apply (entered planeID).mpr
    rcases (mem planeID).mp here with new | old
    · exact .inr new
    · exact .inl (h.members planeID old.1)
  · have current := h.current
    cases hu : s.radar.update with
    | looping | waiting | testing | copying | polling | writing | ended => trivial
    | opening planeID rest =>
        rw [hu] at current
        exact (entered planeID).mpr (.inl current)
    | sending planeID rest | unreachable planeID rest =>
        rw [hu] at current
        exact ⟨(entered planeID).mpr (.inl current.1), current.2⟩
  · intro i t place done notLeft running
    apply (mem _).mpr
    rw [exited, not_or] at notLeft
    rcases (entered _).mp done with old | new
    · exact .inr ⟨h.kept i t place old notLeft.1 running, notLeft.2⟩
    · exact .inl new

/-- The catch block erases an ID that only an ended thread has. -/
theorem EnteredInvariant.erase {s : AirTrafficControl} (h : EnteredInvariant s)
    {planeID : Int32} {rest : List Int32} (at_ : s.radar.update = .unreachable planeID rest) :
    EnteredInvariant { s with radar :=
      { (s.radar.removePlaneFromAirspace planeID).record planeID .unreachable with
        update := .polling rest } } := by
  have current := h.current
  rw [at_] at current
  refine ⟨h.distinct, h.announced, ?_, trivial, ?_⟩
  · intro other here
    exact h.members other (Finset.mem_of_mem_erase here)
  · intro i t place done notLeft running
    have here := h.kept i t place done notLeft running
    apply Finset.mem_erase.mpr
    refine ⟨?_, here⟩
    intro own
    rw [current.2 i t place own] at running
    cases running

theorem not_attached {s : AirTrafficControl} {planeID : Int32} (free : ¬ s.Attached planeID)
    {i : Nat} {t : AircraftThread} (place : s.threads[i]? = some t)
    (own : t.aircraft.id = planeID) : t.phase.attached = false := by
  by_contra attached
  exact free ⟨t, List.mem_of_getElem? place, own, Bool.not_eq_false _ ▸ attached⟩

/-- The thread that was reached is the only one with its ID. -/
theorem EnteredInvariant.attached_of_mem {s : AirTrafficControl} (h : EnteredInvariant s)
    {planeID : Int32} (reached : s.Attached planeID) {i : Nat} {t : AircraftThread}
    (place : s.threads[i]? = some t) (own : t.aircraft.id = planeID) :
    t.phase.attached = true := by
  obtain ⟨u, mem, ownu, attached⟩ := reached
  obtain ⟨j, placeu⟩ := List.mem_iff_getElem?.mp mem
  have same : i = j := Pool.eq_of_key_eq h.distinct place placeu (own.trans ownu.symm)
  rw [same, placeu, Option.some.injEq] at place
  rw [← place]
  exact attached

theorem EnteredInvariant.radar {s : AirTrafficControl} (h : EnteredInvariant s)
    {label : Radar.Label} {r : Radar} (next : s.radar.step label = some r)
    (receives : ∀ msg, label = .receive (.message msg) → msg.type = .enterAirspace →
      ∀ (i : Nat) (t : AircraftThread), s.threads[i]? = some t →
        t.aircraft.id = msg.planeID → t.phase.announced = true)
    (opens : ∀ planeID rest ok, s.radar.update = .opening planeID rest →
      label = .openChannel ok → (ok = true ↔ s.Attached planeID) ∧
        ∀ t ∈ s.threads, t.aircraft.id = planeID → t.phase ≠ .attaching)
    (fails : ∀ planeID rest, s.radar.update = .sending planeID rest → label = .sendFails →
      ¬ s.Attached planeID) : EnteredInvariant { s with radar := r } := by
  have current := h.current
  cases Radar.step_spec next with
  | arrival label phase idle local_ =>
      exact h.quiet rfl rfl (fun msg busy => absurd busy (idle msg)) current
  | receive msg at_ =>
      refine ⟨h.distinct, ?_, h.members, current, h.kept⟩
      intro i t place received
      rcases received with done | ⟨other, busy, enter, own⟩
      · exact h.announced i t place (.inl done)
      · cases busy
        exact receives msg rfl enter i t place own.symm
  | handle msg at_ => exact h.handle at_
  | loop phase at_ goesOn =>
      refine h.quiet rfl rfl (fun _ busy => busy) ?_
      rcases goesOn with rfl | rfl
      · trivial
      · trivial
  | pulse at_ | foundPlanes at_ found | stillEmpty at_ found was | nowEmpty at_ found was
    | copy planesToPoll at_ once all | switch at_ | gone planeID rest at_ left
    | answer planeID rest at_ info own =>
      exact h.quiet rfl rfl (fun _ busy => busy) trivial
  | turn planeID rest at_ here =>
      exact h.quiet rfl rfl (fun _ busy => busy) (h.members planeID here)
  | openChannel planeID rest at_ ok =>
      obtain ⟨reaches, noGap⟩ := opens planeID rest ok at_ rfl
      rw [at_] at current
      refine h.quiet rfl rfl (fun _ busy => busy) ?_
      cases ok with
      | true =>
          refine ⟨current, ?_⟩
          intro i t place own
          exact .inl (h.attached_of_mem (reaches.mp rfl) place own)
      | false =>
          refine ⟨current, ?_⟩
          intro i t place own
          have free : ¬ s.Attached planeID := by
            intro attached
            cases reaches.mpr attached
          apply Phase.ended_of_not_attached _ (not_attached free place own)
            (noGap t (List.mem_of_getElem? place) own)
          exact h.announced i t place (.inl (own.symm ▸ current))
  | sendFails planeID rest at_ =>
      rw [at_] at current
      refine h.quiet rfl rfl (fun _ busy => busy) ⟨current.1, ?_⟩
      intro i t place own
      rcases current.2 i t place own with attached | ended
      · rw [not_attached (fails planeID rest at_ rfl) place own] at attached
        cases attached
      · exact ended
  | erase planeID rest at_ => exact h.erase at_
  | write polled tickCounter at_ written result =>
      have frame := (Radar.writeToSharedMemory_spec result).frame
      rw [frame]
      exact h.quiet rfl rfl (fun _ busy => busy) trivial
  | shutdown => exact h.quiet rfl rfl (fun _ busy => busy) current
  | clear ended => exact h.quiet rfl rfl (fun _ busy => busy) current

/-! ## Whole runs -/

theorem enteredInvariant_start {planeData : List PlaneData}
    (distinct : (planeData.map PlaneData.id).Nodup) : EnteredInvariant (start planeData) := by
  refine ⟨?_, ?_, by simp [start, Radar.start], trivial, ?_⟩
  · simpa [start, AircraftThread.start, Aircraft.ofPlaneData, Function.comp_def] using distinct
  · intro i t place received
    rcases received with ⟨msg, none, _⟩ | ⟨msg, busy, _⟩
    · cases none
    · cases busy
  · intro i t place entered
    obtain ⟨msg, none, _⟩ := entered
    cases none

theorem enteredInvariant_step (s : AirTrafficControl) (label : Label) (s' : AirTrafficControl)
    (h : EnteredInvariant s) (noGap : s.OpensNoGap label) (hstep : s.step label = some s') :
    EnteredInvariant s' := by
  cases step_spec hstep with
  | aircraft i input t t' at_ may next => exact h.aircraft at_ next
  | radar label r may next =>
      refine h.radar next ?_ ?_ ?_
      · intro msg same
        subst same
        exact may.elim
      · intro planeID rest ok at_ same
        subst same
        simp only [RadarMay, at_] at may
        refine ⟨may, ?_⟩
        intro t mem own gap
        exact noGap t mem ⟨by simp only [opens?, at_, own], gap⟩
      · intro planeID rest at_ same
        subst same
        simpa only [RadarMay, at_] using may
  | send i t t' msg r at_ pending next received =>
      have moved := h.aircraft at_ next
      refine moved.radar received ?_ (by intro _ _ _ _ other; cases other)
        (by intro _ _ _ other; cases other)
      intro other same enter j u place own
      cases same
      obtain ⟨sender, attaching⟩ := AircraftThread.sent_enter pending enter next
      have bound := (List.getElem?_eq_some_iff.mp at_).1
      have mine : (s.threads.set i t')[i]? = some t' := List.getElem?_set_self bound
      have ids : u.aircraft.id = t'.aircraft.id := by
        rw [own, sender, AircraftThread.step_id next]
      have here : j = i := Pool.eq_of_key_eq moved.distinct place mine ids
      rw [here, mine, Option.some.injEq] at place
      rw [← place, attaching]
      rfl
  | poll i t t' planeID rest r info at_ blocked own next reply answered =>
      exact (h.aircraft at_ next).radar answered (by intro _ other; cases other)
        (by intro _ _ _ _ other; cases other) (by intro _ _ _ other; cases other)

theorem enteredInvariant_run {planeData : List PlaneData} {labels : List Label}
    {s : AirTrafficControl} (distinct : (planeData.map PlaneData.id).Nodup)
    (h : Machine.run step (start planeData) labels = some s)
    (noGap : Machine.Along step OpensNoGap (start planeData) labels) : EnteredInvariant s :=
  Machine.run_invariant_along enteredInvariant_step (enteredInvariant_start distinct) noGap h

/-- When no poll opens a channel in the gap of its aircraft, every aircraft whose
ENTER_AIRSPACE was handled is in the set until its EXIT_AIRSPACE is handled or its
thread has ended. -/
theorem none_lost (planeData : List PlaneData) (labels : List Label) (s : AirTrafficControl)
    (distinct : (planeData.map PlaneData.id).Nodup)
    (h : Machine.run step (start planeData) labels = some s)
    (noGap : Machine.Along step OpensNoGap (start planeData) labels) : s.NoneLost := by
  have inv := enteredInvariant_run distinct h noGap
  intro t mem
  obtain ⟨i, place⟩ := List.mem_iff_getElem?.mp mem
  exact inv.kept i t place

/-- One aircraft in the middle of the airspace. -/
def onePlane : List PlaneData := [⟨0, 7, 50000, 50000, 20000, 100, 0, 0⟩]

/-- Its entry, up to the point where Radar has handled ENTER_AIRSPACE. -/
def entry : List Label :=
  [.radar .attach, .aircraft 0 (.opened true), .radar .arrivalLoop, .send 0, .radar .handle]

/-- A poll of aircraft 7 that reaches it or does not. -/
def pollPass (ok : Bool) : List Label :=
  [.radar .updateLoop, .radar .pulse, .radar .testEmpty, .radar (.copy [7]), .radar .nextPlane,
    .radar (.openChannel ok)]

theorem none_lost_onePlane :
    ∃ s, Machine.run step (start onePlane)
        (entry ++ .aircraft 0 (.attached true) :: .aircraft 0 .move :: pollPass true ++
          [.poll 0, .radar .nextPlane, .radar (.write 1)]) = some s ∧
      s.radar.shared.count = 1 ∧ s.NoneLost := by
  obtain ⟨s, hs, htest⟩ := Machine.exists_of_map_run step (start onePlane)
    (entry ++ .aircraft 0 (.attached true) :: .aircraft 0 .move :: pollPass true ++
      [.poll 0, .radar .nextPlane, .radar (.write 1)])
    (fun s => s.radar.shared.count == 1) (by decide +kernel)
  exact ⟨s, hs, beq_iff_eq.mp htest,
    none_lost onePlane _ s (by decide) hs (by decide +kernel)⟩

/-- The poll comes between the reply and the attach; the aircraft then flies on, polled
by nobody. -/
theorem lost_in_gap :
    ¬ ∀ (planeData : List PlaneData) (labels : List Label) (s : AirTrafficControl),
        (planeData.map PlaneData.id).Nodup →
        Machine.run step (start planeData) labels = some s → s.NoneLost := by
  intro claim
  obtain ⟨s, hs, htest⟩ := Machine.exists_of_map_run step (start onePlane)
    (entry ++ pollPass false ++ [.radar .eraseUnreachable, .aircraft 0 (.attached true),
      .aircraft 0 .move])
    (fun s => decide (∃ t ∈ s.threads, t.aircraft.id = 7 ∧ t.phase = .receiving) &&
      decide (7 ∉ s.radar.planesInAirspace) &&
      s.radar.handled == [createEnterAirspaceMessage 7]) (by decide +kernel)
  simp only [Bool.and_eq_true, decide_eq_true_eq, beq_iff_eq] at htest
  obtain ⟨⟨⟨t, mem, id, flying⟩, missing⟩, handled⟩ := htest
  have kept := claim onePlane _ s (by decide) hs t mem
  have entered : s.radar.EnterHandled 7 :=
    ⟨createEnterAirspaceMessage 7, by simp [handled], rfl, rfl⟩
  have notLeft : ¬ s.radar.ExitHandled 7 := by
    intro left
    obtain ⟨msg, hmsg, exit, _⟩ := left
    rw [handled, List.mem_singleton] at hmsg
    subst hmsg
    cases exit
  rw [Kept, id] at kept
  exact missing (kept entered notLeft (by rw [flying]; rfl))

end AirTrafficControl

end QnxAtc
