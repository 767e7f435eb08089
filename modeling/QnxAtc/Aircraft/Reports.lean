import QnxAtc.Aircraft.Thread

/-! # What an aircraft reports, over a whole run

The state leaves the box between two rounds of the loop whenever a command writes
it, so the box is an invariant of one phase only: the one where a message is
received, which the boundary check guards. Everything reported is read there.
-/

namespace QnxAtc.AircraftThread

/-- ENTER_AIRSPACE first, and no EXIT_AIRSPACE since. -/
def Entered (log : List Event) : Prop :=
  ∃ msg rest, log = .sentEnter msg :: rest ∧ ∀ e ∈ rest, e.isExit = false

/-- EXIT_AIRSPACE is the last thing that happened. -/
def Left (log : List Event) : Prop :=
  ∃ before msg, Entered before ∧ log = before ++ [.sentExit msg]

/-- What the log looks like in each phase. -/
def LogShape : Phase → List Event → Prop
  | .arriving _, log => log = []
  | .sendingExit, log => Left log
  | .detaching, log | .ended, log | .abandoned, log => log = [] ∨ Entered log ∨ Left log
  | _, log => Entered log

theorem LogShape.cases {p : Phase} {log : List Event} (h : LogShape p log) :
    log = [] ∨ Entered log ∨ Left log := by
  cases p with
  | arriving c => exact .inl h
  | sendingExit => exact .inr (.inr h)
  | detaching | ended | abandoned => exact h
  | sendingEnter | attaching | moving | receiving | waiting => exact .inr (.inl h)

theorem Entered.append {log : List Event} (h : Entered log) (more : List Event)
    (hmore : ∀ e ∈ more, e.isExit = false) : Entered (log ++ more) := by
  obtain ⟨msg, rest, rfl, hrest⟩ := h
  refine ⟨msg, rest ++ more, rfl, ?_⟩
  intro e he
  rcases List.mem_append.mp he with he | he
  · exact hrest e he
  · exact hmore e he

theorem Entered.no_exit {log : List Event} (h : Entered log) : ∀ e ∈ log, e.isExit = false := by
  obtain ⟨msg, rest, rfl, hrest⟩ := h
  intro e he
  rcases List.mem_cons.mp he with rfl | he
  · rfl
  · exact hrest e he

/-- An EXIT_AIRSPACE in the log of an aircraft that left is its last entry. -/
theorem Left.split {log pre post : List Event} {e : Event} (h : Left log)
    (hlog : log = pre ++ e :: post) (he : e.isExit = true) : Entered pre ∧ post = [] := by
  obtain ⟨before, msg, hbefore, rfl⟩ := h
  rcases List.eq_nil_or_concat post with rfl | ⟨post', last, rfl⟩
  · have hpre := (List.append_inj' hlog rfl).1
    exact ⟨hpre ▸ hbefore, rfl⟩
  · -- then `e` stands among the entries before the last one, none of which is an exit
    have hlist : before ++ [.sentExit msg] = (pre ++ e :: post') ++ [last] := by
      simpa using hlog
    have hmem : e ∈ before := by
      rw [(List.append_inj' hlist rfl).1]
      simp
    rw [hbefore.no_exit e hmem] at he
    cases he

theorem countP_isExit_le {p : Phase} {log : List Event} (h : LogShape p log) :
    log.countP Event.isExit ≤ 1 := by
  have none_of : ∀ l : List Event, (∀ e ∈ l, e.isExit = false) → l.countP Event.isExit = 0 := by
    intro l hl
    simpa [List.countP_eq_zero] using hl
  rcases h.cases with rfl | hin | ⟨before, msg, hin, rfl⟩
  · simp
  · rw [none_of log hin.no_exit]
    omega
  · rw [List.countP_append, none_of before hin.no_exit]
    simp [Event.isExit]

/-- What holds of the thread of aircraft `a` at every moment. -/
structure LogInvariant (a : Aircraft) (t : AircraftThread) : Prop where
  id : t.aircraft.id = a.id
  checked : t.phase = .receiving → ¬ t.aircraft.OutOfBounds
  shape : LogShape t.phase t.log
  reports : ∀ r ∈ t.reports, r.InAirspace ∧ r.id = a.id

theorem logInvariant_start (a : Aircraft) : LogInvariant a (start a) :=
  ⟨rfl, nofun, rfl, by simp [start, AircraftThread.reports]⟩

/-- Entries without a record leave the reports alone. -/
private theorem reports_append {t : AircraftThread} {log : List Event} {a : Aircraft}
    (h : ∀ r ∈ t.reports, r.InAirspace ∧ r.id = a.id) (e : Event) (hlog : log = t.log ++ [e])
    (he : e.record? = none) :
    ∀ r ∈ log.filterMap Event.record?, r.InAirspace ∧ r.id = a.id := by
  subst hlog
  simpa [AircraftThread.reports, he] using h

/-- The round that answers a message: its record is the checked position. -/
theorem LogInvariant.answered {a : Aircraft} {t : AircraftThread} (h : LogInvariant a t)
    (hp : t.phase = .receiving) (buffer : MessageInterProcess) :
    LogInvariant a (t.answered buffer) := by
  have hentered : Entered t.log := by simpa [LogShape, hp] using h.shape
  have hmore : Entered (t.answered buffer).log :=
    hentered.append _ (by simp [Event.isExit])
  refine ⟨by simpa [AircraftThread.answered] using h.id, ?_, ?_, ?_⟩
  · intro hreceiving
    simp only [AircraftThread.answered] at hreceiving
    split at hreceiving <;> cases hreceiving
  · simp only [AircraftThread.answered] at hmore ⊢
    split
    · exact .inr (.inl hmore)
    · exact hmore
  · intro r hr
    simp only [AircraftThread.reports, AircraftThread.answered, List.filterMap_append,
      List.mem_append, List.mem_filterMap, List.mem_cons, List.not_mem_nil, or_false] at hr
    rcases hr with hold | ⟨e, rfl | rfl, hrec⟩
    · exact h.reports r (List.mem_filterMap.mpr hold)
    · cases hrec
    · have hself := t.aircraft.handle_record hrec
      subst hself
      exact ⟨Aircraft.planeInfo_inAirspace (h.checked hp), h.id⟩

/-- The head of the loop: the boundary check separates leaving from receiving. -/
theorem LogInvariant.moved {a : Aircraft} {t : AircraftThread} (h : LogInvariant a t)
    (hp : t.phase = .moving) : LogInvariant a t.moved := by
  have hentered : Entered t.log := by simpa [LogShape, hp] using h.shape
  refine ⟨by simpa using h.id, ?_, ?_, ?_⟩ <;> unfold AircraftThread.moved <;> split
  · exact nofun
  · rename_i inside
    exact fun _ => inside
  · exact ⟨t.log, _, hentered, rfl⟩
  · exact hentered
  · exact reports_append h.reports _ rfl rfl
  · exact h.reports

theorem logInvariant_step {a : Aircraft} (t : AircraftThread) (i : Input) (t' : AircraftThread)
    (h : LogInvariant a t) (hstep : t.step i = some t') : LogInvariant a t' := by
  have shape := h.shape
  cases step_spec hstep with
  | tick c hp => exact ⟨h.id, nofun, by simpa [LogShape, hp] using shape, h.reports⟩
  | enter c hp =>
      have hnil : t.log = [] := by simpa [LogShape, hp] using shape
      exact ⟨h.id, nofun, ⟨_, [], by rw [hnil]; rfl, by simp⟩,
        reports_append h.reports _ rfl rfl⟩
  | noRadar c hp => exact ⟨h.id, nofun, shape.cases, h.reports⟩
  | enterSent ok hp =>
      cases ok
      · exact ⟨h.id, nofun, shape.cases, h.reports⟩
      · exact ⟨h.id, nofun, by simpa [LogShape, hp] using shape, h.reports⟩
  | attach ok hp =>
      cases ok
      · exact ⟨h.id, nofun, shape.cases, h.reports⟩
      · exact ⟨h.id, nofun, by simpa [LogShape, hp] using shape, h.reports⟩
  | move hp => exact h.moved hp
  | exitSent ok hp => cases ok <;> exact ⟨h.id, nofun, shape.cases, h.reports⟩
  | receiveError hp => exact ⟨h.id, nofun, shape.cases, h.reports⟩
  | receivePulse hp => exact ⟨h.id, nofun, by simpa [LogShape, hp] using shape, h.reports⟩
  | answer buffer hp => exact h.answered hp buffer
  | wake hp => exact ⟨h.id, nofun, by simpa [LogShape, hp] using shape, h.reports⟩
  | detach hp => exact ⟨h.id, nofun, shape.cases, h.reports⟩

theorem logInvariant_run {a : Aircraft} {inputs : List Input} {t : AircraftThread}
    (h : Machine.run step (start a) inputs = some t) : LogInvariant a t :=
  Machine.run_invariant logInvariant_step (logInvariant_start a) h

/-- Whatever is sent to an aircraft, every record it answers with lies in the
airspace and carries its own ID; it leaves at most once, after entering, and
reports nothing afterwards. -/
theorem reports_inAirspace (a : Aircraft) (inputs : List Input) (t : AircraftThread)
    (h : Machine.run step (start a) inputs = some t) :
    (∀ r ∈ t.reports, r.InAirspace ∧ r.id = a.id) ∧
      t.log.countP Event.isExit ≤ 1 ∧
      ∀ pre e post, t.log = pre ++ e :: post → e.isExit = true →
        (∃ e' ∈ pre, e'.isEnter = true) ∧ ∀ e' ∈ post, e'.record? = none := by
  have inv := logInvariant_run h
  refine ⟨inv.reports, countP_isExit_le inv.shape, ?_⟩
  intro pre e post hlog he
  rcases inv.shape.cases with hnil | hentered | hleft
  · simp [hnil] at hlog
  · have hmem : e ∈ t.log := by simp [hlog]
    rw [hentered.no_exit e hmem] at he
    cases he
  · obtain ⟨⟨msg, rest, hpre, _⟩, rfl⟩ := hleft.split hlog he
    exact ⟨⟨.sentEnter msg, by simp [hpre], rfl⟩, nofun⟩

/-- An aircraft that is polled once and flies out of the airspace in the next round. -/
theorem reports_inAirspace_crossing :
    ∃ t, Machine.run step (start ⟨7, 99000, 500, 20000, 600, 0, 0, 0⟩)
        [.opened true, .sent true, .attached true, .move,
          .received (.message (Message.asBuffer ⟨false, .requestPosition, 7, none, 0⟩)),
          .pulse, .move, .sent true, .detach] = some t ∧
      t.reports.length = 1 ∧ t.phase = .ended ∧
      (∀ r ∈ t.reports, r.InAirspace ∧ r.id = 7) ∧ t.log.countP Event.isExit ≤ 1 := by
  obtain ⟨t, ht, htest⟩ := Machine.exists_of_map_run
    step (start ⟨7, 99000, 500, 20000, 600, 0, 0, 0⟩)
    [.opened true, .sent true, .attached true, .move,
      .received (.message (Message.asBuffer ⟨false, .requestPosition, 7, none, 0⟩)),
      .pulse, .move, .sent true, .detach]
    (fun t => t.reports.length == 1 && decide (t.phase = .ended)) (by decide +kernel)
  have hsafe := reports_inAirspace _ _ t ht
  simp only [Bool.and_eq_true, beq_iff_eq, decide_eq_true_eq] at htest
  exact ⟨t, ht, htest.1, htest.2, hsafe.1, hsafe.2.1⟩

end QnxAtc.AircraftThread
