import QnxAtc.Computer.MovingHorizon
import QnxAtc.Display.Render
import QnxAtc.Readers.Seen

/-! # The air picture

All that lies between an aircraft and the operator's screen: the ATC process with the
tick counter of its `main`, the monitor of the Computer System with the horizon its
other thread sets, and the two threads of the Display. A reader that has copied a
snapshot is busy with it until its next wait, the monitor with the check and the alert,
the display loop with one frame.
-/

namespace QnxAtc

/-- What the monitor is doing between a poll and its next wait. -/
inductive MonitorDuty where
  | idle
  | checking
  | sending (msg : MessageInterProcess)

/-- One call of `checkCollision`, with every value the horizon had while it ran. -/
structure Check where
  horizons : List Int32
  planes : List MsgPlaneInfo
  collisionPairs : List (Int32 × Int32)

/-- One call of `render`. -/
structure Frame where
  planes : List MsgPlaneInfo
  timestamp : UInt64
  collisionWarnings : List String

/-- The count the display loop hands over is the number of records it copied. -/
def Frame.text (f : Frame) : List Char :=
  render f.planes f.planes.length f.timestamp f.collisionWarnings

structure AirPicture where
  surveillance : Surveillance
  timeConstraintCollisionFreq : Int32
  tickCounter : UInt64
  duty : MonitorDuty
  rendering : Bool
  listener : CollisionListener
  -- history, which no step reads but for what a check may have read: the ticks so far, the
  -- horizons since the current check began, the checks made and the frames drawn
  ticks : Nat
  horizons : List Int32
  checks : List Check
  frames : List Frame

namespace AirPicture

inductive Label where
  | surveillance (label : Surveillance.Label)
  | tick
  | changeTimeConstraint (newConstraint : Int32)
  | check (reads : List Int32)
  | send (ok : Bool)
  | listener (input : ListenerInput)
  | render

def start (planeData : List PlaneData) : AirPicture :=
  ⟨.start planeData, 180, 0, .idle, false, .start, 0, [180], [], []⟩

/-- A busy reader does not poll or wait, and Radar stamps a snapshot with the tick counter. -/
def May (s : AirPicture) : Surveillance.Label → Prop
  | .monitor _ => s.duty = .idle
  | .display _ => s.rendering = false
  | .atc (.radar (.write tickCounter)) => tickCounter = s.tickCounter
  | .atc _ => True

instance (duty : MonitorDuty) : Decidable (duty = .idle) :=
  match duty with
  | .idle => isTrue rfl
  | .checking => isFalse (by intro h; cases h)
  | .sending _ => isFalse (by intro h; cases h)

instance (s : AirPicture) (label : Surveillance.Label) : Decidable (s.May label) := by
  unfold May
  split <;> infer_instance

/-- What a poll leads to. The flag `running` is one for both threads of the Display. -/
def settle (s : AirPicture) (label : Surveillance.Label) (next : Surveillance) : AirPicture :=
  match label with
  | .monitor .poll =>
      if next.monitor.phase = .pausing then
        { s with
          surveillance := next
          duty := .checking
          horizons := [s.timeConstraintCollisionFreq] }
      else { s with surveillance := next }
  | .display .poll =>
      { s with
        surveillance := next
        rendering := next.display.phase = .pausing
        listener := { s.listener with running := next.display.running } }
  | _ => { s with surveillance := next }

/-- The reads of a check found the horizon at values it had while the check ran. -/
def InForce (s : AirPicture) (reads : List Int32) : Prop := ∀ T ∈ reads, T ∈ s.horizons

instance (s : AirPicture) (reads : List Int32) : Decidable (s.InForce reads) :=
  List.decidableBAll _ reads

/-- `checkCollision`: the loops over what the reads return, then the message. Reads
beyond the listed ones find the horizon as it is at the end. -/
def checkStep (s : AirPicture) (reads : List Int32) : Option AirPicture :=
  match s.duty with
  | .checking =>
      if s.InForce reads then
        match collisionPairsReading (fun k => reads.getD k s.timeConstraintCollisionFreq)
            s.surveillance.monitor.planes 0 with
        | .error _ => none
        | .ok (pairs, _) =>
            match alertMessage pairs with
            | .error _ => none
            | .ok msg =>
                some { s with
                  duty := .sending msg
                  checks := s.checks ++ [⟨s.horizons, s.surveillance.monitor.planes, pairs⟩] }
      else none
  | _ => none

/-- `sendCollisionToDisplay`: the Display takes the alert, or it is dropped. -/
def sendStep (s : AirPicture) (ok : Bool) : Option AirPicture :=
  match s.duty with
  | .sending msg =>
      if ok then
        (s.listener.step (.received (.message msg))).map fun listener =>
          { s with duty := .idle, listener := listener }
      else some { s with duty := .idle }
  | _ => none

def step (s : AirPicture) : Label → Option AirPicture
  | .surveillance label =>
      if s.May label then (s.surveillance.step label).map (s.settle label) else none
  | .tick => some { s with tickCounter := s.tickCounter + 1, ticks := s.ticks + 1 }
  | .changeTimeConstraint newConstraint =>
      some { s with
        timeConstraintCollisionFreq := newConstraint
        horizons := s.horizons ++ [newConstraint] }
  | .check reads => s.checkStep reads
  | .send ok => s.sendStep ok
  | .listener input =>
      match input with
      | .received (.message _) | .stop => none
      | .attach _ | .received .error | .received .pulse =>
          (s.listener.step input).map fun listener => { s with listener := listener }
  | .render =>
      if s.rendering then
        some { s with
          rendering := false
          frames := s.frames ++ [⟨s.surveillance.display.planes, s.surveillance.display.timestamp,
            s.listener.collisionWarnings⟩] }
      else none

/-! ## What one step can do -/

inductive Step (s : AirPicture) : Label → AirPicture → Prop where
  | surveillance (label : Surveillance.Label) (next : Surveillance) (may : s.May label)
      (moves : s.surveillance.step label = some next) :
      Step s (.surveillance label) (s.settle label next)
  | tick : Step s .tick { s with tickCounter := s.tickCounter + 1, ticks := s.ticks + 1 }
  | change (newConstraint : Int32) :
      Step s (.changeTimeConstraint newConstraint)
        { s with
          timeConstraintCollisionFreq := newConstraint
          horizons := s.horizons ++ [newConstraint] }
  | check (reads : List Int32) (pairs : List (Int32 × Int32)) (used : Nat)
      (msg : MessageInterProcess) (busy : s.duty = .checking) (old : s.InForce reads)
      (found : collisionPairsReading (fun k => reads.getD k s.timeConstraintCollisionFreq)
        s.surveillance.monitor.planes 0 = .ok (pairs, used))
      (encoded : alertMessage pairs = .ok msg) :
      Step s (.check reads) { s with
        duty := .sending msg
        checks := s.checks ++ [⟨s.horizons, s.surveillance.monitor.planes, pairs⟩] }
  | sent (msg : MessageInterProcess) (listener : CollisionListener) (busy : s.duty = .sending msg)
      (taken : s.listener.step (.received (.message msg)) = some listener) :
      Step s (.send true) { s with duty := .idle, listener := listener }
  | dropped (msg : MessageInterProcess) (busy : s.duty = .sending msg) :
      Step s (.send false) { s with duty := .idle }
  | listener (input : ListenerInput) (listener : CollisionListener)
      (noAlert : ∀ msg, input ≠ .received (.message msg))
      (moves : s.listener.step input = some listener) :
      Step s (.listener input) { s with listener := listener }
  | render (busy : s.rendering = true) :
      Step s .render { s with
        rendering := false
        frames := s.frames ++ [⟨s.surveillance.display.planes, s.surveillance.display.timestamp,
          s.listener.collisionWarnings⟩] }

theorem checkStep_spec {s s' : AirPicture} {reads : List Int32} (h : s.checkStep reads = some s') :
    Step s (.check reads) s' := by
  unfold checkStep at h
  split at h
  · rename_i busy
    split at h
    · rename_i old
      split at h
      · cases h
      · rename_i pairs used found
        split at h
        · cases h
        · rename_i msg encoded
          cases h
          exact .check reads pairs used msg busy old found encoded
    · cases h
  · cases h

theorem sendStep_spec {s s' : AirPicture} {ok : Bool} (h : s.sendStep ok = some s') :
    Step s (.send ok) s' := by
  unfold sendStep at h
  split at h
  · rename_i msg busy
    cases ok with
    | true =>
        obtain ⟨listener, taken, rfl⟩ := Option.map_eq_some_iff.mp h
        exact .sent msg listener busy taken
    | false =>
        cases h
        exact .dropped msg busy
  · cases h

theorem step_spec {s s' : AirPicture} {label : Label} (h : s.step label = some s') :
    Step s label s' := by
  cases label with
  | surveillance label =>
      simp only [step] at h
      split at h
      · rename_i may
        obtain ⟨next, moves, rfl⟩ := Option.map_eq_some_iff.mp h
        exact .surveillance label next may moves
      · cases h
  | tick => cases h; exact .tick
  | changeTimeConstraint newConstraint => cases h; exact .change newConstraint
  | check reads => exact checkStep_spec h
  | send ok => exact sendStep_spec h
  | listener input =>
      simp only [step] at h
      split at h
      · cases h
      · cases h
      all_goals
        obtain ⟨listener, moves, rfl⟩ := Option.map_eq_some_iff.mp h
        exact .listener _ listener (by intro msg same; cases same) moves
  | render =>
      simp only [step] at h
      split at h
      · rename_i busy
        cases h
        exact .render busy
      · cases h

/-! ## The parts a step leaves alone -/

@[simp] theorem settle_surveillance (s : AirPicture) (label : Surveillance.Label)
    (next : Surveillance) : (s.settle label next).surveillance = next := by
  unfold settle
  split
  · split <;> rfl
  · rfl
  · rfl

@[simp] theorem settle_collisionWarnings (s : AirPicture) (label : Surveillance.Label)
    (next : Surveillance) :
    (s.settle label next).listener.collisionWarnings = s.listener.collisionWarnings := by
  unfold settle
  split
  · split <;> rfl
  · rfl
  · rfl

/-- A poll makes the monitor busy, and nothing is forgotten. -/
theorem settle_history (s : AirPicture) (label : Surveillance.Label) (next : Surveillance) :
    (s.settle label next).checks = s.checks ∧ (s.settle label next).frames = s.frames ∧
      (s.settle label next).ticks = s.ticks ∧
      (s.settle label next).tickCounter = s.tickCounter ∧
      (s.settle label next).timeConstraintCollisionFreq = s.timeConstraintCollisionFreq := by
  unfold settle
  split
  · split <;> exact ⟨rfl, rfl, rfl, rfl, rfl⟩
  · exact ⟨rfl, rfl, rfl, rfl, rfl⟩
  · exact ⟨rfl, rfl, rfl, rfl, rfl⟩

theorem settle_duty (s : AirPicture) (label : Surveillance.Label) (next : Surveillance) :
    ((s.settle label next).duty = s.duty ∧ (s.settle label next).horizons = s.horizons) ∨
      ((∃ l, label = .monitor l) ∧ (s.settle label next).duty = .checking ∧
        (s.settle label next).horizons = [s.timeConstraintCollisionFreq]) := by
  unfold settle
  split
  · split
    · exact .inr ⟨⟨_, rfl⟩, rfl, rfl⟩
    · exact .inl ⟨rfl, rfl⟩
  · exact .inl ⟨rfl, rfl⟩
  · exact .inl ⟨rfl, rfl⟩

/-- The Display's readers and the monitor's alerts leave the traffic alone. -/
theorem step_surveillance {s s' : AirPicture} {label : Label} (h : s.step label = some s') :
    s'.surveillance = s.surveillance ∨ ∃ l, s.surveillance.step l = some s'.surveillance := by
  cases step_spec h with
  | surveillance l next may moves =>
      rw [settle_surveillance]
      exact .inr ⟨l, moves⟩
  | tick | change newConstraint | check reads pairs used msg busy old found encoded
  | sent msg listener busy taken | dropped msg busy | listener input listener noAlert moves
  | render busy => exact .inl rfl

theorem surveillance_run {planeData : List PlaneData} {labels : List Label} {s : AirPicture}
    (h : Machine.run step (start planeData) labels = some s) :
    ∃ ls, Machine.run Surveillance.step (.start planeData) ls = some s.surveillance := by
  refine Machine.run_invariant (P := fun s =>
    ∃ ls, Machine.run Surveillance.step (.start planeData) ls = some s.surveillance) ?_ ⟨[], rfl⟩ h
  intro m label n before last
  obtain ⟨ls, sofar⟩ := before
  rcases step_surveillance last with same | ⟨l, next⟩
  · rw [same]
    exact ⟨ls, sofar⟩
  · exact ⟨ls ++ [l], Machine.run_concat_eq_some.mpr ⟨m.surveillance, sofar, next⟩⟩

end AirPicture

end QnxAtc
