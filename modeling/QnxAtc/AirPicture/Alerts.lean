import QnxAtc.AirPicture.System
import QnxAtc.Library.Bulletin

/-! # The alerts on the screen

Between a check and the screen lie a message that may be dropped, a copy into bytes and
back, and a listener that knows the last alert only. The whole path refines a bulletin:
checks are produced, arrive or get lost, and every frame copies the board.
-/

namespace QnxAtc

open OrderedPairs

/-- What is shown for the check that arrived last. -/
def shownWarnings : Option Check → List String
  | none => []
  | some check => check.collisionPairs.map collisionWarning

/-- The pairs fit the message, come from records that were reported, and lie between those
of the shortest and of the longest horizon in force during the check. -/
structure Check.Sound (planeData : List PlaneData) (c : Check) : Prop where
  few : c.collisionPairs.length ≤ alertCapacity
  reported : ∀ info ∈ c.planes, Reported planeData info
  between : ∀ lo hi : Int32, (∀ T ∈ c.horizons, lo.toInt ≤ T.toInt ∧ T.toInt ≤ hi.toInt) →
    (predictedPairs lo c.planes).Sublist c.collisionPairs ∧
      c.collisionPairs.Sublist (predictedPairs hi c.planes)

/-- A horizon that was left alone during the check has exactly its own pairs found. -/
theorem Check.Sound.exact {planeData : List PlaneData} {c : Check} (h : c.Sound planeData)
    {T : Int32} (alone : ∀ T' ∈ c.horizons, T' = T) :
    c.collisionPairs = predictedPairs T c.planes := by
  obtain ⟨lower, upper⟩ := h.between T T fun T' member => by
    rw [alone T' member]
    exact ⟨le_rfl, le_rfl⟩
  exact upper.antisymm lower

/-- The two IDs of a pair are IDs of records of the snapshot. -/
theorem mem_predictedPairs {T : Int32} {planes : List MsgPlaneInfo} {pair : Int32 × Int32}
    (h : pair ∈ predictedPairs T planes) :
    (∃ info ∈ planes, info.id = pair.1) ∧ ∃ info ∈ planes, info.id = pair.2 := by
  obtain ⟨p, member, rfl⟩ := List.mem_map.mp h
  obtain ⟨first, second⟩ := mem_of_mem_orderedPairs (List.mem_filter.mp member).1
  exact ⟨⟨p.1, first, rfl⟩, p.2, second, rfl⟩

/-- Only aircraft of the file are warned about. -/
theorem Check.Sound.ids {planeData : List PlaneData} {c : Check} (h : c.Sound planeData) :
    ∀ pair ∈ c.collisionPairs, pair.1 ∈ planeData.map PlaneData.id ∧
      pair.2 ∈ planeData.map PlaneData.id := by
  intro pair member
  obtain ⟨-, upper⟩ := h.between (-2147483648) 2147483647 fun T _ =>
    ⟨T.le_toInt, Int.le_of_lt_add_one T.toInt_lt⟩
  obtain ⟨⟨info, here, first⟩, info', here', second⟩ := mem_predictedPairs (upper.subset member)
  rw [← first, ← second]
  exact ⟨(h.reported info here).2, (h.reported info' here').2⟩

/-- A message of pairs has room for them all. -/
theorem few_of_alertMessage {pairs : List (Int32 × Int32)} {msg : MessageInterProcess}
    (encoded : alertMessage pairs = .ok msg) : pairs.length ≤ alertCapacity := by
  by_contra many
  have overflows : ¬ (pairsBytes pairs).length ≤ dataCapacity := by
    rwa [pairsBytes_fit_iff]
  have some_ : pairs.isEmpty = false := by
    cases pairs with
    | nil => exact absurd (Nat.zero_le _) many
    | cons pair pairs => rfl
  simp only [alertMessage, some_, FixedArray.copyInto, if_neg overflows] at encoded
  cases encoded

namespace CollisionListener

theorem step_message {d d' : CollisionListener} {msg : MessageInterProcess}
    (taken : d.step (.received (.message msg)) = some d') :
    d' = { d with received := d.received ++ [msg] }.showAlert msg := by
  cases phase : d.phase with
  | receiving =>
      simp only [step, phase, Option.some.injEq] at taken
      exact taken.symm
  | attaching attempt | ended | crashed fault => simp [step, phase] at taken

/-- The listener turns an alert back into the warnings of its pairs. -/
theorem warnings_of_alert {d d' : CollisionListener} {pairs : List (Int32 × Int32)}
    {msg : MessageInterProcess} (encoded : alertMessage pairs = .ok msg)
    (taken : d.step (.received (.message msg)) = some d') :
    d'.collisionWarnings = pairs.map collisionWarning := by
  have few := few_of_alertMessage encoded
  obtain ⟨_, same, kind, -, -⟩ := alertMessage_of_fits ((pairsBytes_fit_iff pairs).mpr few)
  cases Except.ok.inj (encoded.symm.trans same)
  rw [step_message taken]
  simp only [showAlert, if_pos kind, receivedPairs_alertMessage encoded few,
    loopHead_collisionWarnings]

theorem warnings_of_other {d d' : CollisionListener} {input : ListenerInput}
    (noAlert : ∀ msg, input ≠ .received (.message msg)) (moves : d.step input = some d') :
    d'.collisionWarnings = d.collisionWarnings := by
  rcases step_cases moves with ⟨msg, here, _⟩ | ⟨warnings, -, -⟩
  · exact absurd here (noAlert msg)
  · exact warnings

end CollisionListener

namespace AirPicture

/-! ## Refinement -/

/-- The bulletin a state stands for. -/
structure Posts (s : AirPicture) (b : Bulletin Check) : Prop where
  produced : b.produced = s.checks
  onItsWay : ∀ msg, s.duty = .sending msg →
    ∃ c, b.pending = some c ∧ alertMessage c.collisionPairs = .ok msg
  none_ : (∀ msg, s.duty ≠ .sending msg) → b.pending = none
  board : s.listener.collisionWarnings = shownWarnings b.board
  copies : s.frames.map Frame.collisionWarnings = b.copies.map shownWarnings

theorem posts_step {s s' : AirPicture} {label : Label} {b : Bulletin Check} (h : s.Posts b)
    (hstep : s.step label = some s') :
    ∃ b', Machine.Reaches Bulletin.step b b' ∧ s'.Posts b' := by
  cases step_spec hstep with
  | surveillance l next may moves =>
      obtain ⟨checks, frames, -⟩ := s.settle_history l next
      refine ⟨b, .refl _ b, by rw [h.produced, checks], ?_, ?_, ?_, by rw [frames, h.copies]⟩
      · intro msg busy
        rcases s.settle_duty l next with ⟨same, _⟩ | ⟨_, checking, _⟩
        · exact h.onItsWay msg (same.symm.trans busy)
        · cases checking.symm.trans busy
      · intro free
        rcases s.settle_duty l next with ⟨same, _⟩ | ⟨⟨l', rfl⟩, _, _⟩
        · exact h.none_ fun msg busy => free msg (same.trans busy)
        · have idle : s.duty = .idle := may
          exact h.none_ fun msg busy => by cases idle.symm.trans busy
      · rw [settle_collisionWarnings, h.board]
  | tick | change newConstraint =>
      exact ⟨b, .refl _ b, ⟨h.produced, h.onItsWay, h.none_, h.board, h.copies⟩⟩
  | check reads pairs used msg busy old found encoded =>
      have free : b.pending = none := h.none_ fun msg sending => by cases busy.symm.trans sending
      let c : Check := ⟨s.horizons, s.surveillance.monitor.planes, pairs⟩
      have produces : Bulletin.step b (.produce c) =
          some { b with produced := b.produced ++ [c], pending := some c } := by
        rw [Bulletin.step, free]
      refine ⟨_, .head produces (.refl _ _), by rw [h.produced], ?_, ?_, h.board, h.copies⟩
      · intro msg' sending
        cases sending
        exact ⟨c, rfl, encoded⟩
      · intro free'
        exact absurd rfl (free' msg)
  | sent msg listener busy taken =>
      obtain ⟨c, waits, encoded⟩ := h.onItsWay msg busy
      have arrives : Bulletin.step b .arrive =
          some { b with pending := none, arrived := b.arrived ++ [c] } := by
        rw [Bulletin.step, waits]
      refine ⟨_, .head arrives (.refl _ _), h.produced, fun msg' sending => (by cases sending),
        fun _ => rfl, ?_, h.copies⟩
      rw [Bulletin.board, List.getLast?_concat]
      exact CollisionListener.warnings_of_alert encoded taken
  | dropped msg busy =>
      obtain ⟨c, waits, _⟩ := h.onItsWay msg busy
      have lost : Bulletin.step b .lose = some { b with pending := none } := by
        rw [Bulletin.step, waits]
      exact ⟨_, .head lost (.refl _ _), h.produced, fun msg' sending => (by cases sending),
        fun _ => rfl, h.board, h.copies⟩
  | listener input listener noAlert moves =>
      refine ⟨b, .refl _ b, h.produced, h.onItsWay, h.none_, ?_, h.copies⟩
      exact (CollisionListener.warnings_of_other noAlert moves).trans h.board
  | render busy =>
      have copied : Bulletin.step b .copy = some { b with copies := b.copies ++ [b.board] } := rfl
      refine ⟨_, .head copied (.refl _ _), h.produced, h.onItsWay, h.none_, h.board, ?_⟩
      rw [List.map_append, List.map_append, h.copies, List.map_singleton, List.map_singleton,
        h.board]

/-- Every run of the air picture is a run of the bulletin. -/
theorem posts_run {planeData : List PlaneData} {labels : List Label} {s : AirPicture}
    (h : Machine.run step (start planeData) labels = some s) :
    ∃ b, Machine.Reaches Bulletin.step Bulletin.start b ∧ s.Posts b :=
  Machine.Reaches.simulated (fun _ _ _ _ related next => posts_step related next)
    ⟨rfl, fun msg sending => (by cases sending), fun _ => rfl, rfl, rfl⟩ h

/-! ## The checks -/

structure CheckInvariant (planeData : List PlaneData) (s : AirPicture) : Prop where
  sound : ∀ c ∈ s.checks, c.Sound planeData
  current : s.timeConstraintCollisionFreq ∈ s.horizons

theorem checkInvariant_run {planeData : List PlaneData} {labels : List Label} {s : AirPicture}
    (h : Machine.run step (start planeData) labels = some s) : s.CheckInvariant planeData := by
  refine Machine.run_invariant_of_reached ⟨by simp [start], by simp [start]⟩ ?_ h
  intro labels m label n before inv last
  cases step_spec last with
  | surveillance l next may moves =>
      obtain ⟨checks, -, -, -, constraint⟩ := m.settle_history l next
      refine ⟨by rw [checks]; exact inv.sound, ?_⟩
      rw [constraint]
      rcases m.settle_duty l next with ⟨_, same⟩ | ⟨_, _, alone⟩
      · rw [same]
        exact inv.current
      · rw [alone]
        exact List.mem_singleton_self _
  | tick => exact ⟨inv.sound, inv.current⟩
  | change newConstraint => exact ⟨inv.sound, List.mem_append_right _ (List.mem_singleton_self _)⟩
  | check reads pairs used msg busy old found encoded =>
      refine ⟨?_, inv.current⟩
      intro c member
      rcases List.mem_append.mp member with earlier | new
      · exact inv.sound c earlier
      · rw [List.mem_singleton.mp new]
        obtain ⟨ls, flown⟩ := surveillance_run before
        refine ⟨few_of_alertMessage encoded, (Surveillance.seen_reported _ _ _ flown).monitor, ?_⟩
        intro lo hi bounds
        refine collisionPairsReading_sound (fun k => ?_) found
        rw [List.getD_eq_getElem?_getD]
        cases read : reads[k]? with
        | none => exact bounds _ inv.current
        | some T => exact bounds T (old T (List.mem_of_getElem? read))
  | sent msg listener busy taken | dropped msg busy | listener input listener noAlert moves
  | render busy => exact ⟨inv.sound, inv.current⟩

def meetingTraffic : List PlaneData :=
  [⟨0, 1, 50000, 50000, 20000, 100, 0, 0⟩, ⟨0, 2, 51000, 50000, 20000, -100, 0, 0⟩]

/-- Both enter, are published, and are polled by both readers. -/
def meetingSeen : List Surveillance.Label :=
  .atc (.radar .attach) :: Surveillance.enters 0 ++ Surveillance.enters 1 ++
    [.atc (.radar .updateLoop), .atc (.radar .pulse), .atc (.radar .testEmpty),
      .atc (.radar (.copy [1, 2])), .atc (.radar .nextPlane), .atc (.radar (.openChannel true)),
      .atc (.poll 0), .atc (.radar .nextPlane), .atc (.radar (.openChannel true)),
      .atc (.poll 1), .atc (.radar .nextPlane), .atc (.radar (.write 1)), .monitor .test,
      .monitor .poll, .display .test, .display .poll]

/-- The horizon changes before the check reads it, and the alert comes before the frame. -/
def watched : List Label :=
  [.listener (.attach true), .tick] ++ meetingSeen.map .surveillance ++
    [.changeTimeConstraint 60, .check [180], .send true, .render]

theorem exists_watched : ∃ s f, Machine.run step (start meetingTraffic) watched = some s ∧
    f ∈ s.frames ∧ f.collisionWarnings.length = 1 ∧ s.ticks < 2 ^ 64 := by
  obtain ⟨s, run, test⟩ := Machine.exists_of_map_run step (start meetingTraffic) watched
    (fun s => s.frames.any (fun f => f.collisionWarnings.length == 1) && decide (s.ticks = 1))
    (by with_unfolding_all rfl)
  simp only [Bool.and_eq_true, List.any_eq_true, beq_iff_eq, decide_eq_true_eq] at test
  obtain ⟨⟨f, member, one⟩, ticks⟩ := test
  exact ⟨s, f, run, member, one, by rw [ticks]; decide⟩

end AirPicture

end QnxAtc
