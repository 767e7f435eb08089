import QnxAtc.Computer.Alert

/-! # A horizon that changes during a check

The operator's thread writes `timeConstraintCollisionFreq` while the monitor's thread
is in its loops, which read the variable again at every second they try. The values
these reads return are a stream; what can be said of the outcome depends on their
bounds only.
-/

namespace QnxAtc

open OrderedPairs

/-! ## The loops over a stream of reads -/

/-- `lookAhead` when the test of each iteration takes the next value of the stream. -/
def lookAheadReading (reads : Nat → Int32) (plane1 plane2 : MsgPlaneInfo) :
    Nat → Nat → Nat → Except Fault (Bool × Nat)
  | 0, _, _ => .error .counterOverflow
  | left + 1, t, used =>
      if (t : Int) ≤ (reads used).toInt then
        if Conflict (plane1.future t) (plane2.future t) then .ok (true, used + 1)
        else lookAheadReading reads plane1 plane2 left (t + 1) (used + 1)
      else .ok (false, used + 1)

def checkAxesReading (reads : Nat → Int32) (plane1 plane2 : MsgPlaneInfo) (used : Nat) :
    Except Fault (Bool × Nat) :=
  if SameVelocity plane1 plane2 then .ok (decide (Conflict plane1 plane2), used)
  else lookAheadReading reads plane1 plane2 intValues 0 used

def collisionPairsWithReading (reads : Nat → Int32) (plane1 : MsgPlaneInfo) :
    List MsgPlaneInfo → Nat → Except Fault (List (Int32 × Int32) × Nat)
  | [], used => .ok ([], used)
  | plane2 :: planes, used => do
      let (hit, used) ← checkAxesReading reads plane1 plane2 used
      let (pairs, used) ← collisionPairsWithReading reads plane1 planes used
      return (if hit then (plane1.id, plane2.id) :: pairs else pairs, used)

def collisionPairsReading (reads : Nat → Int32) :
    List MsgPlaneInfo → Nat → Except Fault (List (Int32 × Int32) × Nat)
  | [], used => .ok ([], used)
  | plane :: planes, used => do
      let (first, used) ← collisionPairsWithReading reads plane planes used
      let (rest, used) ← collisionPairsReading reads planes used
      return (first ++ rest, used)

/-! ## A horizon left alone -/

theorem Except.map_bind {ε α β γ : Type} (x : Except ε α) (f : α → Except ε β) (g : β → γ) :
    (x >>= f).map g = x >>= fun a => (f a).map g := by
  cases x <;> rfl

theorem Except.bind_of_map {ε α β γ : Type} {x : Except ε α} {y : Except ε β} {g : α → β}
    (same : x.map g = y) (f : β → Except ε γ) : (x >>= fun a => f (g a)) = y >>= f := by
  subst same
  cases x <;> rfl

theorem lookAheadReading_const (T : Int32) (plane1 plane2 : MsgPlaneInfo) (left t used : Nat) :
    (lookAheadReading (fun _ => T) plane1 plane2 left t used).map Prod.fst =
      lookAhead T plane1 plane2 left t := by
  induction left generalizing t used with
  | zero => rfl
  | succ left ih =>
      unfold lookAheadReading lookAhead
      split
      · split
        · rfl
        · exact ih (t + 1) (used + 1)
      · rfl

theorem checkAxesReading_const (T : Int32) (plane1 plane2 : MsgPlaneInfo) (used : Nat) :
    (checkAxesReading (fun _ => T) plane1 plane2 used).map Prod.fst =
      checkAxes T plane1 plane2 := by
  unfold checkAxesReading checkAxes
  split
  · rfl
  · exact lookAheadReading_const T plane1 plane2 intValues 0 used

theorem collisionPairsWithReading_const (T : Int32) (plane1 : MsgPlaneInfo)
    (planes : List MsgPlaneInfo) (used : Nat) :
    (collisionPairsWithReading (fun _ => T) plane1 planes used).map Prod.fst =
      collisionPairsWith T plane1 planes := by
  induction planes generalizing used with
  | nil => rfl
  | cons plane2 planes ih =>
      have test := checkAxesReading_const T plane1 plane2 used
      rw [collisionPairsWithReading, collisionPairsWith, Except.map_bind,
        ← Except.bind_of_map test]
      congr 1
      funext answer
      rw [Except.map_bind, ← Except.bind_of_map (ih answer.2)]
      rfl

/-- With nobody writing, the check is the one that reads the horizon once. -/
theorem collisionPairsReading_const (T : Int32) (planes : List MsgPlaneInfo) (used : Nat) :
    (collisionPairsReading (fun _ => T) planes used).map Prod.fst = collisionPairs T planes := by
  induction planes generalizing used with
  | nil => rfl
  | cons plane planes ih =>
      have inner := collisionPairsWithReading_const T plane planes used
      rw [collisionPairsReading, collisionPairs, Except.map_bind, ← Except.bind_of_map inner]
      congr 1
      funext first
      rw [Except.map_bind, ← Except.bind_of_map (ih first.2)]
      rfl

/-! ## One look-ahead -/

/-- Every value read lies between two horizons. -/
def ReadsBetween (lo hi : Int32) (reads : Nat → Int32) : Prop :=
  ∀ k, lo.toInt ≤ (reads k).toInt ∧ (reads k).toInt ≤ hi.toInt

theorem predictedPairs_cons (T : Int32) (plane : MsgPlaneInfo) (planes : List MsgPlaneInfo) :
    predictedPairs T (plane :: planes) =
      ((planes.filter fun plane2 => PredictedConflict T plane plane2).map
        fun plane2 => (plane.id, plane2.id)) ++ predictedPairs T planes := by
  simp only [predictedPairs, orderedPairs_cons, List.filter_append, List.map_append,
    List.filter_map, List.map_map]
  rfl

section Between

variable {lo hi : Int32} {reads : Nat → Int32} (between : ReadsBetween lo hi reads)

include between

/-- A `true` is a conflict the longest horizon covers, a `false` leaves none that the
shortest one covers. -/
theorem lookAheadReading_sound {plane1 plane2 : MsgPlaneInfo} {left t used used' : Nat}
    {hit : Bool} (h : lookAheadReading reads plane1 plane2 left t used = .ok (hit, used')) :
    (hit = true → ∃ k : Nat, t ≤ k ∧ (k : Int) ≤ hi.toInt ∧
        Conflict (plane1.future k) (plane2.future k)) ∧
      (hit = false → ∀ k : Nat, t ≤ k → (k : Int) ≤ lo.toInt →
        ¬ Conflict (plane1.future k) (plane2.future k)) := by
  induction left generalizing t used with
  | zero => cases h
  | succ left ih =>
      obtain ⟨low, high⟩ := between used
      unfold lookAheadReading at h
      split at h
      · rename_i le
        split at h
        · rename_i meets
          cases h
          exact ⟨fun _ => ⟨t, le_rfl, le_trans le high, meets⟩, nofun⟩
        · rename_i miss
          obtain ⟨some_, none_⟩ := ih h
          constructor
          · intro found
            obtain ⟨k, hk, rest⟩ := some_ found
            exact ⟨k, by omega, rest⟩
          · intro missed k hk hle
            by_cases now : k = t
            · rw [now]
              exact miss
            · exact none_ missed k (by omega) hle
      · rename_i beyond
        cases h
        refine ⟨nofun, ?_⟩
        intro _ k hk hle
        omega

/-- The counter stops in time when the longest horizon is not the largest `int`. -/
theorem lookAheadReading_ends (ends : hi.toInt + 1 < intValues) (plane1 plane2 : MsgPlaneInfo)
    {left t : Nat} (used : Nat) (count : left + t = intValues)
    (reached : (t : Int) ≤ hi.toInt + 1 ∨ t = 0) :
    ∃ answer, lookAheadReading reads plane1 plane2 left t used = .ok answer := by
  induction left generalizing t used with
  | zero =>
      have none_left : 0 < intValues := by decide
      omega
  | succ left ih =>
      obtain ⟨low, high⟩ := between used
      unfold lookAheadReading
      split
      · split
        · exact ⟨_, rfl⟩
        · exact ih (used + 1) (by omega) (.inl (by omega))
      · exact ⟨_, rfl⟩

theorem checkAxesReading_sound {plane1 plane2 : MsgPlaneInfo} {used used' : Nat} {hit : Bool}
    (h : checkAxesReading reads plane1 plane2 used = .ok (hit, used')) :
    (PredictedConflict lo plane1 plane2 → hit = true) ∧
      (hit = true → PredictedConflict hi plane1 plane2) := by
  unfold checkAxesReading at h
  unfold PredictedConflict
  by_cases same : SameVelocity plane1 plane2
  · rw [if_pos same] at h
    cases h
    simp only [if_pos same, decide_eq_true_eq]
    exact ⟨id, id⟩
  · rw [if_neg same] at h
    simp only [if_neg same]
    obtain ⟨some_, none_⟩ := lookAheadReading_sound between h
    constructor
    · rintro ⟨k, hk, meets⟩
      by_contra missed
      exact none_ (Bool.eq_false_iff.mpr missed) k (Nat.zero_le k) hk meets
    · intro found
      obtain ⟨k, _, hk, meets⟩ := some_ found
      exact ⟨k, hk, meets⟩

theorem checkAxesReading_ends (ends : hi.toInt + 1 < intValues) (plane1 plane2 : MsgPlaneInfo)
    (used : Nat) : ∃ answer, checkAxesReading reads plane1 plane2 used = .ok answer := by
  unfold checkAxesReading
  split
  · exact ⟨_, rfl⟩
  · exact lookAheadReading_ends between ends plane1 plane2 used (add_zero intValues) (.inr rfl)

/-! ## The whole check -/

theorem collisionPairsWithReading_sound {plane1 : MsgPlaneInfo} {planes : List MsgPlaneInfo}
    {used used' : Nat} {pairs : List (Int32 × Int32)}
    (h : collisionPairsWithReading reads plane1 planes used = .ok (pairs, used')) :
    ((planes.filter fun plane2 => PredictedConflict lo plane1 plane2).map
        fun plane2 => (plane1.id, plane2.id)).Sublist pairs ∧
      pairs.Sublist ((planes.filter fun plane2 => PredictedConflict hi plane1 plane2).map
        fun plane2 => (plane1.id, plane2.id)) := by
  induction planes generalizing used pairs with
  | nil => cases h; exact ⟨.slnil, .slnil⟩
  | cons plane2 planes ih =>
      obtain ⟨⟨hit, used₁⟩, answer, h⟩ := Except.bind_eq_ok.mp h
      obtain ⟨⟨rest, used₂⟩, later, h⟩ := Except.bind_eq_ok.mp h
      cases h
      obtain ⟨least, most⟩ := checkAxesReading_sound between answer
      obtain ⟨lower, upper⟩ := ih later
      constructor
      · by_cases low : PredictedConflict lo plane1 plane2
        · rw [List.filter_cons_of_pos (by simpa using low), if_pos (least low)]
          exact lower.cons_cons _
        · rw [List.filter_cons_of_neg (by simpa using low)]
          split
          · exact lower.cons _
          · exact lower
      · by_cases high : PredictedConflict hi plane1 plane2
        · rw [List.filter_cons_of_pos (by simpa using high)]
          split
          · exact upper.cons_cons _
          · exact upper.cons _
        · rw [List.filter_cons_of_neg (by simpa using high), if_neg fun found => high (most found)]
          exact upper

theorem collisionPairsReading_sound {planes : List MsgPlaneInfo} {used used' : Nat}
    {pairs : List (Int32 × Int32)} (h : collisionPairsReading reads planes used = .ok (pairs, used')) :
    (predictedPairs lo planes).Sublist pairs ∧ pairs.Sublist (predictedPairs hi planes) := by
  induction planes generalizing used pairs with
  | nil => cases h; exact ⟨.slnil, .slnil⟩
  | cons plane planes ih =>
      obtain ⟨⟨first, used₁⟩, inner, h⟩ := Except.bind_eq_ok.mp h
      obtain ⟨⟨rest, used₂⟩, outer, h⟩ := Except.bind_eq_ok.mp h
      cases h
      obtain ⟨lower₁, upper₁⟩ := collisionPairsWithReading_sound between inner
      obtain ⟨lower₂, upper₂⟩ := ih outer
      rw [predictedPairs_cons, predictedPairs_cons]
      exact ⟨lower₁.append lower₂, upper₁.append upper₂⟩

theorem collisionPairsWithReading_ends (ends : hi.toInt + 1 < intValues) (plane1 : MsgPlaneInfo)
    (planes : List MsgPlaneInfo) (used : Nat) :
    ∃ answer, collisionPairsWithReading reads plane1 planes used = .ok answer := by
  induction planes generalizing used with
  | nil => exact ⟨_, rfl⟩
  | cons plane2 planes ih =>
      obtain ⟨hit, answer⟩ := checkAxesReading_ends between ends plane1 plane2 used
      obtain ⟨pairs, rest⟩ := ih hit.2
      exact ⟨_, Except.bind_eq_ok.mpr ⟨hit, answer, Except.bind_eq_ok.mpr ⟨pairs, rest, rfl⟩⟩⟩

theorem collisionPairsReading_ends (ends : hi.toInt + 1 < intValues) (planes : List MsgPlaneInfo)
    (used : Nat) : ∃ answer, collisionPairsReading reads planes used = .ok answer := by
  induction planes generalizing used with
  | nil => exact ⟨_, rfl⟩
  | cons plane planes ih =>
      obtain ⟨first, inner⟩ := collisionPairsWithReading_ends between ends plane planes used
      obtain ⟨rest, outer⟩ := ih first.2
      exact ⟨_, Except.bind_eq_ok.mpr ⟨first, inner, Except.bind_eq_ok.mpr ⟨rest, outer, rfl⟩⟩⟩

end Between

end QnxAtc
