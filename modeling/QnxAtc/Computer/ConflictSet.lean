import QnxAtc.Computer.Horizon

/-! # The set of reported pairs

Radar fills a snapshot in no particular order. The two index loops visit every pair of
records once and the test of a pair does not look at which one comes first, so the
unordered pairs found are those of the set of records.
-/

namespace QnxAtc

open OrderedPairs

/-! ## The test does not depend on the order of the two planes -/

theorem sameSpeed_comm {speed1 speed2 : ℚ} : sameSpeed speed1 speed2 ↔ sameSpeed speed2 speed1 := by
  unfold sameSpeed
  rw [abs_sub_comm]

theorem sameVelocity_comm {plane1 plane2 : MsgPlaneInfo} :
    SameVelocity plane1 plane2 ↔ SameVelocity plane2 plane1 :=
  and_congr sameSpeed_comm (and_congr sameSpeed_comm sameSpeed_comm)

theorem conflict_comm {plane1 plane2 : MsgPlaneInfo} :
    Conflict plane1 plane2 ↔ Conflict plane2 plane1 := by
  unfold Conflict
  rw [abs_sub_comm plane1.positionX, abs_sub_comm plane1.positionY, abs_sub_comm plane1.positionZ]

theorem predictedConflict_comm {T : Int32} {plane1 plane2 : MsgPlaneInfo} :
    PredictedConflict T plane1 plane2 ↔ PredictedConflict T plane2 plane1 := by
  unfold PredictedConflict
  by_cases same : SameVelocity plane1 plane2
  · rw [if_pos same, if_pos (sameVelocity_comm.mp same)]
    exact conflict_comm
  · rw [if_neg same, if_neg fun h => same (sameVelocity_comm.mp h)]
    exact exists_congr fun _ => and_congr_right fun _ => conflict_comm

theorem endless_comm {T : Int32} {plane1 plane2 : MsgPlaneInfo} :
    Endless T plane1 plane2 ↔ Endless T plane2 plane1 := by
  unfold Endless
  rw [sameVelocity_comm, predictedConflict_comm]

/-! ## The set of pairs -/

def unordered (pairs : List (Int32 × Int32)) : List (Sym2 Int32) :=
  pairs.map fun pair => s(pair.1, pair.2)

/-- The unordered pair of IDs of two records that are predicted to meet. -/
def predictedEdge (T : Int32) (p : MsgPlaneInfo × MsgPlaneInfo) : Option (Sym2 Int32) :=
  if PredictedConflict T p.1 p.2 then some s(p.1.id, p.2.id) else none

theorem predictedEdge_comm (T : Int32) (plane1 plane2 : MsgPlaneInfo) :
    predictedEdge T (plane1, plane2) = predictedEdge T (plane2, plane1) := by
  have meets : PredictedConflict T plane1 plane2 ↔ PredictedConflict T plane2 plane1 :=
    predictedConflict_comm
  simp only [predictedEdge, meets, Sym2.eq_swap]

theorem unordered_predictedPairs (T : Int32) (planes : List MsgPlaneInfo) :
    unordered (predictedPairs T planes) = (orderedPairs planes).filterMap (predictedEdge T) := by
  unfold unordered predictedPairs
  induction orderedPairs planes with
  | nil => rfl
  | cons p ps ih =>
      by_cases meets : PredictedConflict T p.1 p.2
      · have edge : predictedEdge T p = some s(p.1.id, p.2.id) := if_pos meets
        rw [List.filter_cons_of_pos (by simpa using meets), List.filterMap_cons_some edge, ← ih]
        rfl
      · have edge : predictedEdge T p = none := if_neg meets
        rw [List.filter_cons_of_neg (by simpa using meets), List.filterMap_cons_none edge, ← ih]

/-- Every look-ahead over the snapshot ends. -/
def AllEnd (T : Int32) (planes : List MsgPlaneInfo) : Prop :=
  ∀ p ∈ orderedPairs planes, ¬ Endless T p.1 p.2

theorem AllEnd.perm {T : Int32} {planes planes' : List MsgPlaneInfo}
    (perm : planes.Perm planes') (finite : AllEnd T planes) : AllEnd T planes' := by
  unfold AllEnd at finite ⊢
  rw [forall_orderedPairs_iff (R := fun p q => ¬ Endless T p q)] at finite ⊢
  exact perm.pairwise finite fun h endless => h (endless_comm.mp endless)

/-- The alert names this pair of planes. -/
def Found (T : Int32) (planes : List MsgPlaneInfo) (e : Sym2 Int32) : Prop :=
  ∃ pairs, collisionPairs T planes = .ok pairs ∧ e ∈ unordered pairs

theorem found_iff {T : Int32} {planes : List MsgPlaneInfo} {e : Sym2 Int32} :
    Found T planes e ↔ AllEnd T planes ∧ e ∈ unordered (predictedPairs T planes) := by
  unfold Found
  constructor
  · rintro ⟨pairs, found, listed⟩
    obtain ⟨finite, rfl⟩ := collisionPairs_eq_ok.mp found
    exact ⟨finite, listed⟩
  · rintro ⟨finite, listed⟩
    exact ⟨_, collisionPairs_eq_ok.mpr ⟨finite, rfl⟩, listed⟩

theorem mem_unordered_predictedPairs {T : Int32} {planes : List MsgPlaneInfo} {e : Sym2 Int32} :
    e ∈ unordered (predictedPairs T planes) ↔
      ∃ p ∈ orderedPairs planes, PredictedConflict T p.1 p.2 ∧ s(p.1.id, p.2.id) = e := by
  simp only [unordered_predictedPairs, List.mem_filterMap, predictedEdge,
    Option.ite_none_right_eq_some, Option.some.injEq]

/-! ## Reordering -/

/-- However the records are ordered, the same unordered pairs are found, none of them
twice and none of a plane with itself. -/
def OrderFree (T : Int32) (planes : List MsgPlaneInfo) : Prop :=
  ∀ planes', planes.Perm planes' →
    (∀ e, Found T planes' e ↔ Found T planes e) ∧
    ∀ pairs, collisionPairs T planes' = .ok pairs →
      (unordered pairs).Nodup ∧ ∀ e ∈ unordered pairs, ¬ e.IsDiag

theorem found_of_perm {T : Int32} {planes planes' : List MsgPlaneInfo}
    (perm : planes.Perm planes') {e : Sym2 Int32} (found : Found T planes e) :
    Found T planes' e := by
  rw [found_iff, unordered_predictedPairs] at found ⊢
  have same := perm_filterMap_orderedPairs (predictedEdge_comm T) perm
  exact ⟨found.1.perm perm, same.mem_iff.mp found.2⟩

theorem unordered_predictedPairs_nodup {T : Int32} {planes : List MsgPlaneInfo}
    (distinct : (planes.map (·.id)).Nodup) : (unordered (predictedPairs T planes)).Nodup := by
  have once := nodup_map_sym2_orderedPairs distinct
  unfold unordered predictedPairs
  rw [List.map_map]
  exact once.sublist (List.filter_sublist.map _)

theorem not_isDiag_of_mem {T : Int32} {planes : List MsgPlaneInfo}
    (distinct : (planes.map (·.id)).Nodup) {e : Sym2 Int32}
    (listed : e ∈ unordered (predictedPairs T planes)) : ¬ e.IsDiag := by
  obtain ⟨p, visited, _, rfl⟩ := mem_unordered_predictedPairs.mp listed
  have apart : planes.Pairwise fun p q => p.id ≠ q.id := List.pairwise_map.mp distinct
  exact Sym2.mk_isDiag_iff.not.mpr (forall_orderedPairs_iff.mpr apart p visited)

theorem orderFree (T : Int32) {planes : List MsgPlaneInfo}
    (distinct : (planes.map (·.id)).Nodup) : OrderFree T planes := by
  intro planes' perm
  refine ⟨fun e => ⟨found_of_perm perm.symm, found_of_perm perm⟩, ?_⟩
  intro pairs found
  obtain ⟨_, rfl⟩ := collisionPairs_eq_ok.mp found
  have distinct' : (planes'.map (·.id)).Nodup := (perm.map _).nodup_iff.mp distinct
  exact ⟨unordered_predictedPairs_nodup distinct', fun e => not_isDiag_of_mem distinct'⟩

/-! ## Longer horizons -/

def GrowsWithHorizon (T1 T2 : Int32) (planes : List MsgPlaneInfo) : Prop :=
  ∀ e, Found T1 planes e → Found T2 planes e

theorem PredictedConflict.mono {T1 T2 : Int32} {plane1 plane2 : MsgPlaneInfo}
    (hT : T1.toInt ≤ T2.toInt) (meets : PredictedConflict T1 plane1 plane2) :
    PredictedConflict T2 plane1 plane2 := by
  unfold PredictedConflict at meets ⊢
  split
  · rename_i same
    rwa [if_pos same] at meets
  · rename_i differ
    rw [if_neg differ] at meets
    obtain ⟨k, hk, hit⟩ := meets
    exact ⟨k, hk.trans hT, hit⟩

theorem growsWithHorizon_of_allEnd {T1 T2 : Int32} {planes : List MsgPlaneInfo}
    (hT : T1.toInt ≤ T2.toInt) (finite : AllEnd T2 planes) : GrowsWithHorizon T1 T2 planes := by
  intro e found
  obtain ⟨p, visited, meets, ids⟩ := mem_unordered_predictedPairs.mp (found_iff.mp found).2
  exact found_iff.mpr ⟨finite, mem_unordered_predictedPairs.mpr ⟨p, visited, meets.mono hT, ids⟩⟩

/-- Below the largest `int` every look-ahead ends. -/
theorem allEnd_of_lt {T1 T2 : Int32} (hT : T1.toInt < T2.toInt) (planes : List MsgPlaneInfo) :
    AllEnd T1 planes := by
  intro p _ endless
  have largest := endless.1
  have bound := Int32.toInt_lt_intValues T2
  omega

/-- With the longer horizon nothing is lost exactly when every look-ahead over it ends, or
it is not longer, or the shorter one finds nothing. -/
theorem growsWithHorizon_iff {T1 T2 : Int32} (hT : T1.toInt ≤ T2.toInt)
    (planes : List MsgPlaneInfo) :
    GrowsWithHorizon T1 T2 planes ↔
      AllEnd T2 planes ∨ T1 = T2 ∨ ∀ p ∈ orderedPairs planes, ¬ PredictedConflict T1 p.1 p.2 := by
  constructor
  · intro grows
    by_cases equal : T1 = T2
    · exact .inr (.inl equal)
    · have longer : T1.toInt < T2.toInt :=
        lt_of_le_of_ne hT fun h => equal (Int32.toInt_inj.mp h)
      by_cases finds : ∃ p ∈ orderedPairs planes, PredictedConflict T1 p.1 p.2
      · obtain ⟨p, visited, meets⟩ := finds
        have found : Found T1 planes s(p.1.id, p.2.id) := found_iff.mpr
          ⟨allEnd_of_lt longer planes, mem_unordered_predictedPairs.mpr ⟨p, visited, meets, rfl⟩⟩
        exact .inl (found_iff.mp (grows _ found)).1
      · refine .inr (.inr ?_)
        intro p visited meets
        exact finds ⟨p, visited, meets⟩
  · rintro (finite | rfl | nothing)
    · exact growsWithHorizon_of_allEnd hT finite
    · exact fun e found => found
    · intro e found
      obtain ⟨p, visited, meets, _⟩ := mem_unordered_predictedPairs.mp (found_iff.mp found).2
      exact absurd meets (nothing p visited)

/-- Two planes in one place, and one that flies apart from the first. -/
def partingSnapshot : List MsgPlaneInfo :=
  [⟨1, 10000, 50000, 20000, -100, 0, 0⟩, ⟨3, 10000, 50000, 20000, -100, 0, 0⟩,
    ⟨2, 90000, 50000, 20000, 100, 0, 0⟩]

end QnxAtc
