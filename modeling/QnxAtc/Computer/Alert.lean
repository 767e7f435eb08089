import QnxAtc.Computer.CheckAxes
import QnxAtc.Library.OrderedPairs

/-! # The collision alert

`checkCollision` of `ComputerSystem.cpp` collects the predicted pairs of a snapshot and
copies them into the fixed array of the message it sends to the Display. Nothing
bounds the number of pairs, so the copy leaves the array from 129 pairs on.
-/

namespace QnxAtc

open FixedArray OrderedPairs

/-- The inner loop: the planes after `plane1` it is predicted to meet. -/
def collisionPairsWith (T : Int32) (plane1 : MsgPlaneInfo) :
    List MsgPlaneInfo → Except Fault (List (Int32 × Int32))
  | [] => .ok []
  | plane2 :: planes => do
      let hit ← checkAxes T plane1 plane2
      let pairs ← collisionPairsWith T plane1 planes
      return if hit then (plane1.id, plane2.id) :: pairs else pairs

/-- Both loops: every predicted pair, in the order the loops find them. -/
def collisionPairs (T : Int32) : List MsgPlaneInfo → Except Fault (List (Int32 × Int32))
  | [] => .ok []
  | plane :: planes => do
      let first ← collisionPairsWith T plane planes
      let rest ← collisionPairs T planes
      return first ++ rest

/-- The object representation of a `std::pair<int, int>`. -/
def pairBytes (pair : Int32 × Int32) : List Byte := intBytes pair.1 ++ intBytes pair.2

def pairsBytes (pairs : List (Int32 × Int32)) : List Byte := pairs.flatMap pairBytes

/-- The message to the Display, with what `checkCollision` fills in last. -/
def collisionMessage (data : Vector Byte dataCapacity) (dataSize : UInt64) :
    MessageInterProcess :=
  ⟨true, .collisionDetected, -1, data, dataSize⟩

/-- The alert for a snapshot; a `memcpy` that leaves the array has no result. -/
def checkCollision (T : Int32) (planes : List MsgPlaneInfo) :
    Except Fault MessageInterProcess := do
  let pairs ← collisionPairs T planes
  if pairs.isEmpty then return collisionMessage MessageInterProcess.zero.data 0
  else
    match copyInto MessageInterProcess.zero.data (pairsBytes pairs) with
    | none => throw .bufferOverflow
    | some data =>
        return collisionMessage data (UInt64.ofNat (pairs.length * sizeofPairIntInt))

/-- The part of `checkCollision` that follows the loops: the message for a pair list. -/
def alertMessage (pairs : List (Int32 × Int32)) : Except Fault MessageInterProcess :=
  if pairs.isEmpty then return collisionMessage MessageInterProcess.zero.data 0
  else
    match copyInto MessageInterProcess.zero.data (pairsBytes pairs) with
    | none => throw .bufferOverflow
    | some data =>
        return collisionMessage data (UInt64.ofNat (pairs.length * sizeofPairIntInt))

theorem checkCollision_eq (T : Int32) (planes : List MsgPlaneInfo) :
    checkCollision T planes = collisionPairs T planes >>= alertMessage := rfl

/-! ## The pairs -/

@[simp] theorem pairsBytes_length (pairs : List (Int32 × Int32)) :
    (pairsBytes pairs).length = pairs.length * sizeofPairIntInt := by
  induction pairs with
  | nil => rfl
  | cons pair pairs ih =>
      have head : (pairBytes pair).length = sizeofPairIntInt := by
        simp [pairBytes, sizeofPairIntInt]
      have split : pairsBytes (pair :: pairs) = pairBytes pair ++ pairsBytes pairs := rfl
      rw [split, List.length_append, head, ih, List.length_cons, Nat.succ_mul, Nat.add_comm]

theorem collisionPairsWith_eq_ok {T : Int32} {plane1 : MsgPlaneInfo} {planes : List MsgPlaneInfo}
    {pairs : List (Int32 × Int32)} :
    collisionPairsWith T plane1 planes = .ok pairs ↔
      (∀ plane2 ∈ planes, ¬ Endless T plane1 plane2) ∧
      pairs = (planes.filter fun plane2 => PredictedConflict T plane1 plane2).map
        fun plane2 => (plane1.id, plane2.id) := by
  induction planes generalizing pairs with
  | nil => simp [collisionPairsWith, eq_comm]
  | cons plane2 planes ih =>
      simp only [collisionPairsWith, Except.bind_eq_ok, checkAxes_eq_ok, ih, pure, Except.pure,
        Except.ok.injEq, List.forall_mem_cons]
      by_cases meets : PredictedConflict T plane1 plane2
      · rw [List.filter_cons_of_pos (by simpa using meets)]
        constructor
        · rintro ⟨hit, ⟨finite, hhit⟩, rest, ⟨later, rfl⟩, rfl⟩
          refine ⟨⟨finite, later⟩, ?_⟩
          rw [if_pos (hhit.mpr meets), List.map_cons]
        · rintro ⟨⟨finite, later⟩, rfl⟩
          exact ⟨true, ⟨finite, by simp [meets]⟩, _, ⟨later, rfl⟩, rfl⟩
      · rw [List.filter_cons_of_neg (by simpa using meets)]
        constructor
        · rintro ⟨hit, ⟨finite, hhit⟩, rest, ⟨later, rfl⟩, rfl⟩
          refine ⟨⟨finite, later⟩, ?_⟩
          rw [if_neg (fun h => meets (hhit.mp h))]
        · rintro ⟨⟨finite, later⟩, rfl⟩
          exact ⟨false, ⟨finite, by simp [meets]⟩, _, ⟨later, rfl⟩, rfl⟩

/-- The IDs of the pairs that are predicted to meet. -/
def predictedPairs (T : Int32) (planes : List MsgPlaneInfo) : List (Int32 × Int32) :=
  ((orderedPairs planes).filter fun p => PredictedConflict T p.1 p.2).map
    fun p => (p.1.id, p.2.id)

theorem predictedPairs_length (T : Int32) (planes : List MsgPlaneInfo) :
    (predictedPairs T planes).length =
      (orderedPairs planes).countP fun p => PredictedConflict T p.1 p.2 := by
  rw [predictedPairs, List.length_map, List.countP_eq_length_filter]

/-- The two loops find the predicted ones among all pairs, unless a look-ahead never ends. -/
theorem collisionPairs_eq_ok {T : Int32} {planes : List MsgPlaneInfo}
    {pairs : List (Int32 × Int32)} :
    collisionPairs T planes = .ok pairs ↔
      (∀ p ∈ orderedPairs planes, ¬ Endless T p.1 p.2) ∧ pairs = predictedPairs T planes := by
  unfold predictedPairs
  induction planes generalizing pairs with
  | nil => simp [collisionPairs, eq_comm]
  | cons plane planes ih =>
      simp only [collisionPairs, Except.bind_eq_ok, collisionPairsWith_eq_ok, ih, pure,
        Except.pure, Except.ok.injEq, orderedPairs_cons, List.forall_mem_append,
        List.forall_mem_map, List.filter_append, List.map_append, List.filter_map, List.map_map]
      constructor
      · rintro ⟨first, ⟨finite, rfl⟩, rest, ⟨later, rfl⟩, rfl⟩
        exact ⟨⟨finite, later⟩, rfl⟩
      · rintro ⟨⟨finite, later⟩, rfl⟩
        exact ⟨_, ⟨finite, rfl⟩, _, ⟨later, rfl⟩, rfl⟩

/-! ## The copy -/

/-- Whenever the loops produce a pair list, it is copied within the array and the message
says how many of its bytes are meaningful. -/
def AlertFits (T : Int32) (planes : List MsgPlaneInfo) : Prop :=
  ∀ pairs, collisionPairs T planes = .ok pairs →
    (pairsBytes pairs).length ≤ dataCapacity ∧
    ∃ msg, checkCollision T planes = .ok msg ∧
      msg.dataSize.toNat = (pairsBytes pairs).length ∧
      msg.data.toList.take msg.dataSize.toNat = pairsBytes pairs

/-- The number of pairs the array has room for. -/
def alertCapacity : Nat := 128

/-- The bytes of a pair list that fits are the meaningful ones of its message. -/
theorem alertMessage_of_fits {pairs : List (Int32 × Int32)}
    (fits : (pairsBytes pairs).length ≤ dataCapacity) :
    ∃ msg, alertMessage pairs = .ok msg ∧ msg.type = .collisionDetected ∧
      msg.dataSize.toNat = (pairsBytes pairs).length ∧
      msg.data.toList.take msg.dataSize.toNat = pairsBytes pairs := by
  cases pairs with
  | nil => exact ⟨_, rfl, rfl, rfl, rfl⟩
  | cons pair pairs =>
      have small : dataCapacity < UInt64.size := by decide
      have size : (UInt64.ofNat ((pair :: pairs).length * sizeofPairIntInt)).toNat =
          (pairsBytes (pair :: pairs)).length := by
        rw [pairsBytes_length] at fits ⊢
        exact UInt64.toNat_ofNat_of_lt' (by omega)
      have sent : alertMessage (pair :: pairs) =
          .ok (collisionMessage
            (overwrite MessageInterProcess.zero.data (pairsBytes (pair :: pairs)))
            (UInt64.ofNat ((pair :: pairs).length * sizeofPairIntInt))) := by
        simp only [alertMessage, List.isEmpty_cons, Bool.false_eq_true, if_false, copyInto,
          if_pos fits]
        rfl
      refine ⟨_, sent, rfl, size, ?_⟩
      simp only [collisionMessage, size]
      exact take_overwrite _ fits

theorem checkCollision_of_fits {T : Int32} {planes : List MsgPlaneInfo}
    {pairs : List (Int32 × Int32)} (found : collisionPairs T planes = .ok pairs)
    (fits : (pairsBytes pairs).length ≤ dataCapacity) :
    ∃ msg, checkCollision T planes = .ok msg ∧
      msg.dataSize.toNat = (pairsBytes pairs).length ∧
      msg.data.toList.take msg.dataSize.toNat = pairsBytes pairs := by
  obtain ⟨msg, sent, _, size, bytes⟩ := alertMessage_of_fits fits
  have composed : checkCollision T planes = .ok msg := by
    rw [checkCollision_eq, found]
    exact sent
  exact ⟨msg, composed, size, bytes⟩

theorem pairsBytes_fit_iff (pairs : List (Int32 × Int32)) :
    (pairsBytes pairs).length ≤ dataCapacity ↔ pairs.length ≤ alertCapacity := by
  simp only [pairsBytes_length, sizeofPairIntInt, dataCapacity, alertCapacity]
  omega

/-- When every look-ahead ends, the alert fits exactly when the predicted pairs are few. -/
theorem alertFits_iff_of_finite {T : Int32} {planes : List MsgPlaneInfo}
    (finite : ∀ p ∈ orderedPairs planes, ¬ Endless T p.1 p.2) :
    AlertFits T planes ↔
      (orderedPairs planes).countP (fun p => PredictedConflict T p.1 p.2) ≤ alertCapacity := by
  have found := collisionPairs_eq_ok.mpr ⟨finite, rfl⟩
  rw [← predictedPairs_length, ← pairsBytes_fit_iff]
  constructor
  · intro fits
    exact (fits _ found).1
  · intro fits pairs hpairs
    rw [found, Except.ok.injEq] at hpairs
    subst hpairs
    exact ⟨fits, checkCollision_of_fits found fits⟩

/-- Up to sixteen planes can never fill the array. -/
theorem alertFits_of_length_le (T : Int32) {planes : List MsgPlaneInfo}
    (few : planes.length ≤ 16)
    (finite : ∀ p ∈ orderedPairs planes, ¬ Endless T p.1 p.2) : AlertFits T planes := by
  apply (alertFits_iff_of_finite finite).mpr
  have all : (orderedPairs planes).countP (fun p => PredictedConflict T p.1 p.2) ≤
      (orderedPairs planes).length := List.countP_le_length
  have count := two_mul_length_orderedPairs planes
  have bound : planes.length * (planes.length - 1) ≤ 16 * 15 :=
    Nat.mul_le_mul few (by omega)
  simp only [alertCapacity]
  omega

/-- Seventeen aircraft in one column, close enough that every pair is predicted to meet. -/
def crowdedSnapshot : List MsgPlaneInfo :=
  (List.range 17).map fun i => ⟨Int32.ofNat (i + 1), 50000, 50000, 20000 + 50 * i, 100, 0, 0⟩

end QnxAtc
