import Mathlib.Data.List.Basic

/-! # Copying into a fixed array

`overwrite` is the effect of a block copy that fits; `copyInto` is the copy itself,
which has no defined result when the source is longer than the array.
-/

namespace FixedArray

variable {α : Type*} {n : Nat}

/-- The array with its first elements replaced by `src`; what does not fit is cut off. -/
def overwrite (dst : Vector α n) (src : List α) : Vector α n :=
  ⟨((src ++ dst.toList.drop src.length).take n).toArray, by simp; omega⟩

/-- A block copy to the start of the array, `none` when it would leave the array. -/
def copyInto (dst : Vector α n) (src : List α) : Option (Vector α n) :=
  if src.length ≤ n then some (overwrite dst src) else none

theorem toList_overwrite (dst : Vector α n) {src : List α} (h : src.length ≤ n) :
    (overwrite dst src).toList = src ++ dst.toList.drop src.length := by
  have hlen : (src ++ dst.toList.drop src.length).length = n := by simp; omega
  have htake : (src ++ dst.toList.drop src.length).take n = _ :=
    List.take_of_length_le (Nat.le_of_eq hlen)
  simpa [overwrite, Vector.toList] using htake

/-- The copied elements are the prefix of the array. -/
theorem take_overwrite (dst : Vector α n) {src : List α} (h : src.length ≤ n) :
    (overwrite dst src).toList.take src.length = src := by
  rw [toList_overwrite dst h, List.take_left']
  rfl

theorem copyInto_eq_some {dst dst' : Vector α n} {src : List α} :
    copyInto dst src = some dst' ↔ src.length ≤ n ∧ dst' = overwrite dst src := by
  unfold copyInto
  by_cases h : src.length ≤ n
  · simp [h, eq_comm]
  · simp [h]

theorem copyInto_eq_none {dst : Vector α n} {src : List α} :
    copyInto dst src = none ↔ n < src.length := by
  unfold copyInto
  split <;> simp_all

/-! ## The accesses of a block copy -/

/-- An element touched by a copy, of the array it reads or of the one it writes. -/
inductive Access where
  | read (i : Nat)
  | write (i : Nat)
deriving DecidableEq

/-- The access stays in arrays of these lengths. -/
def Access.Within (source destination : Nat) : Access → Prop
  | .read i => i < source
  | .write i => i < destination

/-- The accesses of a copy of `count` elements, none of which is checked. -/
def blockCopy (count : Nat) : List Access :=
  (List.range count).flatMap fun i => [.read i, .write i]

/-- A copy stays in both arrays exactly when neither is shorter than what is copied. -/
theorem blockCopy_within_iff (source destination count : Nat) :
    (∀ access ∈ blockCopy count, access.Within source destination) ↔
      count ≤ source ∧ count ≤ destination := by
  constructor
  · intro within
    cases count with
    | zero => omega
    | succ last =>
        have touched : ∀ access, access = .read last ∨ access = .write last →
            access ∈ blockCopy (last + 1) := by
          intro access h
          exact List.mem_flatMap.mpr ⟨last, by simp, by simpa using h⟩
        have read : last < source := within _ (touched _ (.inl rfl))
        have written : last < destination := within _ (touched _ (.inr rfl))
        omega
  · rintro ⟨fitsSource, fitsDestination⟩ access mem
    obtain ⟨i, range, touched⟩ := List.mem_flatMap.mp mem
    have bound : i < count := List.mem_range.mp range
    simp only [List.mem_cons, List.not_mem_nil, or_false] at touched
    rcases touched with rfl | rfl
    · exact Nat.lt_of_lt_of_le bound fitsSource
    · exact Nat.lt_of_lt_of_le bound fitsDestination

end FixedArray
