import Mathlib.Data.List.Nodup

/-! # A counting semaphore

The value a semaphore keeps, with the parties that hold a permit as history. What was
taken from the value is what is held, which the structure carries, so one permit has one
holder.
-/

structure Semaphore (ι : Type*) (permits : Nat) where
  value : Nat
  holders : List ι
  balanced : value + holders.length = permits

namespace Semaphore

variable {ι : Type*} {permits : Nat}

def init (ι : Type*) (permits : Nat) : Semaphore ι permits := ⟨permits, [], Nat.add_zero _⟩

/-- Take a permit; as long as there is none, the caller stays blocked. -/
def wait (s : Semaphore ι permits) (i : ι) : Option (Semaphore ι permits) :=
  if h : 0 < s.value then
    some ⟨s.value - 1, i :: s.holders, by
      have := s.balanced
      rw [List.length_cons]
      omega⟩
  else none

/-- Give a permit back. -/
def post [DecidableEq ι] (s : Semaphore ι permits) (i : ι) : Option (Semaphore ι permits) :=
  if h : i ∈ s.holders then
    some ⟨s.value + 1, s.holders.erase i, by
      have := s.balanced
      have held := List.length_pos_of_mem h
      rw [List.length_erase_of_mem h]
      omega⟩
  else none

theorem holders_of_wait {s s' : Semaphore ι permits} {i : ι} (h : s.wait i = some s') :
    s'.holders = i :: s.holders := by
  unfold wait at h
  split at h
  · cases h; rfl
  · cases h

theorem holders_of_post [DecidableEq ι] {s s' : Semaphore ι permits} {i : ι}
    (h : s.post i = some s') : i ∈ s.holders ∧ s'.holders = s.holders.erase i := by
  unfold post at h
  split at h
  · cases h; exact ⟨‹_›, rfl⟩
  · cases h

/-- Nobody waits successfully while the only permit is held. -/
theorem free_of_wait {s s' : Semaphore ι 1} {i : ι} (h : s.wait i = some s') : s.holders = [] := by
  have held := holders_of_wait h
  have balanced := s'.balanced
  rw [held, List.length_cons] at balanced
  exact List.eq_nil_of_length_eq_zero (by omega)

/-- The only permit has one holder. -/
theorem holders_of_holds {s : Semaphore ι 1} {i : ι} (h : i ∈ s.holders) : s.holders = [i] := by
  have balanced := s.balanced
  match holders : s.holders with
  | [] => simp [holders] at h
  | [k] =>
      rw [holders, List.mem_singleton] at h
      rw [h]
  | _ :: _ :: _ =>
      rw [holders] at balanced
      simp only [List.length_cons] at balanced
      omega

theorem eq_of_holds {s : Semaphore ι 1} {i j : ι} (hi : i ∈ s.holders) (hj : j ∈ s.holders) :
    i = j := by
  rw [holders_of_holds hj, List.mem_singleton] at hi
  exact hi

end Semaphore
