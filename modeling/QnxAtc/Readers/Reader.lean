import QnxAtc.Messages.Structs
import Mathlib.Tactic.Linarith

/-! # Readers of the snapshot

`ComputerSystem::monitorAirspace` and `Display::displayLoop` run one loop: wait for a
first non-empty snapshot, then copy the records at every poll until a poll finds the
snapshot empty. They differ in their period and in what they do with the copy.
-/

namespace QnxAtc

/-- The copy loop `for (i = 0; i < count; ++i)`, from `i` on. -/
def copyPlanes (shared : SharedMemory) : Nat → Nat → Except Fault (List MsgPlaneInfo)
  | 0, _ => .ok []
  | left + 1, i =>
      match shared.planeData.toList[i]? with
      | none => .error .indexOutOfBounds
      | some plane => do
          let planes ← copyPlanes shared left (i + 1)
          return plane :: planes

def readPlanes (shared : SharedMemory) : Except Fault (List MsgPlaneInfo) :=
  copyPlanes shared shared.count 0

theorem copyPlanes_eq_ok (shared : SharedMemory) (left i : Nat) (planes : List MsgPlaneInfo)
    (start : i ≤ planeDataCapacity) :
    copyPlanes shared left i = .ok planes ↔
      i + left ≤ planeDataCapacity ∧
        planes = (shared.planeData.toList.drop i).take left := by
  induction left generalizing i planes with
  | zero => simp [copyPlanes, start, eq_comm]
  | succ left ih =>
      by_cases inside : i < planeDataCapacity
      · have bound : i < shared.planeData.toList.length := by simpa using inside
        simp only [copyPlanes, List.getElem?_eq_getElem bound, Except.bind_eq_ok,
          ih (i + 1) _ inside, List.drop_eq_getElem_cons bound, List.take_succ_cons, pure,
          Except.pure, Except.ok.injEq]
        constructor
        · rintro ⟨rest, ⟨fits, rfl⟩, rfl⟩
          exact ⟨by omega, rfl⟩
        · rintro ⟨fits, rfl⟩
          exact ⟨_, ⟨by omega, rfl⟩, rfl⟩
      · have outside : shared.planeData.toList[i]? = none := by simpa using inside
        simp only [copyPlanes, outside, reduceCtorEq, false_iff, not_and]
        intro fits
        omega

/-- The readers stay inside the array exactly when the count does. -/
theorem readPlanes_eq_ok {shared : SharedMemory} {planes : List MsgPlaneInfo} :
    readPlanes shared = .ok planes ↔
      shared.count ≤ planeDataCapacity ∧
        planes = shared.planeData.toList.take shared.count := by
  have all := copyPlanes_eq_ok shared shared.count 0 planes (Nat.zero_le _)
  simpa [readPlanes] using all

inductive ReaderPhase where
  | starting
  | startPausing
  | polling
  | pausing
  | finished
deriving DecidableEq

structure Reader where
  phase : ReaderPhase
  running : Bool
  planes : List MsgPlaneInfo
  timestamp : UInt64
  -- history, which no step reads: shared memory as each poll of the main loop found it
  polls : List SharedMemory

namespace Reader

inductive Label where
  | test  -- of the loop that waits for a first aircraft
  | tick
  | poll

/-- A reader whose process has just started its threads. -/
def start : Reader := ⟨.starting, true, [], 0, []⟩

/-- One step of a reader; a poll reads under the semaphore, so all at once. -/
def step (shared : SharedMemory) (r : Reader) (label : Label) : Option Reader :=
  match r.phase, label with
  | .starting, .test =>
      some { r with phase := if shared.isEmpty then .startPausing else .polling }
  | .startPausing, .tick => some { r with phase := .starting }
  | .polling, .poll =>
      if r.running = false then some { r with phase := .finished }
      else if shared.isEmpty then
        some { r with phase := .finished, running := false, polls := r.polls ++ [shared] }
      else
        match readPlanes shared with
        | .ok planes =>
            some { r with
              phase := .pausing
              planes := planes
              timestamp := shared.timestamp
              polls := r.polls ++ [shared] }
        | .error _ => none
  | .pausing, .tick => some { r with phase := .polling }
  | _, _ => none

/-- A step leaves the records of a reader alone or copies those of the snapshot. -/
theorem step_planes {shared : SharedMemory} {r r' : Reader} {label : Label}
    (h : r.step shared label = some r') :
    r'.planes = r.planes ∨ readPlanes shared = .ok r'.planes := by
  unfold step at h
  split at h
  case h_1 | h_2 | h_4 => cases h; exact .inl rfl
  case h_3 =>
      split at h
      · cases h; exact .inl rfl
      · split at h
        · cases h; exact .inl rfl
        · split at h
          · rename_i planes copied
            cases h
            exact .inr copied
          · cases h
  case h_5 => cases h

/-- The main loop is over. -/
def Stopped (r : Reader) : Prop := r.running = false

/-- A poll of the main loop found the snapshot empty. -/
def FoundEmpty (r : Reader) : Prop := ∃ shared ∈ r.polls, shared.isEmpty = true

structure StopInvariant (r : Reader) : Prop where
  stops : r.Stopped ↔ r.FoundEmpty
  ended : r.Stopped → r.phase = .finished

theorem stopInvariant_start : StopInvariant start :=
  ⟨by simp [Stopped, FoundEmpty, start], nofun⟩

theorem stopInvariant_step {shared : SharedMemory} {r r' : Reader} {label : Label}
    (h : StopInvariant r) (hstep : r.step shared label = some r') : StopInvariant r' := by
  have running : ∀ phase, r.phase = phase → phase ≠ .finished → ¬ r.Stopped := by
    intro phase at_ going stopped
    exact going (at_.symm.trans (h.ended stopped))
  unfold step at hstep
  split at hstep
  case h_1 at_ | h_2 at_ | h_4 at_ =>
      have going := running _ at_ (by simp)
      cases hstep
      exact ⟨h.stops, fun stopped => absurd stopped going⟩
  case h_3 at_ =>
      have going := running _ at_ (by simp)
      have notYet : ¬ r.FoundEmpty := fun found => going (h.stops.mpr found)
      split at hstep
      · rename_i stopped
        exact absurd stopped going
      · split at hstep
        · rename_i empty
          cases hstep
          exact ⟨iff_of_true rfl ⟨shared, by simp, empty⟩, fun _ => rfl⟩
        · rename_i nonempty
          split at hstep
          · cases hstep
            refine ⟨iff_of_false going ?_, fun stopped => absurd stopped going⟩
            intro found
            obtain ⟨other, mem, empty⟩ := found
            rcases List.mem_append.mp mem with old | new
            · exact notYet ⟨other, old, empty⟩
            · rw [List.mem_singleton.mp new] at empty
              exact nonempty empty
          · cases hstep
  case h_5 => cases hstep

/-- A finished reader makes no further step. -/
theorem step_eq_none_of_stopped {shared : SharedMemory} {r : Reader} (h : StopInvariant r)
    (stopped : r.Stopped) (label : Label) : r.step shared label = none := by
  unfold step
  rw [h.ended stopped]

end Reader

end QnxAtc
