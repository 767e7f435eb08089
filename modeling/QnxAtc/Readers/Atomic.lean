import QnxAtc.Radar.Snapshots
import QnxAtc.Readers.SharedAccess

/-! # Radar's operations at once

Word by word, Radar's operations on shared memory come out as if each of them,
`writeToSharedMemory` and `clearSharedMemory`, were one step: no other party stores, and
the order of the stores of one operation makes no difference.
-/

namespace QnxAtc.SharedAccess

open WordMemory

/-! ## The operations, each in one step -/

/-- The operation that begins with a label makes `shared'` of `shared`. -/
inductive Performs : Label → SharedMemory → SharedMemory → Prop
  | write {r r' : Radar} {tickCounter : UInt64} (h : r.writeToSharedMemory tickCounter = .ok r') :
      Performs (.beginWrite r.getActiveBuffer tickCounter) r.shared r'.shared
  | clear (shared : SharedMemory) : Performs .beginClear shared Radar.clearedMemory

/-- The contents of shared memory since the constructor, one after each of the operations,
with the latest one. -/
inductive History : List Label → List SharedMemory → SharedMemory → Prop
  | constructed : History [] [Radar.clearedMemory] Radar.clearedMemory
  | perform {operations : List Label} {contents : List SharedMemory} {operation : Label}
      {shared shared' : SharedMemory} (before : History operations contents shared)
      (h : Performs operation shared shared') :
      History (operations ++ [operation]) (contents ++ [shared']) shared'

/-- The stores of a write that are all made publish the records at once. -/
theorem performs_write {shared : SharedMemory} {activeBuffer : List MsgPlaneInfo}
    {tickCounter : UInt64} {pending : List (List Word)} {memory : Content}
    (fits : activeBuffer.length ≤ planeDataCapacity)
    (storing : Storing (writtenContent activeBuffer tickCounter) shared.content
      (writeStores activeBuffer) pending memory)
    (all : pending.flatten = []) :
    ∃ shared', Performs (.beginWrite activeBuffer tickCounter) shared shared' ∧
      memory = shared'.content := by
  let r : Radar :=
    { Radar.start with shared := shared, planesInAirspaceData := fun _ => activeBuffer }
  obtain ⟨r', written⟩ := (r.writeToSharedMemory_ok_iff tickCounter).mpr fits
  obtain ⟨order, perm, rfl⟩ := storing.complete all
  exact ⟨r'.shared, .write written, foldl_writeStores written perm⟩

/-- So do those of `clearSharedMemory`. -/
theorem performs_clear {shared : SharedMemory} {pending : List (List Word)} {memory : Content}
    (storing : Storing clearedContent shared.content clearStores pending memory)
    (all : pending.flatten = []) :
    ∃ shared', Performs .beginClear shared shared' ∧ memory = shared'.content := by
  obtain ⟨order, perm, rfl⟩ := storing.complete all
  exact ⟨Radar.clearedMemory, .clear shared, foldl_clearStores shared perm⟩

/-! ## Word by word -/

/-- A label with which Radar begins an operation. -/
def begins : Label → Bool
  | .beginWrite .. | .beginClear => true
  | _ => false

/-- Where memory stands after the operations of `operations` and the stores so far of the
one Radar is in, given which operations were begun. -/
def Progress (s : SharedAccess) (begun operations : List Label) (shared : SharedMemory) : Prop :=
  match s.radar with
  | .idle | .ended => begun = operations ∧ s.memory = shared.content
  | .writing activeBuffer tickCounter pending =>
      begun = operations ++ [.beginWrite activeBuffer tickCounter] ∧
        activeBuffer.length ≤ planeDataCapacity ∧
        Storing (writtenContent activeBuffer tickCounter) shared.content
          (writeStores activeBuffer) pending s.memory
  | .clearing _ pending =>
      begun = operations ++ [.beginClear] ∧
        Storing clearedContent shared.content clearStores pending s.memory

structure AtomicSoFar (s : SharedAccess) (begun operations : List Label)
    (contents : List SharedMemory) (shared : SharedMemory) : Prop where
  history : History operations contents shared
  completed : s.completed = contents.map SharedMemory.content
  progress : s.Progress begun operations shared

/-- A reader stores nothing. -/
theorem readerStep_frame {s s' : SharedAccess} {reader : SnapshotReader} {label : Label}
    (h : s.readerStep reader label = some s') :
    s'.memory = s.memory ∧ s'.radar = s.radar ∧ s'.completed = s.completed := by
  simp only [readerStep] at h
  split at h
  case h_1 outside =>
    obtain ⟨semaphore, _, rfl⟩ := Option.map_eq_some_iff.mp h
    exact ⟨rfl, rfl, rfl⟩
  case h_2 pending _ j inside =>
    obtain ⟨taken, _, rfl⟩ := Option.map_eq_some_iff.mp h
    exact ⟨rfl, rfl, rfl⟩
  case h_3 pending _ inside =>
    split at h
    · obtain ⟨semaphore, _, rfl⟩ := Option.map_eq_some_iff.mp h
      exact ⟨rfl, rfl, rfl⟩
    · cases h
  case h_4 => cases h

variable {s s' : SharedAccess} {begun operations : List Label} {contents : List SharedMemory}
  {shared : SharedMemory}

theorem AtomicSoFar.readerStep {reader : SnapshotReader} {label : Label}
    (inv : AtomicSoFar s begun operations contents shared)
    (h : s.readerStep reader label = some s') :
    AtomicSoFar s' begun operations contents shared := by
  obtain ⟨memory, radar, completed⟩ := readerStep_frame h
  refine ⟨inv.history, completed.trans inv.completed, ?_⟩
  have progress := inv.progress
  unfold Progress at progress ⊢
  rw [radar, memory]
  exact progress

/-- An operation that is complete has its place in the history. -/
theorem AtomicSoFar.complete {operation : Label}
    (inv : AtomicSoFar s begun operations contents shared)
    (begun_ : begun = operations ++ [operation])
    (performed : ∃ shared', Performs operation shared shared' ∧ s.memory = shared'.content)
    (memory : s'.memory = s.memory) (completed : s'.completed = s.completed ++ [s.memory])
    (over_ : s'.radar = .idle ∨ s'.radar = .ended) :
    ∃ operations contents shared, AtomicSoFar s' begun operations contents shared := by
  obtain ⟨shared', performs, result⟩ := performed
  refine ⟨operations ++ [operation], contents ++ [shared'], shared',
    .perform inv.history performs, ?_, ?_⟩
  · rw [completed, inv.completed, result, List.map_append, List.map_singleton]
  · rcases over_ with idle | ended
    · simpa only [Progress, idle] using ⟨begun_, memory.trans result⟩
    · simpa only [Progress, ended] using ⟨begun_, memory.trans result⟩

theorem AtomicSoFar.radarStep {label : Label}
    (inv : AtomicSoFar s begun operations contents shared) (h : s.radarStep label = some s') :
    ∃ operations contents shared,
      AtomicSoFar s' (begun ++ [label].filter begins) operations contents shared := by
  have progress := inv.progress
  unfold SharedAccess.radarStep at h
  split at h
  case h_1 activeBuffer tickCounter idle =>
    split at h
    · rename_i fits
      obtain ⟨semaphore, _, rfl⟩ := Option.map_eq_some_iff.mp h
      simp only [Progress, idle] at progress
      obtain ⟨rfl, memory⟩ := progress
      refine ⟨_, contents, shared, inv.history, inv.completed, rfl, fits, ?_⟩
      rw [memory]
      exact .begin _ _ _
    · cases h
  case h_2 idle =>
    cases h
    simp only [Progress, idle] at progress
    obtain ⟨rfl, memory⟩ := progress
    refine ⟨_, contents, shared, inv.history, inv.completed, rfl, ?_⟩
    rw [memory]
    exact .begin _ _ _
  case h_3 activeBuffer tickCounter pending j writing =>
    obtain ⟨⟨w, rest⟩, taken, rfl⟩ := Option.map_eq_some_iff.mp h
    simp only [Progress, writing] at progress
    obtain ⟨begun_, fits, storing⟩ := progress
    exact ⟨operations, contents, shared, inv.history, inv.completed,
      by simpa [begins] using begun_, fits, storing.store taken⟩
  case h_4 cleared pending j clearing =>
    obtain ⟨⟨w, rest⟩, taken, rfl⟩ := Option.map_eq_some_iff.mp h
    simp only [Progress, clearing] at progress
    obtain ⟨begun_, storing⟩ := progress
    exact ⟨operations, contents, shared, inv.history, inv.completed,
      by simpa [begins] using begun_, storing.store taken⟩
  case h_5 activeBuffer tickCounter pending writing =>
    split at h
    · rename_i all
      obtain ⟨semaphore, _, rfl⟩ := Option.map_eq_some_iff.mp h
      simp only [Progress, writing] at progress
      obtain ⟨begun_, fits, storing⟩ := progress
      simp only [begins, List.filter_cons, List.filter_nil, Bool.false_eq_true, if_false,
        List.append_nil]
      exact inv.complete begun_ (performs_write fits storing all) rfl rfl (.inl rfl)
    · cases h
  case h_6 cleared pending clearing =>
    split at h
    · rename_i all
      cases h
      simp only [Progress, clearing] at progress
      obtain ⟨begun_, storing⟩ := progress
      simp only [begins, List.filter_cons, List.filter_nil, Bool.false_eq_true, if_false,
        List.append_nil]
      exact inv.complete begun_ (performs_clear storing all) rfl rfl (.inr rfl)
    · cases h
  case h_7 => cases h

theorem atomicSoFar_run {labels : List Label} {s : SharedAccess}
    (run : Machine.run step start labels = some s) :
    ∃ operations contents shared,
      AtomicSoFar s (labels.filter begins) operations contents shared := by
  induction labels using List.reverseRecOn generalizing s with
  | nil =>
      cases run
      have cleared : clearedContent = Radar.clearedMemory.content := clearedMemory_content.symm
      have completed : start.completed = [Radar.clearedMemory].map SharedMemory.content :=
        congrArg (fun c => [c]) cleared
      exact ⟨[], _, _, .constructed, completed, rfl, cleared⟩
  | append_singleton labels label ih =>
      obtain ⟨m, before, last⟩ := Machine.run_concat_eq_some.mp run
      obtain ⟨operations, contents, shared, inv⟩ := ih before
      rw [List.filter_append]
      cases label with
      | beginWrite | beginClear | store | complete => exact inv.radarStep last
      | enter | load | leave =>
          refine ⟨operations, contents, shared, ?_⟩
          simpa [begins] using inv.readerStep last

/-- However the words of Radar and of the readers interleave, the contents Radar completed
are those of a prefix of the operations it began, each made at once. -/
theorem completed_atomic {labels : List Label} {s : SharedAccess}
    (run : Machine.run step start labels = some s) :
    ∃ operations contents shared, operations <+: labels.filter begins ∧
      History operations contents shared ∧
      s.completed = contents.map SharedMemory.content := by
  obtain ⟨operations, contents, shared, inv⟩ := atomicSoFar_run run
  refine ⟨operations, contents, shared, ?_, inv.history, inv.completed⟩
  have progress := inv.progress
  unfold Progress at progress
  split at progress
  · exact progress.1 ▸ List.prefix_refl _
  · exact progress.1 ▸ List.prefix_refl _
  · exact progress.1 ▸ List.prefix_append _ _
  · exact progress.1 ▸ List.prefix_append _ _

end QnxAtc.SharedAccess
