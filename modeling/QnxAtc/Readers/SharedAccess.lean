import QnxAtc.Library.Machine
import QnxAtc.Library.Semaphore
import QnxAtc.Library.WordMemory
import QnxAtc.Radar.State

/-! # Shared memory, store by store

The three parties of the shared memory with every store and every load a step of its
own: Radar in `writeToSharedMemory` and `clearSharedMemory`, the Computer's and the
Display's loop between `sem_wait` and `sem_post`. The copies of whole records may move
their words in any order.
-/

namespace QnxAtc

open FixedArray WordMemory

/-! ## Words -/

inductive PlaneField where
  | id
  | positionX
  | positionY
  | positionZ
  | velocityX
  | velocityY
  | velocityZ
deriving DecidableEq

/-- The words of `SharedMemory` that somebody reads. -/
inductive Word where
  | timestamp
  | isEmpty
  | count
  | plane (i : Nat) (field : PlaneField)
deriving DecidableEq

def PlaneField.Value : PlaneField → Type
  | .id => Int32
  | _ => ℚ

def Word.Value : Word → Type
  | .timestamp => UInt64
  | .isEmpty => Bool
  | .count => Nat
  | .plane _ field => field.Value

/-- A content of shared memory, or a party's copy of parts of it. -/
abbrev Content := (w : Word) → w.Value

def MsgPlaneInfo.field (plane : MsgPlaneInfo) : (field : PlaneField) → field.Value
  | .id => plane.id
  | .positionX => plane.positionX
  | .positionY => plane.positionY
  | .positionZ => plane.positionZ
  | .velocityX => plane.velocityX
  | .velocityY => plane.velocityY
  | .velocityZ => plane.velocityZ

namespace Content

def plane (c : Content) (i : Nat) : MsgPlaneInfo where
  id := c (.plane i .id)
  positionX := c (.plane i .positionX)
  positionY := c (.plane i .positionY)
  positionZ := c (.plane i .positionZ)
  velocityX := c (.plane i .velocityX)
  velocityY := c (.plane i .velocityY)
  velocityZ := c (.plane i .velocityZ)

def isEmpty (c : Content) : Bool := c .isEmpty
def count (c : Content) : Nat := c .count
def timestamp (c : Content) : UInt64 := c .timestamp

end Content

/-- The words of the record at place `i`. -/
def recordWords (i : Nat) : List Word :=
  [.plane i .id, .plane i .positionX, .plane i .positionY, .plane i .positionZ,
    .plane i .velocityX, .plane i .velocityY, .plane i .velocityZ]

/-- The words of the first `n` records. -/
def planeWords (n : Nat) : List Word := (List.range n).flatMap recordWords

/-! ## The stores of Radar -/

/-- What `writeToSharedMemory` stores where. -/
def writtenContent (activeBuffer : List MsgPlaneInfo) (tickCounter : UInt64) : Content
  | .timestamp => tickCounter
  | .isEmpty => activeBuffer.isEmpty
  | .count => activeBuffer.length
  | .plane i field => (activeBuffer.getD i default).field field

def writeStores (activeBuffer : List MsgPlaneInfo) : List (List Word) :=
  if activeBuffer.isEmpty then [[.timestamp], [.isEmpty], [.count]]
  else [[.timestamp], [.isEmpty], [.count], planeWords activeBuffer.length]

/-- What `clearSharedMemory` stores. -/
def clearedContent : Content
  | .timestamp => (0 : UInt64)
  | .isEmpty => true
  | .count => (0 : Nat)
  | .plane _ field => (default : MsgPlaneInfo).field field

def clearStores : List (List Word) :=
  [planeWords planeDataCapacity, [.count], [.isEmpty], [.timestamp]]

inductive WriterPhase where
  | idle
  /-- between `sem_wait` and `sem_post` -/
  | writing (activeBuffer : List MsgPlaneInfo) (tickCounter : UInt64) (pending : List (List Word))
  /-- in the destructor, without the semaphore -/
  | clearing (begun : Bool) (pending : List (List Word))
  | ended

/-! ## The operations as a whole -/

/-- The words of a snapshot. -/
def SharedMemory.content (shared : SharedMemory) : Content
  | .timestamp => shared.timestamp
  | .isEmpty => shared.isEmpty
  | .count => shared.count
  | .plane i field => (shared.planeData.toList.getD i default).field field

theorem mem_recordWords {i k : Nat} {field : PlaneField} :
    Word.plane i field ∈ recordWords k ↔ i = k := by
  cases field <;> simp [recordWords]

theorem mem_planeWords {n : Nat} {w : Word} :
    w ∈ planeWords n ↔ ∃ i field, w = .plane i field ∧ i < n := by
  simp only [planeWords, List.mem_flatMap, List.mem_range]
  cases w with
  | plane i field => simp [mem_recordWords]
  | timestamp | isEmpty | count => simp [recordWords]

theorem mem_writeStores {activeBuffer : List MsgPlaneInfo} {w : Word} :
    w ∈ (writeStores activeBuffer).flatten ↔
      w ∈ [.timestamp, .isEmpty, .count] ++ planeWords activeBuffer.length := by
  unfold writeStores
  split
  · rename_i empty
    simp [List.isEmpty_iff.mp empty, planeWords]
  · simp

/-- In whatever order the stores of a write are made, they publish what
`writeToSharedMemory` publishes. -/
theorem foldl_writeStores {r r' : Radar} {tickCounter : UInt64}
    (h : r.writeToSharedMemory tickCounter = .ok r') {order : List Word}
    (all : order.Perm (writeStores r.getActiveBuffer).flatten) :
    order.foldl (fun m w => copyWord w (writtenContent r.getActiveBuffer tickCounter) m)
      r.shared.content = r'.shared.content := by
  have stores : ∀ w, w ∈ order ↔
      w ∈ [.timestamp, .isEmpty, .count] ++ planeWords r.getActiveBuffer.length :=
    fun w => all.mem_iff.trans mem_writeStores
  unfold Radar.writeToSharedMemory at h
  by_cases empty : r.getActiveBuffer.isEmpty = true
  · rw [if_pos empty, Except.ok.injEq] at h
    subst h
    have none_ : r.getActiveBuffer = [] := List.isEmpty_iff.mp empty
    apply foldl_copyWord_eq
    · intro w stored
      rw [stores, none_] at stored
      cases w with
      | timestamp => rfl
      | isEmpty => exact empty
      | count => exact congrArg List.length none_
      | plane i field => simp [planeWords] at stored
    · intro w kept
      rw [stores] at kept
      cases w with
      | timestamp | isEmpty | count => simp at kept
      | plane i field => rfl
  · rw [if_neg empty] at h
    cases copied : copyInto r.shared.planeData r.getActiveBuffer with
    | none => simp [copied] at h
    | some planeData =>
        rw [copied, Except.ok.injEq] at h
        subst h
        obtain ⟨fits, rfl⟩ := copyInto_eq_some.mp copied
        have records := toList_overwrite r.shared.planeData fits
        apply foldl_copyWord_eq
        · intro w stored
          rw [stores] at stored
          cases w with
          | timestamp | count => rfl
          | isEmpty => exact Bool.eq_false_iff.mpr empty
          | plane i field =>
              have here : i < r.getActiveBuffer.length := by simpa [mem_planeWords] using stored
              have place : r.getActiveBuffer.getD i default =
                  (overwrite r.shared.planeData r.getActiveBuffer).toList.getD i default := by
                rw [records, List.getD_eq_getElem?_getD, List.getD_eq_getElem?_getD,
                  List.getElem?_append_left here]
              exact congrArg (fun p => MsgPlaneInfo.field p field) place
        · intro w kept
          rw [stores] at kept
          cases w with
          | timestamp | isEmpty | count => simp at kept
          | plane i field =>
              have behind : r.getActiveBuffer.length ≤ i := by simpa [mem_planeWords] using kept
              have place : r.shared.planeData.toList.getD i default =
                  (overwrite r.shared.planeData r.getActiveBuffer).toList.getD i default := by
                rw [records, List.getD_eq_getElem?_getD, List.getD_eq_getElem?_getD,
                  List.getElem?_append_right behind, List.getElem?_drop,
                  Nat.add_sub_cancel' behind]
              exact congrArg (fun p => MsgPlaneInfo.field p field) place

theorem clearedMemory_content : Radar.clearedMemory.content = clearedContent := by
  funext w
  cases w with
  | timestamp | isEmpty | count => rfl
  | plane i field =>
      have zero : Radar.clearedMemory.planeData.toList.getD i default = default := by
        rw [List.getD_eq_getElem?_getD, Radar.clearedMemory, Vector.toList_replicate,
          List.getElem?_replicate]
        split <;> rfl
      exact congrArg (fun p => MsgPlaneInfo.field p field) zero

/-- The stores of `clearSharedMemory`, in any order, leave the cleared memory. -/
theorem foldl_clearStores (shared : SharedMemory) {order : List Word}
    (all : order.Perm clearStores.flatten) :
    order.foldl (fun m w => copyWord w clearedContent m) shared.content =
      Radar.clearedMemory.content := by
  rw [clearedMemory_content]
  apply foldl_copyWord_eq
  · intro w _
    rfl
  · intro w kept
    rw [all.mem_iff] at kept
    cases w with
    | timestamp | isEmpty | count => simp [clearStores] at kept
    | plane i field =>
        have behind : planeDataCapacity ≤ i := by simpa [clearStores, mem_planeWords] using kept
        have outside : shared.planeData.toList.getD i default = default := by
          rw [List.getD_eq_getElem?_getD, List.getElem?_eq_none (by simpa using behind)]
          rfl
        exact congrArg (fun p => MsgPlaneInfo.field p field) outside

/-! ## The loads of the readers -/

inductive SnapshotReader where
  | computer
  | display
deriving DecidableEq

/-- What a reader keeps of one poll. -/
structure Tuple where
  isEmpty : Bool
  timestamp : UInt64
  count : Nat
  planes : List MsgPlaneInfo
deriving DecidableEq

/-- The tuple of a content; of an empty one nothing but the flag is read. -/
def Content.tuple (c : Content) : Tuple :=
  if c.isEmpty then ⟨true, 0, 0, []⟩
  else ⟨false, c.timestamp, c.count, (List.range c.count).map c.plane⟩

/-- The loads that follow the load of a word, given what was loaded so far. -/
def followingLoads (reader : SnapshotReader) (w : Word) (copy : Content) : List (List Word) :=
  match w, reader with
  | .isEmpty, .computer => if copy.isEmpty then [] else [[.timestamp], [.count]]
  | .isEmpty, .display => if copy.isEmpty then [] else [[.count], [.timestamp]]
  | .count, _ => (List.range copy.count).map recordWords
  | _, _ => []

inductive SnapshotPhase where
  | outside
  /-- between `sem_wait` and `sem_post` -/
  | inside (pending : List (List Word))
  | ended

structure ReaderAccess where
  phase : SnapshotPhase
  copy : Content
  -- history: the words loaded in this poll, and the tuples of the polls so far
  loaded : List Word
  tuples : List Tuple

/-! ## The parties together -/

/-- The parties that take the semaphore. -/
inductive Party where
  | radar
  | reader (reader : SnapshotReader)
deriving DecidableEq

structure SharedAccess where
  memory : Content
  semaphore : Semaphore Party 1
  radar : WriterPhase
  readers : SnapshotReader → ReaderAccess
  completed : List Content  -- history: the content after each completed operation of Radar

namespace SharedAccess

/-- After Radar's constructor, whose call of `clearSharedMemory` is the first operation. -/
def start : SharedAccess where
  memory := clearedContent
  semaphore := .init Party 1
  radar := .idle
  readers := fun _ => ⟨.outside, clearedContent, [], []⟩
  completed := [clearedContent]

inductive Label where
  | beginWrite (activeBuffer : List MsgPlaneInfo) (tickCounter : UInt64)
  | beginClear
  | store (j : Nat)
  | complete
  | enter (reader : SnapshotReader)
  | load (reader : SnapshotReader) (j : Nat)
  | leave (reader : SnapshotReader)

def setReader (s : SharedAccess) (reader : SnapshotReader) (r : ReaderAccess) : SharedAccess :=
  { s with readers := Function.update s.readers reader r }

/-- The steps of Radar. A `memcpy` that would leave the array has no step. -/
def radarStep (s : SharedAccess) (label : Label) : Option SharedAccess :=
  match s.radar, label with
  | .idle, .beginWrite activeBuffer tickCounter =>
      if activeBuffer.length ≤ planeDataCapacity then
        (s.semaphore.wait .radar).map fun semaphore =>
          { s with
            semaphore := semaphore
            radar := .writing activeBuffer tickCounter (writeStores activeBuffer) }
      else none
  | .idle, .beginClear => some { s with radar := .clearing false clearStores }
  | .writing activeBuffer tickCounter pending, .store j =>
      (takeAccess pending j).map fun (w, rest) =>
        { s with
          memory := copyWord w (writtenContent activeBuffer tickCounter) s.memory
          radar := .writing activeBuffer tickCounter rest }
  | .clearing _ pending, .store j =>
      (takeAccess pending j).map fun (w, rest) =>
        { s with
          memory := copyWord w clearedContent s.memory
          radar := .clearing true rest }
  | .writing _ _ pending, .complete =>
      if pending.flatten = [] then
        (s.semaphore.post .radar).map fun semaphore =>
          { s with
            semaphore := semaphore
            radar := .idle
            completed := s.completed ++ [s.memory] }
      else none
  | .clearing _ pending, .complete =>
      if pending.flatten = [] then
        some { s with radar := .ended, completed := s.completed ++ [s.memory] }
      else none
  | _, _ => none

/-- The steps of a reader. Having found the snapshot empty, it stops. -/
def readerStep (s : SharedAccess) (reader : SnapshotReader) (label : Label) :
    Option SharedAccess :=
  let r := s.readers reader
  match r.phase, label with
  | .outside, .enter _ =>
      (s.semaphore.wait (.reader reader)).map fun semaphore =>
        { s.setReader reader { r with phase := .inside [[.isEmpty]], loaded := [] } with
          semaphore := semaphore }
  | .inside pending, .load _ j =>
      (takeAccess pending j).map fun (w, rest) =>
        let copy := copyWord w s.memory r.copy
        s.setReader reader { r with
          phase := .inside (rest ++ followingLoads reader w copy)
          copy := copy
          loaded := w :: r.loaded }
  | .inside pending, .leave _ =>
      if pending.flatten = [] then
        (s.semaphore.post (.reader reader)).map fun semaphore =>
          { s.setReader reader { r with
              phase := if r.copy.isEmpty then .ended else .outside
              tuples := r.tuples ++ [r.copy.tuple] } with
            semaphore := semaphore }
      else none
  | _, _ => none

def step (s : SharedAccess) (label : Label) : Option SharedAccess :=
  match label with
  | .beginWrite .. | .beginClear | .store _ | .complete => s.radarStep label
  | .enter reader | .load reader _ | .leave reader => s.readerStep reader label

end SharedAccess

end QnxAtc
