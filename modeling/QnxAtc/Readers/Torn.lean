import QnxAtc.Readers.SharedAccess

/-! # Torn snapshots

What a reader copies between `sem_wait` and `sem_post` is a content Radar completed, as
long as Radar stores under the semaphore. `clearSharedMemory` does not take it: a reader
that is in the middle of its copy then gets words of two contents.
-/

namespace QnxAtc

open WordMemory

/-! ## The tuple is determined by the words that are loaded -/

/-- Every word the tuple of `c` is made of was loaded or still will be. -/
structure Covers (c : Content) (loaded pending : List Word) : Prop where
  flag : .isEmpty ∈ loaded
  header : c.isEmpty = false → ∀ w ∈ [Word.timestamp, Word.count], w ∈ loaded ∨ w ∈ pending
  records : c.isEmpty = false → .count ∈ loaded → ∀ i < c.count, ∀ w ∈ recordWords i,
    w ∈ loaded ∨ w ∈ pending

theorem Content.plane_congr {c d : Content} {i : Nat} (same : ∀ w ∈ recordWords i, c w = d w) :
    c.plane i = d.plane i := by
  simp only [recordWords, List.forall_mem_cons] at same
  obtain ⟨id, px, py, pz, vx, vy, vz, _⟩ := same
  simp only [Content.plane, id, px, py, pz, vx, vy, vz]

/-- A copy whose loaded words agree with a content has the tuple of that content. -/
theorem tuple_of_covers {copy c : Content} {loaded : List Word}
    (same : ∀ w ∈ loaded, copy w = c w) (covers : Covers c loaded []) : copy.tuple = c.tuple := by
  have flag : copy.isEmpty = c.isEmpty := same _ covers.flag
  unfold Content.tuple
  rw [flag]
  by_cases empty : c.isEmpty = true
  · rw [if_pos empty, if_pos empty]
  · rw [if_neg empty, if_neg empty]
    have full : c.isEmpty = false := Bool.eq_false_iff.mpr empty
    have header : ∀ w ∈ [Word.timestamp, Word.count], w ∈ loaded := by
      intro w hw
      simpa using covers.header full w hw
    have timestamp : copy.timestamp = c.timestamp := same _ (header _ (by simp))
    have counted : .count ∈ loaded := header _ (by simp)
    have count : copy.count = c.count := same _ counted
    have planes : (List.range c.count).map copy.plane = (List.range c.count).map c.plane := by
      apply List.map_congr_left
      intro i hi
      apply Content.plane_congr
      intro w hw
      have here := covers.records full counted i (List.mem_range.mp hi) w hw
      exact same w (by simpa using here)
    rw [timestamp, count, planes]

/-- The flag is loaded first; what it says decides what else is loaded. -/
theorem covers_flag (reader : SnapshotReader) (c copy : Content)
    (same : copy .isEmpty = c .isEmpty) :
    Covers c [.isEmpty] (followingLoads reader .isEmpty copy).flatten := by
  have flag : copy.isEmpty = c.isEmpty := same
  refine ⟨List.mem_cons_self, ?_, ?_⟩
  · intro full w hw
    refine .inr ?_
    cases reader <;> simpa [followingLoads, flag, full, or_comm] using hw
  · intro _ counted
    simp at counted

/-- A further load moves its word from the pending ones to the loaded ones; the count says
which records follow. -/
theorem Covers.load {reader : SnapshotReader} {c copy : Content} {loaded : List Word}
    {pending rest : List (List Word)} {j : Nat} {w : Word}
    (h : Covers c loaded pending.flatten) (taken : takeAccess pending j = some (w, rest))
    (same : copy w = c w) :
    Covers c (w :: loaded) (rest ++ followingLoads reader w copy).flatten := by
  have moved : ∀ x, x ∈ loaded ∨ x ∈ pending.flatten →
      x ∈ w :: loaded ∨ x ∈ (rest ++ followingLoads reader w copy).flatten := by
    intro x hx
    rw [mem_takeAccess taken] at hx
    rw [List.flatten_append, List.mem_append, List.mem_cons]
    tauto
  refine ⟨List.mem_cons_of_mem w h.flag, ?_, ?_⟩
  · intro full x hx
    exact moved x (h.header full x hx)
  · intro full counted i hi x hx
    rcases List.mem_cons.mp counted with rfl | before
    · -- the count is loaded now, and the loads of the records follow
      have count : copy.count = c.count := same
      refine .inr ?_
      rw [List.flatten_append, List.mem_append]
      refine .inr (List.mem_flatten.mpr ⟨recordWords i, ?_, hx⟩)
      rw [followingLoads, count]
      exact List.mem_map_of_mem (List.mem_range.mpr hi)
    · exact moved x (h.records full before i hi x hx)

/-! ## Quiet stores -/

namespace SharedAccess

/-- Radar is not in the middle of an operation. -/
def Quiet (s : SharedAccess) : Prop :=
  match s.radar with
  | .idle | .ended | .clearing false _ => True
  | .writing .. | .clearing true _ => False

/-- A reader has begun to copy and has words left to load. -/
def midCopy (s : SharedAccess) (reader : SnapshotReader) : Bool :=
  match (s.readers reader).phase with
  | .inside pending => !(s.readers reader).loaded.isEmpty && !pending.flatten.isEmpty
  | _ => false

/-- Radar's stores outside the semaphore meet no copy: no reader is in the middle of one at
such a store, and none begins one, finding a snapshot, before the operation is complete. -/
def clearsUnseen (s : SharedAccess) : Label → Bool
  | .store _ =>
      match s.radar with
      | .clearing .. => !s.midCopy .computer && !s.midCopy .display
      | _ => true
  | .load reader _ =>
      match s.radar with
      | .clearing true _ => !(s.readers reader).loaded.isEmpty || s.memory.isEmpty
      | _ => true
  | _ => true

/-- Where a reader inside its section stands: before its first load, or with words of one
completed content, which shared memory still has if there are words left to load. -/
def Copies (s : SharedAccess) (r : ReaderAccess) (pending : List (List Word)) : Prop :=
  r.loaded = [] ∧ pending = [[.isEmpty]] ∨
    ∃ c ∈ s.completed, (∀ w ∈ r.loaded, r.copy w = c w) ∧ Covers c r.loaded pending.flatten ∧
      (pending.flatten ≠ [] → s.memory = c ∧ s.Quiet)

structure TupleInvariant (s : SharedAccess) : Prop where
  constructed : clearedContent ∈ s.completed
  writes : ∀ activeBuffer tickCounter pending,
    s.radar = .writing activeBuffer tickCounter pending → .radar ∈ s.semaphore.holders
  reads : ∀ reader pending, (s.readers reader).phase = .inside pending →
    .reader reader ∈ s.semaphore.holders
  quiet : s.Quiet → s.memory ∈ s.completed
  copies : ∀ reader pending, (s.readers reader).phase = .inside pending →
    s.Copies (s.readers reader) pending
  tuples : ∀ reader, ∀ tuple ∈ (s.readers reader).tuples, ∃ c ∈ s.completed, tuple = c.tuple

theorem tupleInvariant_start : TupleInvariant start := by
  refine ⟨List.mem_cons_self, by simp [start], by simp [start], fun _ => List.mem_cons_self,
    by simp [start], by simp [start]⟩

/-- A reader inside its section keeps Radar from writing. -/
theorem TupleInvariant.not_writing {s : SharedAccess} (inv : TupleInvariant s)
    {reader : SnapshotReader} {pending : List (List Word)}
    (inside : (s.readers reader).phase = .inside pending) {activeBuffer : List MsgPlaneInfo}
    {tickCounter : UInt64} {stores : List (List Word)} :
    s.radar ≠ .writing activeBuffer tickCounter stores := by
  intro writing
  have both := Semaphore.eq_of_holds (inv.writes _ _ _ writing) (inv.reads _ _ inside)
  cases both

/-- A copy goes on when memory stays and the history of contents grows. -/
theorem Copies.mono {s s' : SharedAccess} {r : ReaderAccess} {pending : List (List Word)}
    (h : s.Copies r pending) (memory : s'.memory = s.memory) (quiet : s.Quiet → s'.Quiet)
    (completed : ∀ c ∈ s.completed, c ∈ s'.completed) : s'.Copies r pending := by
  rcases h with before | ⟨c, mem, same, covers, rest⟩
  · exact .inl before
  · refine .inr ⟨c, completed c mem, same, covers, ?_⟩
    intro left
    exact ⟨memory.trans (rest left).1, quiet (rest left).2⟩

/-- Radar moves without a store that a copy in progress could see. -/
theorem TupleInvariant.radar {s s' : SharedAccess} (inv : TupleInvariant s)
    (readers : s'.readers = s.readers)
    (completed : ∀ c ∈ s.completed, c ∈ s'.completed)
    (writes : ∀ activeBuffer tickCounter pending,
      s'.radar = .writing activeBuffer tickCounter pending → .radar ∈ s'.semaphore.holders)
    (reads : ∀ reader pending, (s.readers reader).phase = .inside pending →
      .reader reader ∈ s'.semaphore.holders)
    (quiet : s'.Quiet → s'.memory ∈ s'.completed)
    (copies : ∀ reader pending, (s.readers reader).phase = .inside pending →
      s'.Copies (s.readers reader) pending) : TupleInvariant s' := by
  refine ⟨completed _ inv.constructed, writes, ?_, quiet, ?_, ?_⟩
  · rw [readers]
    exact reads
  · rw [readers]
    exact copies
  · rw [readers]
    intro reader tuple mem
    obtain ⟨c, hc, same⟩ := inv.tuples reader tuple mem
    exact ⟨c, completed c hc, same⟩

theorem tupleInvariant_radarStep {s s' : SharedAccess} {label : Label} (inv : TupleInvariant s)
    (unseen : s.clearsUnseen label = true) (h : s.radarStep label = some s') :
    TupleInvariant s' := by
  unfold radarStep at h
  split at h
  case h_1 activeBuffer tickCounter idle =>
    split at h
    · obtain ⟨semaphore, taken, rfl⟩ := Option.map_eq_some_iff.mp h
      have free := Semaphore.free_of_wait taken
      have outside : ∀ reader pending, (s.readers reader).phase ≠ .inside pending := by
        intro reader pending inside
        have held := inv.reads reader pending inside
        rw [free] at held
        cases held
      refine inv.radar rfl (fun _ hc => hc) ?_ ?_ (fun quiet => quiet.elim) ?_
      · intro _ _ _ _
        rw [Semaphore.holders_of_wait taken]
        exact List.mem_cons_self
      · intro reader pending inside
        exact absurd inside (outside reader pending)
      · intro reader pending inside
        exact absurd inside (outside reader pending)
    · cases h
  case h_2 idle =>
    cases h
    have before : s.Quiet := by simp [Quiet, idle]
    refine inv.radar rfl (fun _ hc => hc) (by simp) inv.reads (fun _ => inv.quiet before) ?_
    intro reader pending inside
    exact (inv.copies reader pending inside).mono rfl (fun _ => trivial) fun _ hc => hc
  case h_3 activeBuffer tickCounter pending j writing =>
    obtain ⟨⟨w, rest⟩, taken, rfl⟩ := Option.map_eq_some_iff.mp h
    refine inv.radar rfl (fun _ hc => hc) ?_ inv.reads (fun quiet => quiet.elim) ?_
    · intro _ _ _ _
      exact inv.writes _ _ _ writing
    · intro reader _ inside
      exact absurd writing (inv.not_writing inside)
  case h_4 begun pending j clearing =>
    obtain ⟨⟨w, rest⟩, taken, rfl⟩ := Option.map_eq_some_iff.mp h
    refine inv.radar rfl (fun _ hc => hc) (by simp) inv.reads (fun quiet => quiet.elim) ?_
    intro reader pending' inside
    have idle : s.midCopy reader = false := by
      simp only [clearsUnseen, clearing, Bool.and_eq_true, Bool.not_eq_true'] at unseen
      cases reader with
      | computer => exact unseen.1
      | display => exact unseen.2
    rcases inv.copies reader pending' inside with before | ⟨c, mem, same, covers, _⟩
    · exact .inl before
    · refine .inr ⟨c, mem, same, covers, ?_⟩
      intro left
      have begun : (s.readers reader).loaded.isEmpty = false := by
        rw [List.isEmpty_eq_false_iff]
        exact List.ne_nil_of_mem covers.flag
      have more : pending'.flatten.isEmpty = false := List.isEmpty_eq_false_iff.mpr left
      simp only [midCopy, inside, begun, more] at idle
      cases idle
  case h_5 activeBuffer tickCounter pending writing =>
    split at h
    · obtain ⟨semaphore, given, rfl⟩ := Option.map_eq_some_iff.mp h
      have grown : ∀ c ∈ s.completed, c ∈ s.completed ++ [s.memory] :=
        fun _ hc => List.mem_append_left _ hc
      refine inv.radar rfl grown (by simp) ?_ ?_ ?_
      · intro reader pending inside
        exact absurd writing (inv.not_writing inside)
      · intro _
        exact List.mem_append_right _ List.mem_cons_self
      · intro reader pending inside
        exact absurd writing (inv.not_writing inside)
    · cases h
  case h_6 begun pending clearing =>
    split at h
    · cases h
      have grown : ∀ c ∈ s.completed, c ∈ s.completed ++ [s.memory] :=
        fun _ hc => List.mem_append_left _ hc
      refine inv.radar rfl grown (by simp) inv.reads ?_ ?_
      · intro _
        exact List.mem_append_right _ List.mem_cons_self
      · intro reader pending inside
        exact (inv.copies reader pending inside).mono rfl (fun _ => trivial) grown
    · cases h
  case h_7 => cases h

/-- One reader moves, and takes away no permit but its own. -/
theorem TupleInvariant.reader {s : SharedAccess} (inv : TupleInvariant s) (reader : SnapshotReader)
    (r : ReaderAccess) (semaphore : Semaphore Party 1)
    (others : ∀ party ∈ s.semaphore.holders, party ≠ .reader reader → party ∈ semaphore.holders)
    (inside : ∀ pending, r.phase = .inside pending →
      .reader reader ∈ semaphore.holders ∧ s.Copies r pending)
    (tuples : ∀ tuple ∈ r.tuples, ∃ c ∈ s.completed, tuple = c.tuple) :
    TupleInvariant { s.setReader reader r with semaphore := semaphore } := by
  have cases_ : ∀ other : SnapshotReader, other = reader ∧ Function.update s.readers reader r other
      = r ∨ other ≠ reader ∧ Function.update s.readers reader r other = s.readers other := by
    intro other
    by_cases same : other = reader
    · subst same
      exact .inl ⟨rfl, Function.update_self ..⟩
    · exact .inr ⟨same, Function.update_of_ne same ..⟩
  refine ⟨inv.constructed, ?_, ?_, inv.quiet, ?_, ?_⟩
  · intro _ _ _ writing
    exact others _ (inv.writes _ _ _ writing) (by simp)
  · intro other pending at_
    rcases cases_ other with ⟨rfl, now⟩ | ⟨apart, now⟩
    · exact (inside pending (now ▸ at_)).1
    · exact others _ (inv.reads other pending (now ▸ at_)) (by simpa using apart)
  · intro other pending at_
    rcases cases_ other with ⟨rfl, now⟩ | ⟨apart, now⟩
    · change s.Copies (Function.update s.readers other r other) pending
      rw [now]
      exact (inside pending (now ▸ at_)).2
    · change s.Copies (Function.update s.readers reader r other) pending
      rw [now]
      exact inv.copies other pending (now ▸ at_)
  · intro other tuple mem
    rcases cases_ other with ⟨rfl, now⟩ | ⟨apart, now⟩
    · exact tuples tuple (now ▸ mem)
    · exact inv.tuples other tuple (now ▸ mem)

theorem Copies.load {s : SharedAccess} {r : ReaderAccess} {reader : SnapshotReader}
    {pending rest : List (List Word)} {j : Nat} {w : Word} (h : s.Copies r pending)
    (taken : takeAccess pending j = some (w, rest))
    (first : r.loaded = [] → s.Quiet ∧ s.memory ∈ s.completed ∨
      s.memory.isEmpty = true ∧ clearedContent ∈ s.completed) :
    s.Copies { r with
        phase := .inside (rest ++ followingLoads reader w (copyWord w s.memory r.copy))
        copy := copyWord w s.memory r.copy
        loaded := w :: r.loaded }
      (rest ++ followingLoads reader w (copyWord w s.memory r.copy)) := by
  rcases h with ⟨nothing, rfl⟩ | ⟨c, mem, same, covers, still⟩
  · obtain ⟨rfl, none_⟩ := takeAccess_singleton taken
    have pendingNow : ∀ copy, (rest ++ followingLoads reader .isEmpty copy).flatten =
        (followingLoads reader .isEmpty copy).flatten := by
      intro copy
      rw [List.flatten_append, none_, List.nil_append]
    have flag : copyWord .isEmpty s.memory r.copy .isEmpty = s.memory .isEmpty := copyWord_self ..
    simp only [nothing]
    rcases first nothing with ⟨quiet, mem⟩ | ⟨empty, mem⟩
    · refine .inr ⟨s.memory, mem, by simp, ?_, fun _ => ⟨rfl, quiet⟩⟩
      rw [pendingNow]
      exact covers_flag reader _ _ flag
    · have agrees : copyWord .isEmpty s.memory r.copy .isEmpty = clearedContent .isEmpty :=
        flag.trans empty
      refine .inr ⟨clearedContent, mem, by simpa using agrees, ?_, ?_⟩
      · rw [pendingNow]
        exact covers_flag reader _ _ agrees
      · intro left
        have stops : Content.isEmpty (copyWord .isEmpty s.memory r.copy) = true := agrees
        rw [pendingNow] at left
        cases reader <;> simp [followingLoads, stops] at left
  · have left : pending.flatten ≠ [] := by
      intro none_
      have here := (mem_takeAccess taken w).mpr (.inl rfl)
      rw [none_] at here
      cases here
    obtain ⟨memory, quiet⟩ := still left
    refine .inr ⟨c, mem, ?_, covers.load taken (by rw [copyWord_self, memory]), ?_⟩
    · intro x hx
      refine copyWord_agrees (by rw [memory]) fun apart => ?_
      exact same x ((List.mem_cons.mp hx).resolve_left apart)
    · intro _
      exact ⟨memory, quiet⟩

theorem tupleInvariant_readerStep {s s' : SharedAccess} {reader : SnapshotReader} {label : Label}
    (inv : TupleInvariant s) (unseen : ∀ j, label = .load reader j → s.clearsUnseen label = true)
    (own : label = .enter reader ∨ (∃ j, label = .load reader j) ∨ label = .leave reader)
    (h : s.readerStep reader label = some s') : TupleInvariant s' := by
  simp only [readerStep] at h
  split at h
  case h_1 outside =>
    obtain ⟨semaphore, taken, rfl⟩ := Option.map_eq_some_iff.mp h
    refine inv.reader reader _ semaphore ?_ ?_ (inv.tuples reader)
    · intro party held _
      rw [Semaphore.holders_of_wait taken]
      exact List.mem_cons_of_mem _ held
    · intro pending at_
      rw [Semaphore.holders_of_wait taken]
      cases at_
      exact ⟨List.mem_cons_self, .inl ⟨rfl, rfl⟩⟩
  case h_2 pending other j inside =>
    obtain ⟨⟨w, rest⟩, taken, rfl⟩ := Option.map_eq_some_iff.mp h
    refine inv.reader reader _ s.semaphore (fun _ held _ => held) ?_ (inv.tuples reader)
    intro pending' at_
    cases at_
    refine ⟨inv.reads reader pending inside, (inv.copies reader pending inside).load taken ?_⟩
    intro first
    have same : Label.load other j = .load reader j := by
      rcases own with own | ⟨_, own⟩ | own
      · cases own
      · cases own; rfl
      · cases own
    have seen := unseen j same
    rw [same] at seen
    cases radar : s.radar with
    | writing => exact absurd radar (inv.not_writing inside)
    | idle | ended =>
        have quiet : s.Quiet := by simp [Quiet, radar]
        exact .inl ⟨quiet, inv.quiet quiet⟩
    | clearing begun stores =>
        cases begun with
        | false =>
            have quiet : s.Quiet := by simp [Quiet, radar]
            exact .inl ⟨quiet, inv.quiet quiet⟩
        | true =>
            simp only [clearsUnseen, radar, first] at seen
            exact .inr ⟨seen, inv.constructed⟩
  case h_3 pending other inside =>
    split at h
    · rename_i all
      obtain ⟨semaphore, given, rfl⟩ := Option.map_eq_some_iff.mp h
      obtain ⟨_, holders⟩ := Semaphore.holders_of_post given
      refine inv.reader reader _ semaphore ?_ ?_ ?_
      · intro party held apart
        rw [holders]
        exact (List.mem_erase_of_ne apart).mpr held
      · intro pending' at_
        simp only at at_
        split at at_ <;> cases at_
      · intro tuple mem
        rcases List.mem_append.mp mem with old | new
        · exact inv.tuples reader tuple old
        · rw [List.mem_singleton.mp new]
          rcases inv.copies reader pending inside with ⟨_, rfl⟩ | ⟨c, hc, same, covers, _⟩
          · simp at all
          · rw [all] at covers
            exact ⟨c, hc, tuple_of_covers same covers⟩
    · cases h
  case h_4 => cases h

theorem tupleInvariant_step (s : SharedAccess) (label : Label) (s' : SharedAccess)
    (inv : TupleInvariant s) (unseen : s.clearsUnseen label = true)
    (h : s.step label = some s') : TupleInvariant s' := by
  cases label with
  | beginWrite | beginClear | store | complete => exact tupleInvariant_radarStep inv unseen h
  | enter reader => exact tupleInvariant_readerStep inv (fun _ _ => unseen) (.inl rfl) h
  | load reader j =>
      exact tupleInvariant_readerStep inv (fun _ _ => unseen) (.inr (.inl ⟨j, rfl⟩)) h
  | leave reader => exact tupleInvariant_readerStep inv (fun _ _ => unseen) (.inr (.inr rfl)) h

/-- Whatever the order of the stores and loads, as long as no copy meets a store made
outside the semaphore, every tuple a reader copied is that of shared memory after some
completed operation of Radar. -/
theorem copies_untorn (labels : List Label) (s : SharedAccess)
    (run : Machine.run step start labels = some s)
    (unseen : Machine.Along step (fun s label => s.clearsUnseen label = true) start labels) :
    ∀ reader, ∀ tuple ∈ (s.readers reader).tuples, ∃ c ∈ s.completed, tuple = c.tuple :=
  (Machine.run_invariant_along tupleInvariant_step tupleInvariant_start unseen run).tuples

/-! ## A torn copy -/

/-- One record is written; the Display has loaded the flag, the count and the timestamp. -/
def beforeClear : List Label :=
  [.beginWrite [⟨7, 50000, 50000, 20000, 100, 0, 0⟩] 5] ++ List.replicate 10 (.store 0) ++
    [.complete, .enter .display] ++ List.replicate 3 (.load .display 0)

/-- The destructor clears the ID of the record before the Display loads it. -/
def clearInside : List Label :=
  beforeClear ++ [.beginClear, .store 0] ++ List.replicate 7 (.load .display 0) ++
    [.leave .display]

theorem copies_torn :
    ¬ ∀ (labels : List Label) (s : SharedAccess), Machine.run step start labels = some s →
        ∀ reader, ∀ tuple ∈ (s.readers reader).tuples, ∃ c ∈ s.completed, tuple = c.tuple := by
  intro claim
  obtain ⟨s, run, test⟩ := Machine.exists_of_map_run step start clearInside
    (fun s => decide (∃ tuple ∈ (s.readers .display).tuples,
      ∀ c ∈ s.completed, tuple ≠ c.tuple))
    (by decide +kernel)
  obtain ⟨tuple, mem, torn⟩ := of_decide_eq_true test
  obtain ⟨c, hc, same⟩ := claim clearInside s run .display tuple mem
  exact torn c hc same

/-- The Display copies the record, and the destructor clears it afterwards. -/
theorem copies_untorn_clearAfter :
    ∃ s, Machine.run step start (beforeClear ++ List.replicate 7 (.load .display 0) ++
        [.leave .display, .beginClear, .store 0]) = some s ∧
      ∃ tuple ∈ (s.readers .display).tuples,
        tuple.planes = [⟨7, 50000, 50000, 20000, 100, 0, 0⟩] ∧
        ∃ c ∈ s.completed, tuple = c.tuple := by
  obtain ⟨s, run, test⟩ := Machine.exists_of_map_run step start
    (beforeClear ++ List.replicate 7 (.load .display 0) ++
      [.leave .display, .beginClear, .store 0])
    (fun s => decide (∃ tuple ∈ (s.readers .display).tuples,
      tuple.planes = [⟨7, 50000, 50000, 20000, 100, 0, 0⟩]))
    (by decide +kernel)
  obtain ⟨tuple, mem, planes⟩ := of_decide_eq_true test
  exact ⟨s, run, tuple, mem, planes,
    copies_untorn _ s run (by decide +kernel) .display tuple mem⟩

end SharedAccess

end QnxAtc
