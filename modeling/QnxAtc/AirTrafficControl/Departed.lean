import QnxAtc.AirTrafficControl.Announcements
import QnxAtc.Readers.Reader

/-! # Aircraft that have departed

An aircraft leaves the airspace with an EXIT_AIRSPACE, or its thread ends without one and
its channel is gone. In both cases the next pass of Radar, from its test of the airspace to
its write, removes what is left of it, and it never comes back.
-/

namespace QnxAtc

namespace Radar

/-- Between two passes the active buffer has been published and cleared. -/
def ActiveEmpty (r : Radar) : Prop := r.update ≠ .writing true → r.getActiveBuffer = []

theorem activeEmpty_step {r r' : Radar} {label : Label} (h : r.ActiveEmpty)
    (next : r.step label = some r') : r'.ActiveEmpty := by
  cases step_spec next with
  | arrival | receive | shutdown | clear => exact h
  | handle msg at_ =>
      obtain ⟨planes, same⟩ := r.handleMessage_eq msg
      rw [same]
      exact h
  | loop phase at_ | pulse at_ | foundPlanes at_ | stillEmpty at_ | nowEmpty at_ =>
      exact fun _ => h (by rw [at_]; nofun)
  | turn planeID rest at_ | gone planeID rest at_ | openChannel planeID rest at_ ok
  | sendFails planeID rest at_ | erase planeID rest at_ =>
      exact fun _ => h (by rw [at_]; nofun)
  | switch at_ => exact fun other => absurd rfl other
  | copy planesToPoll at_ once all =>
      exact fun _ => (r.getActiveBuffer_setInactiveBuffer _).trans (h (by rw [at_]; nofun))
  | answer planeID rest at_ info own =>
      exact fun _ => (r.getActiveBuffer_setInactiveBuffer _).trans (h (by rw [at_]; nofun))
  | write polled tickCounter at_ written result =>
      exact fun _ => (writeToSharedMemory_spec result).cleared

/-- The entry of a message that is being handled. -/
def HandlesEntry (r : Radar) (planeID : Int32) : Prop :=
  ∃ msg, r.arrival = .handling msg ∧ msg.type = .enterAirspace ∧ msg.planeID = planeID

/-- An ID comes into the set when its entry is handled. -/
theorem step_planes {r r' : Radar} {label : Label} {planeID : Int32}
    (next : r.step label = some r') (noEntry : ¬ r.HandlesEntry planeID)
    (out : planeID ∉ r.planesInAirspace) : planeID ∉ r'.planesInAirspace := by
  cases step_spec next with
  | arrival | receive | loop | pulse | foundPlanes | stillEmpty | nowEmpty | copy | switch | turn
  | gone | openChannel | answer | sendFails | shutdown | clear => exact out
  | handle msg at_ =>
      intro here
      rcases (r.mem_handleMessage msg planeID).mp here with ⟨enter, own⟩ | ⟨old, _⟩
      · exact noEntry ⟨msg, at_, enter, own⟩
      · exact out old
  | erase other rest at_ => exact fun here => out (Finset.mem_of_mem_erase here)
  | write polled tickCounter at_ written result =>
      have frame := (writeToSharedMemory_spec result).frame
      show planeID ∉ written.planesInAirspace
      rw [frame]
      exact out

/-- No record of the ID. -/
def Lacks (planeID : Int32) (records : List MsgPlaneInfo) : Prop :=
  ∀ info ∈ records, info.id ≠ planeID

/-- The ID is a member and still to be visited, and its channel is closed. -/
def Condemned (closed : Prop) (planeID : Int32) (r : Radar) (rest : List Int32) : Prop :=
  (planeID ∈ r.planesInAirspace → planeID ∈ rest) ∧ (planeID ∈ rest → closed) ∧
    Lacks planeID r.inactiveBuffer

/-- From the test of a pass on: the pass erases the ID, if it is a member at all, and puts
no record of it into the inactive buffer. -/
def Clearing (closed : Prop) (planeID : Int32) (r : Radar) : Prop :=
  match r.update with
  | .copying => True
  | .polling rest => Condemned closed planeID r rest
  | .opening other rest | .unreachable other rest => Condemned closed planeID r (other :: rest)
  | .sending other rest => other ≠ planeID ∧ Condemned closed planeID r (other :: rest)
  | .writing true => planeID ∉ r.planesInAirspace ∧ Lacks planeID r.getActiveBuffer
  | _ => planeID ∉ r.planesInAirspace

theorem clearing_of_testEmpty {r r' : Radar} {closed : Prop} {planeID : Int32}
    (next : r.step .testEmpty = some r') : r'.Clearing closed planeID := by
  simp only [step, updateStep] at next
  split at next
  case h_3 =>
      split at next
      · cases next
        trivial
      · rename_i none_
        have empty : planeID ∉ r.planesInAirspace := by
          rw [not_not.mp none_]
          exact Finset.notMem_empty planeID
        split at next <;> cases next <;> exact empty
  all_goals contradiction

/-- What a channel that cannot be opened does to a pass. -/
structure Shut (closed : Prop) (planeID : Int32) (r : Radar) (label : Label) : Prop where
  noEntry : ¬ r.HandlesEntry planeID
  opens : ∀ rest ok, closed → r.update = .opening planeID rest → label = .openChannel ok →
    ok = false

theorem Condemned.same {closed : Prop} {planeID : Int32} {r r' : Radar} {rest : List Int32}
    (h : Condemned closed planeID r rest)
    (planes : planeID ∈ r'.planesInAirspace → planeID ∈ r.planesInAirspace)
    (buffer : r'.inactiveBuffer = r.inactiveBuffer) : Condemned closed planeID r' rest :=
  ⟨fun here => h.1 (planes here), h.2.1, buffer ▸ h.2.2⟩

/-- The turn of an ID that is not, or no longer, a member. -/
theorem Condemned.tail {closed : Prop} {planeID other : Int32} {r r' : Radar}
    {rest : List Int32} (h : Condemned closed planeID r (other :: rest))
    (planes : planeID ∈ r'.planesInAirspace → planeID ∈ r.planesInAirspace ∧ planeID ≠ other)
    (buffer : Lacks planeID r'.inactiveBuffer) : Condemned closed planeID r' rest := by
  refine ⟨?_, fun here => h.2.1 (List.mem_cons_of_mem other here), buffer⟩
  intro here
  obtain ⟨member, apart⟩ := planes here
  exact (List.mem_cons.mp (h.1 member)).resolve_left apart

theorem clearing_step {r r' : Radar} {closed : Prop} {planeID : Int32} {label : Label}
    (h : r.Clearing closed planeID) (shut : Shut closed planeID r label)
    (member : planeID ∈ r.planesInAirspace → closed)
    (next : r.step label = some r') : r'.Clearing closed planeID := by
  have planes := step_planes next shut.noEntry
  cases step_spec next with
  | arrival | receive | shutdown | clear => exact h
  | handle msg at_ =>
      have within : planeID ∈ (r.handleMessage msg).planesInAirspace →
          planeID ∈ r.planesInAirspace := by
        intro here
        by_contra out
        exact planes out here
      obtain ⟨set, same⟩ := r.handleMessage_eq msg
      rw [same] at planes within ⊢
      unfold Clearing at h ⊢
      cases hu : r.update with
      | copying => trivial
      | polling rest | opening other rest | unreachable other rest =>
          simp only [hu] at h ⊢
          exact h.same within rfl
      | sending other rest =>
          simp only [hu] at h ⊢
          exact ⟨h.1, h.2.same within rfl⟩
      | writing polled =>
          cases polled with
          | true =>
              simp only [hu] at h ⊢
              exact ⟨planes h.1, h.2⟩
          | false =>
              simp only [hu] at h ⊢
              exact planes h
      | looping | waiting | testing | ended =>
          simp only [hu] at h ⊢
          exact planes h
  | loop phase at_ goesOn =>
      simp only [Clearing, at_] at h
      rcases goesOn with rfl | rfl <;> exact h
  | pulse at_ =>
      simp only [Clearing, at_] at h
      exact h
  | foundPlanes at_ found => trivial
  | stillEmpty at_ found was | nowEmpty at_ found was =>
      simp only [Clearing, at_] at h
      exact h
  | copy planesToPoll at_ once all =>
      refine ⟨?_, ?_, ?_⟩
      · intro here
        rw [← List.mem_toFinset, all]
        exact here
      · intro here
        rw [← List.mem_toFinset, all] at here
        exact member here
      · show Lacks planeID (r.setInactiveBuffer []).inactiveBuffer
        rw [inactiveBuffer_setInactiveBuffer]
        exact nofun
  | switch at_ =>
      simp only [Clearing, at_] at h
      exact ⟨fun here => List.not_mem_nil (h.1 here), h.2.2⟩
  | turn other rest at_ here =>
      simp only [Clearing, at_] at h
      exact h
  | gone other rest at_ left =>
      simp only [Clearing, at_] at h
      refine h.tail ?_ h.2.2
      intro here
      refine ⟨here, ?_⟩
      rintro rfl
      exact left here
  | openChannel other rest at_ ok =>
      simp only [Clearing, at_] at h
      cases ok with
      | false => exact h
      | true =>
          refine ⟨?_, h⟩
          rintro rfl
          cases shut.opens rest true (h.2.1 List.mem_cons_self) at_ rfl
  | answer other rest at_ info own =>
      simp only [Clearing, at_] at h
      obtain ⟨apart, h⟩ := h
      refine h.tail (fun here => ⟨here, apart.symm⟩) ?_
      show Lacks planeID (r.setInactiveBuffer (r.inactiveBuffer ++ [info])).inactiveBuffer
      rw [inactiveBuffer_setInactiveBuffer]
      intro record here
      rcases List.mem_append.mp here with old | new
      · exact h.2.2 record old
      · rw [List.mem_singleton.mp new, own]
        exact apart
  | sendFails other rest at_ =>
      simp only [Clearing, at_] at h
      exact h.2
  | erase other rest at_ =>
      simp only [Clearing, at_] at h
      refine h.tail ?_ h.2.2
      intro here
      obtain ⟨apart, member⟩ := Finset.mem_erase.mp here
      exact ⟨member, apart⟩
  | write polled tickCounter at_ written result =>
      simp only [Clearing, at_] at h
      have frame := (writeToSharedMemory_spec result).frame
      show planeID ∉ written.planesInAirspace
      rw [frame]
      cases polled with
      | true => exact h.1
      | false => exact h

/-- The write of a pass publishes no record of the ID. -/
theorem lacks_of_write {r written : Radar} {closed : Prop} {planeID : Int32} {polled : Bool}
    {tickCounter : UInt64} (h : r.Clearing closed planeID) (empty : r.ActiveEmpty)
    (at_ : r.update = .writing polled) (result : r.writeToSharedMemory tickCounter = .ok written) :
    ∃ records, Publishes written.shared records ∧ Lacks planeID records := by
  refine ⟨r.getActiveBuffer, (writeToSharedMemory_spec result).publishes, ?_⟩
  simp only [Clearing, at_] at h
  cases polled with
  | true => exact h.2
  | false =>
      rw [empty (by rw [at_]; nofun)]
      exact nofun

/-- The snapshot has no record of the ID. -/
def Cleared (planeID : Int32) (r : Radar) : Prop :=
  ∃ records, Publishes r.shared records ∧ Lacks planeID records

theorem cleared_step {r r' : Radar} {closed : Prop} {planeID : Int32} {label : Label}
    (h : r.Cleared planeID) (clearing : r.Clearing closed planeID) (empty : r.ActiveEmpty)
    (next : r.step label = some r') : r'.Cleared planeID := by
  cases step_spec next with
  | arrival | receive | loop | pulse | foundPlanes | stillEmpty | nowEmpty | copy | switch | turn
  | gone | openChannel | answer | sendFails | erase | shutdown => exact h
  | handle msg at_ =>
      obtain ⟨planes, same⟩ := r.handleMessage_eq msg
      rw [same]
      exact h
  | write polled tickCounter at_ written result =>
      obtain ⟨records, publishes, lacks⟩ := lacks_of_write clearing empty at_ result
      exact ⟨records, publishes, lacks⟩
  | clear ended => exact ⟨[], publishes_clearedMemory, nofun⟩

/-- A message that is about to be handled was so before, or has just been received. -/
theorem step_handlesEntry {r r' : Radar} {label : Label} {planeID : Int32}
    (next : r.step label = some r') (after : r'.HandlesEntry planeID) :
    r.HandlesEntry planeID ∨
      ∃ msg, label.message? = some msg ∧ msg.type = .enterAirspace ∧ msg.planeID = planeID := by
  cases step_spec next with
  | arrival label phase idle local_ =>
      obtain ⟨msg, busy, _⟩ := after
      exact absurd busy (idle msg)
  | receive msg at_ =>
      obtain ⟨other, busy, what⟩ := after
      cases busy
      exact .inr ⟨msg, rfl, what⟩
  | handle msg at_ =>
      obtain ⟨other, busy, _⟩ := after
      cases busy
  | loop | pulse | foundPlanes | stillEmpty | nowEmpty | copy | switch | turn | gone | openChannel
  | answer | sendFails | erase | shutdown | clear => exact .inl after
  | write polled tickCounter at_ written result =>
      have frame := (writeToSharedMemory_spec result).frame
      have same : written.arrival = r.arrival := by rw [frame]
      obtain ⟨msg, busy, what⟩ := after
      exact .inl ⟨msg, same.symm.trans busy, what⟩

end Radar

namespace AirTrafficControl

/-- The threads with the ID have all ended. -/
def AllEnded (s : AirTrafficControl) (planeID : Int32) : Prop :=
  ∀ (i : Nat) (t : AircraftThread), s.threads[i]? = some t → t.aircraft.id = planeID →
    t.phase = .ended

theorem allEnded_step {s s' : AirTrafficControl} {label : Label} {planeID : Int32}
    (h : s.AllEnded planeID) (hstep : s.step label = some s') : s'.AllEnded planeID := by
  rcases step_moves_thread hstep with same | ⟨i, t, input, t', at_, next, moved⟩
  · rw [AllEnded, same]
    exact h
  · rw [AllEnded, moved]
    refine Pool.forall_set h ?_
    intro own
    rw [AircraftThread.step_id next] at own
    have finished := AircraftThread.step_eq_none_of_finished (i := input)
      (by rw [h i t at_ own]; rfl)
    rw [finished] at next
    cases next

/-- An entry that Radar is about to handle was sent by a thread that then waits for the reply. -/
theorem step_handlesEntry {s s' : AirTrafficControl} {label : Label} {planeID : Int32}
    (hstep : s.step label = some s') (after : s'.radar.HandlesEntry planeID) :
    s.radar.HandlesEntry planeID ∨ ∃ (i : Nat) (t : AircraftThread),
      s.threads[i]? = some t ∧ t.aircraft.id = planeID ∧ t.phase = .sendingEnter := by
  cases step_spec hstep with
  | aircraft i input t t' at_ may next => exact .inl after
  | radar label r may next =>
      rcases Radar.step_handlesEntry next after with was | ⟨msg, new, _⟩
      · exact .inl was
      · unfold Radar.Label.message? at new
        split at new
        · exact may.elim
        · cases new
  | send i t t' msg r at_ pending next received =>
      rcases Radar.step_handlesEntry received after with was | ⟨other, new, enter, own⟩
      · exact .inl was
      · cases new
        refine .inr ⟨i, t, at_, ?_, ?_⟩
        · rw [← own, AircraftThread.pendingMessage_planeID pending]
        · unfold AircraftThread.pendingMessage at pending
          split at pending
          · assumption
          · cases pending
            cases enter
          · cases pending
  | poll i t t' planeID rest r info at_ blocked own next reply answered =>
      rcases Radar.step_handlesEntry answered after with was | ⟨msg, new, _⟩
      · exact .inl was
      · cases new

/-- No entry with the ID is to come, and if Radar still has the ID, its threads have ended. -/
structure Gone (closed : Prop) (planeID : Int32) (s : AirTrafficControl) : Prop where
  announced : ∀ (i : Nat) (t : AircraftThread), s.threads[i]? = some t →
    t.aircraft.id = planeID → t.phase.announced = true
  noEntry : ¬ s.radar.HandlesEntry planeID
  member : planeID ∈ s.radar.planesInAirspace → closed
  ended : closed → s.AllEnded planeID

theorem gone_step {s s' : AirTrafficControl} {label : Label} {closed : Prop} {planeID : Int32}
    (h : s.Gone closed planeID) (hstep : s.step label = some s') : s'.Gone closed planeID := by
  refine ⟨?_, ?_, ?_, fun finished => allEnded_step (h.ended finished) hstep⟩
  · rcases step_moves_thread hstep with same | ⟨i, t, input, t', at_, next, moved⟩
    · rw [same]
      exact h.announced
    · rw [moved]
      refine Pool.forall_set h.announced ?_
      intro own
      rw [AircraftThread.step_id next] at own
      exact AircraftThread.step_announced next (h.announced i t at_ own)
  · intro after
    rcases step_handlesEntry hstep after with was | ⟨i, t, at_, own, sending⟩
    · exact h.noEntry was
    · have announced := h.announced i t at_ own
      rw [sending] at announced
      cases announced
  · intro here
    rcases step_moves_radar hstep with same | ⟨l, _, next⟩
    · exact h.member (same ▸ here)
    · refine h.member ?_
      by_contra out
      exact Radar.step_planes next h.noEntry out here

/-- Radar cannot open a channel of threads that have ended. -/
theorem Gone.radar_step {s s' : AirTrafficControl} {label : Label} {closed : Prop}
    {planeID : Int32} (h : s.Gone closed planeID) (hstep : s.step label = some s') :
    s'.radar = s.radar ∨
      ∃ l, Radar.Shut closed planeID s.radar l ∧ s.radar.step l = some s'.radar := by
  cases step_spec hstep with
  | aircraft i input t t' at_ may next => exact .inl rfl
  | radar l r may next =>
      refine .inr ⟨l, ⟨h.noEntry, ?_⟩, next⟩
      rintro rest ok finished opening rfl
      simp only [RadarMay, opening] at may
      by_contra opened
      obtain ⟨t, mem, own, attached⟩ := may.mp ((Bool.not_eq_false _).mp opened)
      obtain ⟨i, place⟩ := List.mem_iff_getElem?.mp mem
      rw [h.ended finished i t place own] at attached
      cases attached
  | send i t t' msg r at_ pending next received =>
      refine .inr ⟨.receive (.message msg), ⟨h.noEntry, ?_⟩, received⟩
      intro rest ok _ _ other
      cases other
  | poll i t t' other rest r info at_ blocked own next reply answered =>
      refine .inr ⟨.answer info, ⟨h.noEntry, ?_⟩, answered⟩
      intro rest ok _ _ other
      cases other

/-- What holds from the test of a pass on. -/
structure Passing (closed : Prop) (planeID : Int32) (s : AirTrafficControl) : Prop where
  gone : s.Gone closed planeID
  empty : s.radar.ActiveEmpty
  clearing : s.radar.Clearing closed planeID

theorem passing_step {s s' : AirTrafficControl} {label : Label} {closed : Prop} {planeID : Int32}
    (h : s.Passing closed planeID) (hstep : s.step label = some s') :
    s'.Passing closed planeID := by
  have gone := gone_step h.gone hstep
  rcases h.gone.radar_step hstep with same | ⟨l, shut, next⟩
  · exact ⟨gone, same ▸ h.empty, same ▸ h.clearing⟩
  · exact ⟨gone, Radar.activeEmpty_step h.empty next,
      Radar.clearing_step h.clearing shut h.gone.member next⟩

/-- What holds from the write of such a pass on. -/
structure Forgotten (closed : Prop) (planeID : Int32) (s : AirTrafficControl) : Prop where
  passing : s.Passing closed planeID
  out : planeID ∉ s.radar.planesInAirspace
  cleared : s.radar.Cleared planeID

theorem forgotten_step {s s' : AirTrafficControl} {label : Label} {closed : Prop}
    {planeID : Int32} (h : s.Forgotten closed planeID) (hstep : s.step label = some s') :
    s'.Forgotten closed planeID := by
  have passing := passing_step h.passing hstep
  rcases h.passing.gone.radar_step hstep with same | ⟨l, shut, next⟩
  · exact ⟨passing, same ▸ h.out, same ▸ h.cleared⟩
  · exact ⟨passing, Radar.step_planes next shut.noEntry h.out,
      Radar.cleared_step h.cleared h.passing.clearing h.passing.empty next⟩

theorem forgotten_of_write {s s' : AirTrafficControl} {tickCounter : UInt64} {closed : Prop}
    {planeID : Int32} (h : s.Passing closed planeID)
    (hstep : s.step (.radar (.write tickCounter)) = some s') : s'.Forgotten closed planeID := by
  have passing := passing_step h hstep
  cases step_spec hstep with
  | radar label r may next =>
      simp only [Radar.step, Radar.updateStep] at next
      split at next
      case h_11 polled tickCounter at_ same =>
          split at next
          · rename_i written result
            cases next
            obtain ⟨records, publishes, lacks⟩ :=
              Radar.lacks_of_write h.clearing h.empty at_ result
            exact ⟨passing, passing.clearing, records, publishes, lacks⟩
          · cases next
      all_goals contradiction

/-- Radar has handled the departure of the ID, or its threads have all ended and no entry of
theirs is about to be handled. -/
def Departed (s : AirTrafficControl) (planeID : Int32) : Prop :=
  s.radar.ExitHandled planeID ∨ s.AllEnded planeID ∧ ¬ s.radar.HandlesEntry planeID

theorem gone_of_departed {planeData : List PlaneData} {labels : List Label}
    {s : AirTrafficControl} (distinct : (planeData.map PlaneData.id).Nodup)
    (h : Machine.run step (start planeData) labels = some s) {planeID : Int32}
    (departed : s.Departed planeID) : s.Gone (s.AllEnded planeID) planeID := by
  rcases departed with ⟨msg, handled, exit, own⟩ | ⟨finished, noEntry⟩
  · have left : msg ∈ s.radar.handled.filter (fun msg => msg.planeID = planeID) :=
      List.mem_filter.mpr ⟨handled, decide_eq_true own⟩
    have apart : msg ≠ createEnterAirspaceMessage planeID := by
      rintro rfl
      cases exit
    refine ⟨?_, ?_, ?_, id⟩
    · -- a thread that has announced its departure had announced its entry before
      intro i t place same
      have order := receivedInOrder_run distinct h i t place
      have sent : msg ∈ t.announcements := by
        rw [← order, same, Radar.received, List.filter_append]
        exact List.mem_append_left _ (List.mem_append_left _ left)
      have shape := (announcedInvariant_run h).shape i t place
      cases hp : t.phase with
      | arriving c =>
          rw [hp] at shape
          rw [show t.announcements = [] from shape] at sent
          cases sent
      | sendingEnter =>
          rw [hp] at shape
          rw [show t.announcements = _ from shape, List.mem_singleton, same] at sent
          exact absurd sent apart
      | attaching | moving | sendingExit | receiving | waiting | detaching | ended | abandoned =>
          rfl
    · rintro ⟨entry, busy, enter, again⟩
      have conforms := received_of_id distinct h planeID
      have alone : [entry].filter (fun msg => msg.planeID = planeID) = [entry] := by
        simp [again]
      rw [Radar.received, busy, List.filter_append, alone] at conforms
      rcases Radar.last_of_pair conforms with ⟨first, _⟩ | ⟨_, departure⟩
      · rw [first] at left
        cases left
      · rw [departure] at enter
        cases enter
    · intro here
      exact absurd ⟨msg, handled, exit, own⟩ ((knowsEntered_run distinct h).not_exitHandled here)
  · refine ⟨?_, noEntry, fun _ => finished, id⟩
    intro i t place same
    rw [finished i t place same]
    rfl

theorem activeEmpty_run {planeData : List PlaneData} {labels : List Label}
    {s : AirTrafficControl} (h : Machine.run step (start planeData) labels = some s) :
    s.radar.ActiveEmpty := by
  refine Machine.run_invariant (P := fun s => s.radar.ActiveEmpty) ?_ (fun _ => rfl) h
  intro s label s' empty hstep
  rcases step_moves_radar hstep with same | ⟨l, _, next⟩
  · rw [same]
    exact empty
  · exact Radar.activeEmpty_step empty next

/-- An aircraft that is reported once and leaves the airspace with its second move. -/
def passingPlane : List PlaneData := [⟨0, 7, 99850, 50000, 20000, 100, 0, 0⟩]

/-- Its entry, a pass that reaches it, and its departure. -/
def polledVisit : List Label :=
  entry ++ .aircraft 0 (.attached true) :: .aircraft 0 .move :: pollPass true ++
    [.poll 0, .radar .nextPlane, .radar (.write 1), .aircraft 0 .pulse, .aircraft 0 .move,
      .radar .arrivalLoop, .send 0, .radar .handle]

end AirTrafficControl

end QnxAtc
