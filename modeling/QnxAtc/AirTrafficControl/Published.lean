import QnxAtc.AirTrafficControl.Departed

/-! # Aircraft that are published

An aircraft that Radar knows and can reach before a pass is in the snapshot the pass
writes, with a position it reported during the pass. No two aircraft hold the same channel
name at a time, so the answer is its own.
-/

namespace QnxAtc

/-! ## One channel for each name -/

namespace AircraftThread

/-- A thread gets its channel by `name_attach` only. -/
theorem step_attaches {t t' : AircraftThread} {i : Input} (h : t.step i = some t')
    (after : t'.phase.attached = true) : t.phase.attached = true ∨ i = .attached true := by
  cases step_spec h with
  | tick c at_ | enter c at_ | noRadar c at_ | detach at_ => cases after
  | enterSent ok at_ => cases ok <;> cases after
  | attach ok at_ =>
      cases ok with
      | true => exact .inr rfl
      | false => cases after
  | move at_ | exitSent ok at_ | receiveError at_ | receivePulse at_ | answer buffer at_
  | wake at_ =>
      left
      rw [at_]
      rfl

/-- A thread only adds to what it has reported. -/
theorem step_reports {t t' : AircraftThread} {i : Input} (h : t.step i = some t') :
    t.reports <+: t'.reports := by
  cases step_spec h with
  | tick | noRadar | enterSent | attach | exitSent | receiveError | receivePulse | wake
  | detach => exact List.prefix_rfl
  | enter c at_ | answer buffer at_ =>
      exact (List.prefix_append _ _).filterMap Event.record?
  | move at_ =>
      unfold moved
      split
      · exact (List.prefix_append _ _).filterMap Event.record?
      · exact List.prefix_rfl

/-- The answer to a poll is the last report. -/
theorem reports_of_answer {t t' : AircraftThread} {buffer : MessageInterProcess}
    {info : MsgPlaneInfo} (h : t.step (.received (.message buffer)) = some t')
    (reply : (t.aircraft.handle buffer).reply = .planeInfo info) :
    t'.reports = t.reports ++ [info] := by
  cases step_spec h with
  | answer buffer at_ =>
      simp only [reports, answered, List.filterMap_append, reply]
      rfl

end AircraftThread

namespace AirTrafficControl

/-- Two attached threads have different IDs, whatever the file says. -/
def AttachedOnce (s : AirTrafficControl) : Prop :=
  ∀ (i j : Nat) (t u : AircraftThread), s.threads[i]? = some t → s.threads[j]? = some u →
    t.phase.attached = true → u.phase.attached = true → t.aircraft.id = u.aircraft.id → i = j

/-- The step of one thread that does not attach. -/
theorem AttachedOnce.set {s : AirTrafficControl} (h : s.AttachedOnce) {i : Nat}
    {t t' : AircraftThread} (at_ : s.threads[i]? = some t)
    (same : t'.aircraft.id = t.aircraft.id)
    (new : t'.phase.attached = true →
      t.phase.attached = true ∨ ¬ s.Attached t.aircraft.id) (r : Radar) :
    AttachedOnce ⟨s.threads.set i t', r⟩ := by
  have alone : ∀ (j : Nat) (u : AircraftThread), s.threads[j]? = some u →
      u.phase.attached = true → u.aircraft.id = t.aircraft.id → t'.phase.attached = true →
      j = i := by
    intro j u place attached own after
    rcases new after with was | free
    · exact h j i u t place at_ attached was own
    · exact absurd ⟨u, List.mem_of_getElem? place, own, attached⟩ free
  intro j k u v hj hk attachedU attachedV ids
  rcases Pool.getElem?_set_cases hj with ⟨rfl, rfl⟩ | ⟨_, hj⟩
  · rcases Pool.getElem?_set_cases hk with ⟨rfl, rfl⟩ | ⟨_, hk⟩
    · rfl
    · exact (alone k v hk attachedV (ids.symm.trans same) attachedU).symm
  · rcases Pool.getElem?_set_cases hk with ⟨rfl, rfl⟩ | ⟨_, hk⟩
    · exact alone j u ‹_› attachedU (ids.trans same) attachedV
    · exact h j k u v ‹_› ‹_› attachedU attachedV ids

theorem attachedOnce_step (s : AirTrafficControl) (label : Label) (s' : AirTrafficControl)
    (h : s.AttachedOnce) (hstep : s.step label = some s') : s'.AttachedOnce := by
  cases step_spec hstep with
  | aircraft i input t t' at_ may next =>
      refine h.set at_ (AircraftThread.step_id next) ?_ s.radar
      intro after
      rcases AircraftThread.step_attaches next after with was | attach
      · exact .inl was
      · subst attach
        exact .inr (may rfl)
  | radar label r may next => exact h
  | send i t t' msg r at_ pending next received =>
      refine h.set at_ (AircraftThread.step_id next) ?_ r
      intro after
      rcases AircraftThread.step_attaches next after with was | attach
      · exact .inl was
      · cases attach
  | poll i t t' planeID rest r info at_ blocked own next reply answered =>
      refine h.set at_ (AircraftThread.step_id next) ?_ r
      intro after
      rcases AircraftThread.step_attaches next after with was | attach
      · exact .inl was
      · cases attach

theorem attachedOnce_run {planeData : List PlaneData} {labels : List Label}
    {s : AirTrafficControl} (h : Machine.run step (start planeData) labels = some s) :
    s.AttachedOnce := by
  refine Machine.run_invariant attachedOnce_step ?_ h
  intro i j t u place _ attached
  simp only [start, List.getElem?_map, Option.map_eq_some_iff] at place
  obtain ⟨data, here, rfl⟩ := place
  cases attached

end AirTrafficControl

/-! ## A pass that visits an aircraft -/

namespace Radar

/-- A record of the ID among the reports. -/
def Fresh (planeID : Int32) (reports records : List MsgPlaneInfo) : Prop :=
  ∃ info ∈ records, info.id = planeID ∧ info ∈ reports

/-- From the start of a pass on: the pass has still to visit the ID, or has its record. -/
def Visits (planeID : Int32) (reports : List MsgPlaneInfo) (r : Radar) : Prop :=
  match r.update with
  | .polling rest => planeID ∈ rest ∨ Fresh planeID reports r.inactiveBuffer
  | .opening other rest | .sending other rest =>
      planeID ∈ other :: rest ∨ Fresh planeID reports r.inactiveBuffer
  | .unreachable other rest =>
      other ≠ planeID ∧ (planeID ∈ other :: rest ∨ Fresh planeID reports r.inactiveBuffer)
  | .writing true => Fresh planeID reports r.getActiveBuffer
  | .writing false => False
  | _ => True

theorem Fresh.mono {planeID : Int32} {reports reports' records records' : List MsgPlaneInfo}
    (h : Fresh planeID reports records) (grow : reports ⊆ reports') (more : records ⊆ records') :
    Fresh planeID reports' records' := by
  obtain ⟨info, here, own, reported⟩ := h
  exact ⟨info, more here, own, grow reported⟩

theorem Visits.mono {planeID : Int32} {reports reports' : List MsgPlaneInfo} {r : Radar}
    (h : r.Visits planeID reports) (grow : reports ⊆ reports') : r.Visits planeID reports' := by
  unfold Visits at h ⊢
  cases hu : r.update with
  | looping | waiting | testing | copying | ended => trivial
  | polling rest | opening other rest | sending other rest =>
      simp only [hu] at h ⊢
      exact h.imp_right fun fresh => fresh.mono grow (List.Subset.refl _)
  | unreachable other rest =>
      simp only [hu] at h ⊢
      exact ⟨h.1, h.2.imp_right fun fresh => fresh.mono grow (List.Subset.refl _)⟩
  | writing polled =>
      cases polled <;> simp only [hu] at h ⊢
      exact h.mono grow (List.Subset.refl _)

/-- The step does not miss the ID: its channel opens, a request to it does not fail, and its
answer is among the reports. -/
structure Meets (planeID : Int32) (reports : List MsgPlaneInfo) (r : Radar) (label : Label) :
    Prop where
  opens : ∀ rest ok, r.update = .opening planeID rest → label = .openChannel ok → ok = true
  replies : ∀ rest, r.update = .sending planeID rest → label ≠ .sendFails
  answers : ∀ rest info, r.update = .sending planeID rest → label = .answer info →
    info ∈ reports
  noWrite : ∀ tickCounter, label ≠ .write tickCounter

theorem Meets.receive {planeID : Int32} {reports : List MsgPlaneInfo} {r : Radar}
    (msg : Message) : Meets planeID reports r (.receive (.message msg)) := by
  refine ⟨?_, ?_, ?_, ?_⟩
  · intro rest ok _ other
    cases other
  · intro rest _ other
    cases other
  · intro rest info _ other
    cases other
  · intro tickCounter other
    cases other

theorem Meets.answer {planeID : Int32} {reports : List MsgPlaneInfo} {r : Radar}
    {info : MsgPlaneInfo} (own : ∀ rest, r.update = .sending planeID rest → info ∈ reports) :
    Meets planeID reports r (.answer info) := by
  refine ⟨?_, ?_, ?_, ?_⟩
  · intro rest ok _ other
    cases other
  · intro rest _ other
    cases other
  · intro rest info' sending same
    cases same
    exact own rest sending
  · intro tickCounter other
    cases other

theorem visits_step {r r' : Radar} {planeID : Int32} {reports : List MsgPlaneInfo}
    {label : Label} (h : r.Visits planeID reports) (meets : Meets planeID reports r label)
    (member : planeID ∈ r.planesInAirspace) (next : r.step label = some r') :
    r'.Visits planeID reports := by
  cases step_spec next with
  | arrival | receive | shutdown | clear => exact h
  | handle msg at_ =>
      obtain ⟨planes, same⟩ := r.handleMessage_eq msg
      rw [same]
      exact h
  | loop phase at_ goesOn => rcases goesOn with rfl | rfl <;> trivial
  | pulse at_ | foundPlanes at_ found => trivial
  | stillEmpty at_ found was | nowEmpty at_ found was =>
      rw [found] at member
      exact absurd member (Finset.notMem_empty planeID)
  | copy planesToPoll at_ once all =>
      left
      rw [← List.mem_toFinset, all]
      exact member
  | switch at_ =>
      simp only [Visits, at_] at h
      exact h.resolve_left List.not_mem_nil
  | turn other rest at_ here =>
      simp only [Visits, at_] at h
      exact h
  | gone other rest at_ left =>
      simp only [Visits, at_] at h
      refine h.imp_left fun here => (List.mem_cons.mp here).resolve_left ?_
      rintro rfl
      exact left member
  | openChannel other rest at_ ok =>
      simp only [Visits, at_] at h
      cases ok with
      | true => exact h
      | false =>
          refine ⟨?_, h⟩
          rintro rfl
          cases meets.opens rest false at_ rfl
  | answer other rest at_ info own =>
      simp only [Visits, at_] at h
      show planeID ∈ rest ∨ Fresh planeID reports
        (r.setInactiveBuffer (r.inactiveBuffer ++ [info])).inactiveBuffer
      rw [inactiveBuffer_setInactiveBuffer]
      by_cases mine : other = planeID
      · subst mine
        exact .inr ⟨info, List.mem_append_right _ (List.mem_singleton_self info), own,
          meets.answers rest info at_ rfl⟩
      · refine h.imp (fun here => (List.mem_cons.mp here).resolve_left (Ne.symm mine)) ?_
        exact fun fresh => fresh.mono (List.Subset.refl _) (List.subset_append_left _ _)
  | sendFails other rest at_ =>
      simp only [Visits, at_] at h
      refine ⟨?_, h⟩
      rintro rfl
      exact meets.replies rest at_ rfl
  | erase other rest at_ =>
      simp only [Visits, at_] at h
      exact h.2.imp_left fun here => (List.mem_cons.mp here).resolve_left h.1.symm
  | write polled tickCounter at_ written result => exact absurd rfl (meets.noWrite tickCounter)

/-- A member stays one until its departure is handled or it cannot be reached. -/
theorem member_step {r r' : Radar} {planeID : Int32} {label : Label}
    (member : planeID ∈ r.planesInAirspace) (stays : ¬ r'.ExitHandled planeID)
    (reached : ∀ rest, r.update ≠ .unreachable planeID rest) (next : r.step label = some r') :
    planeID ∈ r'.planesInAirspace := by
  cases step_spec next with
  | arrival | receive | loop | pulse | foundPlanes | stillEmpty | nowEmpty | copy | switch | turn
  | gone | openChannel | answer | sendFails | shutdown | clear => exact member
  | handle msg at_ =>
      apply (r.mem_handleMessage msg planeID).mpr
      refine .inr ⟨member, ?_⟩
      rintro ⟨exit, own⟩
      exact stays ⟨msg, List.mem_append_right _ (List.mem_singleton_self msg), exit, own⟩
  | erase other rest at_ =>
      refine Finset.mem_erase.mpr ⟨?_, member⟩
      rintro rfl
      exact reached rest at_
  | write polled tickCounter at_ written result =>
      have frame := (writeToSharedMemory_spec result).frame
      show planeID ∈ written.planesInAirspace
      rw [frame]
      exact member

/-- What has been handled stays handled. -/
theorem step_exitHandled {r r' : Radar} {planeID : Int32} {label : Label}
    (next : r.step label = some r') (was : r.ExitHandled planeID) : r'.ExitHandled planeID := by
  obtain ⟨msg, handled, what⟩ := was
  refine ⟨msg, ?_, what⟩
  cases step_spec next with
  | arrival | receive | loop | pulse | foundPlanes | stillEmpty | nowEmpty | copy | switch | turn
  | gone | openChannel | answer | sendFails | erase | shutdown | clear => exact handled
  | handle other at_ => exact List.mem_append_left _ handled
  | write polled tickCounter at_ written result =>
      have frame := (writeToSharedMemory_spec result).frame
      show msg ∈ written.handled
      rw [frame]
      exact handled

end Radar

namespace AirTrafficControl

/-- One thread in a step of the process. -/
theorem step_follows {s s' : AirTrafficControl} {label : Label} (hstep : s.step label = some s')
    {i : Nat} {t : AircraftThread} (at_ : s.threads[i]? = some t)
    (was : t.phase.attached = true ∨ t.phase = .ended) :
    ∃ t', s'.threads[i]? = some t' ∧ t'.aircraft.id = t.aircraft.id ∧
      (t'.phase.attached = true ∨ t'.phase = .ended) ∧
      (t'.phase.attached = true → t.phase.attached = true) ∧ t.reports <+: t'.reports := by
  rcases step_moves_thread hstep with same | ⟨j, u, input, u', place, next, moved⟩
  · rw [same]
    exact ⟨t, at_, rfl, was, id, List.prefix_rfl⟩
  · rw [moved]
    by_cases own : j = i
    · subst own
      cases at_.symm.trans place
      have bound := (List.getElem?_eq_some_iff.mp at_).1
      have attached : t.phase.attached = true := by
        refine was.resolve_right ?_
        intro ended
        have finished := AircraftThread.step_eq_none_of_finished (i := input) (by rw [ended]; rfl)
        rw [finished] at next
        cases next
      exact ⟨u', List.getElem?_set_self bound, AircraftThread.step_id next,
        AircraftThread.step_attached next attached, fun _ => attached,
        AircraftThread.step_reports next⟩
    · exact ⟨t, (List.getElem?_set_ne own).trans at_, rfl, was, id, List.prefix_rfl⟩

/-- While thread `i` keeps its channel and has not left, Radar has its ID, and the pass under
way visits it or has a record that is not among the first `n` reports of the thread. -/
structure Expects (i : Nat) (planeID : Int32) (n : Nat) (s : AirTrafficControl)
    (t : AircraftThread) : Prop where
  at_ : s.threads[i]? = some t
  own : t.aircraft.id = planeID
  phase : t.phase.attached = true ∨ t.phase = .ended
  reported : n ≤ t.reports.length
  visited : t.phase.attached = true → ¬ s.radar.ExitHandled planeID →
    planeID ∈ s.radar.planesInAirspace ∧ s.radar.Visits planeID (t.reports.drop n)

theorem expects_step {s s' : AirTrafficControl} {label : Label} {i n : Nat} {planeID : Int32}
    {t : AircraftThread} (h : s.Expects i planeID n t) (once : s.AttachedOnce)
    (noWrite : ∀ tickCounter, label ≠ .radar (.write tickCounter))
    (hstep : s.step label = some s') : ∃ t', s'.Expects i planeID n t' := by
  obtain ⟨t', place, same, phase, before, grown⟩ := step_follows hstep h.at_ h.phase
  refine ⟨t', place, same.trans h.own, phase, h.reported.trans grown.length_le, ?_⟩
  intro attached stays
  have fresh : t.reports.drop n ⊆ t'.reports.drop n := (grown.drop n).subset
  have known : ∀ {l : Radar.Label}, s.radar.step l = some s'.radar →
      Radar.Meets planeID (t'.reports.drop n) s.radar l →
      planeID ∈ s'.radar.planesInAirspace ∧ s'.radar.Visits planeID (t'.reports.drop n) := by
    intro l next meets
    obtain ⟨member, visits⟩ := h.visited (before attached)
      fun left => stays (Radar.step_exitHandled next left)
    refine ⟨Radar.member_step member stays ?_ next,
      Radar.visits_step (visits.mono fresh) meets member next⟩
    intro rest unreachable
    simp only [Radar.Visits, unreachable] at visits
    exact visits.1 rfl
  have reachable : s.Attached planeID := ⟨t, List.mem_of_getElem? h.at_, h.own, before attached⟩
  cases step_spec hstep with
  | aircraft j input u u' there may next =>
      obtain ⟨member, visits⟩ := h.visited (before attached) stays
      exact ⟨member, visits.mono fresh⟩
  | radar l r may next =>
      refine known next ⟨?_, ?_, ?_, fun tickCounter other => noWrite tickCounter (by rw [other])⟩
      · rintro rest ok opening rfl
        simp only [RadarMay, opening] at may
        exact may.mpr reachable
      · rintro rest sending rfl
        simp only [RadarMay, sending] at may
        exact may reachable
      · rintro rest info sending rfl
        exact may.elim
  | send j u u' msg r there pending next received =>
      exact known received (.receive msg)
  | poll j u u' other rest r info there blocked own next reply answered =>
      refine known answered (.answer ?_)
      intro rest' sending
      cases blocked.symm.trans sending
      -- the answer comes from the one thread that holds the channel
      have receiving : u.phase.attached = true := by
        cases AircraftThread.step_spec next with
        | answer buffer hp =>
            rw [hp]
            rfl
      have mine : j = i :=
        once j i u t there h.at_ receiving (before attached) (own.trans h.own.symm)
      subst mine
      cases there.symm.trans h.at_
      have bound := (List.getElem?_eq_some_iff.mp there).1
      have moved : some u' = some t' := (List.getElem?_set_self bound).symm.trans place
      cases moved
      rw [AircraftThread.reports_of_answer next reply, List.drop_append_of_le_length h.reported]
      exact List.mem_append_right _ (List.mem_singleton_self info)

/-- Radar is not inside a pass. -/
def BetweenPasses (s : AirTrafficControl) : Prop :=
  s.radar.update = .looping ∨ s.radar.update = .waiting ∨ s.radar.update = .testing ∨
    s.radar.update = .copying

theorem BetweenPasses.visits {s : AirTrafficControl} (h : s.BetweenPasses) (planeID : Int32)
    (reports : List MsgPlaneInfo) : s.radar.Visits planeID reports := by
  unfold Radar.Visits
  rcases h with at_ | at_ | at_ | at_ <;> simp only [at_]

/-- The write that ends the pass publishes the record. -/
theorem Expects.published {s s' : AirTrafficControl} {i n : Nat} {planeID : Int32}
    {t : AircraftThread} {tickCounter : UInt64} (h : s.Expects i planeID n t)
    (attached : t.phase.attached = true) (stays : ¬ s.radar.ExitHandled planeID)
    (hstep : s.step (.radar (.write tickCounter)) = some s') :
    ∃ records, Radar.Publishes s'.radar.shared records ∧
      Radar.Fresh planeID (t.reports.drop n) records := by
  have visits := (h.visited attached stays).2
  cases step_spec hstep with
  | radar label r may next =>
      simp only [Radar.step, Radar.updateStep] at next
      split at next
      case h_11 polled tickCounter at_ same =>
          split at next
          · rename_i written result
            cases next
            refine ⟨_, (Radar.writeToSharedMemory_spec result).publishes, ?_⟩
            simp only [Radar.Visits, at_] at visits
            cases polled with
            | true => exact visits
            | false => exact visits.elim
          · cases next
      all_goals contradiction

/-- Up to the point where the aircraft flies and Radar knows it. -/
def entered : List Label := entry ++ [.aircraft 0 (.attached true), .aircraft 0 .move]

/-- A pass over it, without its write. -/
def passOver : List Label := pollPass true ++ [.poll 0, .radar .nextPlane]

end AirTrafficControl

end QnxAtc
