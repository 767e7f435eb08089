import QnxAtc.AirTrafficControl.Capacity
import QnxAtc.AirTrafficControl.Entered

/-! # The messages between the aircraft and Radar

An aircraft announces its entry and its departure to Radar. Radar receives every
announcement once and in the order of its sender, no send fails, and the set of Radar
holds no aircraft whose departure it has handled.
-/

namespace QnxAtc

def Event.announcement? : Event → Option Message
  | .sentEnter msg | .sentExit msg => some msg
  | _ => none

namespace AircraftThread

/-- What the thread has passed to `MsgSend`, in order. -/
def announcements (t : AircraftThread) : List Message := t.log.filterMap Event.announcement?

/-- The announcements a thread can have made in each phase. -/
def Announces (planeID : Int32) : Phase → List Message → Prop
  | .arriving _, l => l = []
  | .sendingEnter, l | .attaching, l | .moving, l | .receiving, l | .waiting, l =>
      l = [createEnterAirspaceMessage planeID]
  | .sendingExit, l =>
      l = [createEnterAirspaceMessage planeID, createExitAirspaceMessage planeID]
  | .detaching, l | .ended, l | .abandoned, l =>
      l = [] ∨ l = [createEnterAirspaceMessage planeID] ∨
        l = [createEnterAirspaceMessage planeID, createExitAirspaceMessage planeID]

theorem Announces.cases {planeID : Int32} {p : Phase} {l : List Message}
    (h : Announces planeID p l) : l = [] ∨ l = [createEnterAirspaceMessage planeID] ∨
      l = [createEnterAirspaceMessage planeID, createExitAirspaceMessage planeID] := by
  cases p with
  | arriving c => exact .inl h
  | sendingEnter | attaching | moving | receiving | waiting => exact .inr (.inl h)
  | sendingExit => exact .inr (.inr h)
  | detaching | ended | abandoned => exact h

theorem announces_step {t t' : AircraftThread} {i : Input}
    (h : Announces t.aircraft.id t.phase t.announcements) (next : t.step i = some t') :
    Announces t'.aircraft.id t'.phase t'.announcements := by
  rw [step_id next]
  cases step_spec next with
  | tick c at_ =>
      rw [at_] at h
      exact h
  | enter c at_ =>
      rw [at_] at h
      have none_ : t.announcements = [] := h
      show List.filterMap Event.announcement? (t.log ++ [_]) = _
      rw [List.filterMap_append, show t.log.filterMap Event.announcement? = [] from none_]
      rfl
  | noRadar c at_ => exact h.cases
  | enterSent ok at_ | attach ok at_ =>
      rw [at_] at h
      cases ok
      · exact .inr (.inl h)
      · exact h
  | move at_ =>
      rw [at_] at h
      have entered : t.log.filterMap Event.announcement? = _ := h
      unfold moved
      split
      · show List.filterMap Event.announcement? (t.log ++ [_]) = _
        rw [List.filterMap_append, entered]
        rfl
      · exact entered
  | exitSent ok at_ => cases ok <;> exact h.cases
  | receiveError at_ => exact h.cases
  | receivePulse at_ | wake at_ =>
      rw [at_] at h
      exact h
  | answer buffer at_ =>
      rw [at_] at h
      have entered : t.log.filterMap Event.announcement? = _ := h
      have same : (t.answered buffer).announcements =
          [createEnterAirspaceMessage t.aircraft.id] := by
        rw [announcements, answered, List.filterMap_append, entered]
        exact List.append_nil _
      rw [same]
      rcases t.answered_phase buffer with phase | phase
      · rw [phase]
        exact .inr (.inl rfl)
      · rw [phase]
        rfl
  | detach at_ => exact h.cases

/-- What a step does to the announcements and to the one that is under way. -/
theorem step_announcements {t t' : AircraftThread} {i : Input} (h : t.step i = some t')
    (noReply : ∀ ok, i ≠ .sent ok) :
    ∃ more, t'.announcements = t.announcements ++ more ∧
      t'.pendingMessage.toList = t.pendingMessage.toList ++ more := by
  cases step_spec h with
  | tick c at_ | noRadar c at_ | receiveError at_ | receivePulse at_ | wake at_ | detach at_ =>
      exact ⟨[], by simp [announcements], by simp [pendingMessage, at_]⟩
  | enter c at_ =>
      exact ⟨[createEnterAirspaceMessage t.aircraft.id],
        by simp [announcements, Event.announcement?], by simp [pendingMessage, at_]⟩
  | attach ok at_ =>
      refine ⟨[], by simp [announcements], ?_⟩
      cases ok <;> simp [pendingMessage, at_]
  | move at_ =>
      unfold moved
      split
      · exact ⟨[createExitAirspaceMessage t.aircraft.id],
          by simp [announcements, Event.announcement?],
          by simp [pendingMessage, at_, Aircraft.move]⟩
      · exact ⟨[], by simp [announcements], by simp [pendingMessage, at_]⟩
  | answer buffer at_ =>
      refine ⟨[], by simp [announcements, answered, Event.announcement?], ?_⟩
      rcases t.answered_phase buffer with phase | phase <;> simp [pendingMessage, at_, phase]
  | enterSent ok at_ | exitSent ok at_ => exact absurd rfl (noReply ok)

/-- Radar's reply ends the send, which had been announced. -/
theorem sent_announcements {t t' : AircraftThread} (h : t.step (.sent true) = some t') :
    t'.announcements = t.announcements ∧ t'.pendingMessage = none := by
  cases step_spec h with
  | enterSent ok at_ | exitSent ok at_ => exact ⟨rfl, rfl⟩

theorem announces_start (a : Aircraft) :
    Announces (start a).aircraft.id (start a).phase (start a).announcements := rfl

/-- A thread that has made contact with Radar and has not returned. -/
def inContact (t : AircraftThread) : Bool :=
  match t.phase with
  | .arriving _ => false
  | p => !p.finished

/-- Contact is made by opening the channel of Radar. -/
theorem step_inContact {t t' : AircraftThread} {i : Input} (h : t.step i = some t')
    (after : t'.inContact = true) : t.inContact = true ∨ i = .opened true := by
  cases step_spec h with
  | tick c at_ | noRadar c at_ | receiveError at_ | detach at_ => cases after
  | enter c at_ => exact .inr rfl
  | enterSent ok at_ | attach ok at_ | exitSent ok at_ | move at_ | receivePulse at_
  | answer buffer at_ | wake at_ =>
      left
      simp [inContact, at_, Phase.finished]

end AircraftThread

namespace Radar

/-- The messages received so far, in order, with the one that is being handled. -/
def received (r : Radar) : List Message :=
  r.handled ++ match r.arrival with
    | .handling msg => [msg]
    | _ => []

def Label.message? : Label → Option Message
  | .receive (.message msg) => some msg
  | _ => none

/-- Only the arrival thread has to do with messages. -/
theorem updateStep_received {r r' : Radar} {label : Label} (h : r.updateStep label = some r') :
    r'.received = r.received ∧ r'.handled = r.handled ∧ r'.arrival = r.arrival ∧
      r'.stopThreads = r.stopThreads := by
  have same : r'.handled = r.handled ∧ r'.arrival = r.arrival ∧
      r'.stopThreads = r.stopThreads := by
    unfold updateStep at h
    split at h
    case h_1 => cases h; exact ⟨rfl, rfl, rfl⟩
    case h_2 => cases h; exact ⟨rfl, rfl, rfl⟩
    case h_3 => split at h <;> (try split at h) <;> cases h <;> exact ⟨rfl, rfl, rfl⟩
    case h_4 => split at h <;> cases h; exact ⟨rfl, rfl, rfl⟩
    case h_5 => cases h; exact ⟨rfl, rfl, rfl⟩
    case h_6 => split at h <;> cases h <;> exact ⟨rfl, rfl, rfl⟩
    case h_7 => cases h; exact ⟨rfl, rfl, rfl⟩
    case h_8 => split at h <;> cases h; exact ⟨rfl, rfl, rfl⟩
    case h_9 => cases h; exact ⟨rfl, rfl, rfl⟩
    case h_10 => cases h; exact ⟨rfl, rfl, rfl⟩
    case h_11 =>
        split at h
        · rename_i written result
          cases h
          have frame := (writeToSharedMemory_spec result).frame
          exact ⟨by rw [frame], by rw [frame], by rw [frame]⟩
        · cases h
    case h_12 => cases h
  refine ⟨?_, same⟩
  rw [received, received, same.1, same.2.1]

theorem step_received {r r' : Radar} {label : Label} (h : r.step label = some r') :
    r'.received = r.received ++ label.message?.toList := by
  cases label with
  | attach | arrivalLoop =>
      simp only [step, arrivalStep] at h
      split at h
      · rename_i at_
        cases h
        cases hs : r.stopThreads <;> simp [received, at_, Label.message?]
      · cases h
  | receive rcv =>
      simp only [step, arrivalStep] at h
      split at h
      · rename_i at_
        cases rcv with
        | error =>
            cases h
            cases hs : r.stopThreads <;> simp [received, at_, Label.message?]
        | pulse | message msg =>
            cases h
            simp [received, at_, Label.message?]
      · cases h
  | handle =>
      simp only [step, arrivalStep] at h
      split at h
      · rename_i msg at_
        cases h
        simp [received, at_, Label.message?]
      · cases h
  | shutdown =>
      cases h
      exact (List.append_nil _).symm
  | clear =>
      simp only [step, shutdownStep] at h
      split at h <;> cases h
      exact (List.append_nil _).symm
  | updateLoop | pulse | testEmpty | copy | nextPlane | openChannel | answer | sendFails
  | eraseUnreachable | write =>
      rw [(updateStep_received h).1]
      exact (List.append_nil _).symm

/-- Radar stays reachable until its shutdown. -/
theorem step_reachable {r r' : Radar} {label : Label} (h : r.step label = some r')
    (was : r.Reachable) (goesOn : label ≠ .shutdown) : r'.Reachable := by
  obtain ⟨started, running⟩ := was
  cases label with
  | attach =>
      simp only [step, arrivalStep] at h
      split at h
      · cases h
        exact ⟨by simp, running⟩
      · cases h
  | arrivalLoop =>
      simp only [step, arrivalStep] at h
      split at h
      · cases h
        exact ⟨by simp [running], running⟩
      · cases h
  | receive rcv =>
      simp only [step, arrivalStep] at h
      split at h
      · cases rcv <;> cases h <;> exact ⟨by simp [running], running⟩
      · cases h
  | handle =>
      simp only [step, arrivalStep] at h
      split at h
      · rename_i msg at_
        cases h
        obtain ⟨planes, same⟩ := r.handleMessage_eq msg
        refine ⟨by simp, ?_⟩
        rw [same]
        exact running
      · cases h
  | shutdown => exact absurd rfl goesOn
  | clear =>
      simp only [step, shutdownStep] at h
      split at h <;> cases h
      exact ⟨started, running⟩
  | updateLoop | pulse | testEmpty | copy | nextPlane | openChannel | answer | sendFails
  | eraseUnreachable | write =>
      obtain ⟨-, -, arrival, stop⟩ := updateStep_received h
      exact ⟨arrival ▸ started, stop ▸ running⟩

end Radar

namespace AirTrafficControl

/-- Radar can be reached while a thread is in contact with it. -/
def ContactInvariant (s : AirTrafficControl) : Prop :=
  ∀ (i : Nat) (t : AircraftThread), s.threads[i]? = some t → t.inContact = true →
    s.radar.Reachable

theorem contactInvariant_step (s : AirTrafficControl) (label : Label) (s' : AirTrafficControl)
    (h : s.ContactInvariant) (hstep : s.step label = some s') : s'.ContactInvariant := by
  have keeps : ∀ {l : Radar.Label} {r : Radar}, s.radar.step l = some r → l ≠ .shutdown →
      ∀ (j : Nat) (u : AircraftThread), s.threads[j]? = some u → u.inContact = true →
        r.Reachable :=
    fun next goesOn j u place near => Radar.step_reachable next (h j u place near) goesOn
  cases step_spec hstep with
  | aircraft i input t t' at_ may next =>
      refine Pool.forall_set h ?_
      intro near
      rcases AircraftThread.step_inContact next near with was | opened
      · exact h i t at_ was
      · subst opened
        exact may.mp rfl
  | radar label r may next =>
      by_cases stop : label = .shutdown
      · -- the shutdown waits for every aircraft
        subst stop
        intro j u place near
        have returned : u.phase.finished = true := may u (List.mem_of_getElem? place)
        unfold AircraftThread.inContact at near
        split at near
        · cases near
        · rw [returned] at near
          cases near
      · exact keeps next stop
  | send i t t' msg r at_ pending next received =>
      refine Pool.forall_set (keeps received nofun) ?_
      intro near
      rcases AircraftThread.step_inContact next near with was | opened
      · exact keeps received nofun i t at_ was
      · cases opened
  | poll i t t' planeID rest r info at_ blocked own next reply answered =>
      refine Pool.forall_set (keeps answered nofun) ?_
      intro near
      rcases AircraftThread.step_inContact next near with was | opened
      · exact keeps answered nofun i t at_ was
      · cases opened

theorem contactInvariant_start (planeData : List PlaneData) :
    (start planeData).ContactInvariant := by
  intro i t place near
  simp only [start, List.getElem?_map, Option.map_eq_some_iff] at place
  obtain ⟨data, here, rfl⟩ := place
  cases near

/-- What a step does to the messages between the threads and Radar. -/
inductive Exchanges (s s' : AirTrafficControl) : Prop where
  | silent (threads : s'.threads = s.threads) (received : s'.radar.received = s.radar.received)
  | announces (i : Nat) (t t' : AircraftThread) (more : List Message)
      (at_ : s.threads[i]? = some t) (threads : s'.threads = s.threads.set i t')
      (same : t'.aircraft.id = t.aircraft.id)
      (announced : t'.announcements = t.announcements ++ more)
      (pending : t'.pendingMessage.toList = t.pendingMessage.toList ++ more)
      (received : s'.radar.received = s.radar.received)
  | delivers (i : Nat) (t t' : AircraftThread) (msg : Message)
      (at_ : s.threads[i]? = some t) (threads : s'.threads = s.threads.set i t')
      (same : t'.aircraft.id = t.aircraft.id) (announced : t'.announcements = t.announcements)
      (pending : t.pendingMessage = some msg) (done : t'.pendingMessage = none)
      (received : s'.radar.received = s.radar.received ++ [msg])

/-- A send to Radar does not fail, since Radar outlives the aircraft. -/
theorem ContactInvariant.not_sent {s : AirTrafficControl} (h : s.ContactInvariant) {i : Nat}
    {t t' : AircraftThread} {ok : Bool} (at_ : s.threads[i]? = some t)
    (may : s.AircraftMay t (.sent ok)) (next : t.step (.sent ok) = some t') : False := by
  refine may.2 (h i t at_ ?_)
  cases AircraftThread.step_spec next with
  | enterSent ok hp | exitSent ok hp => simp [AircraftThread.inContact, hp, Phase.finished]

theorem step_exchanges {s s' : AirTrafficControl} {label : Label} (h : s.ContactInvariant)
    (hstep : s.step label = some s') : s.Exchanges s' := by
  cases step_spec hstep with
  | aircraft i input t t' at_ may next =>
      have noReply : ∀ ok, input ≠ .sent ok := by
        rintro ok rfl
        exact h.not_sent at_ may next
      obtain ⟨more, announced, pending⟩ := AircraftThread.step_announcements next noReply
      exact .announces i t t' more at_ rfl (AircraftThread.step_id next) announced pending rfl
  | radar label r may next =>
      refine .silent rfl ?_
      have quiet : label.message? = none := by
        unfold Radar.Label.message?
        split
        · exact may.elim
        · rfl
      show r.received = _
      rw [Radar.step_received next, quiet]
      exact List.append_nil _
  | send i t t' msg r at_ pending next received =>
      obtain ⟨announced, done⟩ := AircraftThread.sent_announcements next
      exact .delivers i t t' msg at_ rfl (AircraftThread.step_id next) announced pending done
        (Radar.step_received received)
  | poll i t t' planeID rest r info at_ blocked own next reply answered =>
      obtain ⟨more, announced, pending⟩ := AircraftThread.step_announcements next nofun
      refine .announces i t t' more at_ rfl (AircraftThread.step_id next) announced pending ?_
      show r.received = _
      rw [Radar.step_received answered]
      exact List.append_nil _

/-! ## The account of all messages -/

/-- What was received and what is under way is what was announced. -/
def Accounted (s : AirTrafficControl) : Prop :=
  (s.radar.received ++ s.threads.flatMap fun t => t.pendingMessage.toList).Perm
    (s.threads.flatMap AircraftThread.announcements)

theorem Exchanges.accounted {s s' : AirTrafficControl} (ex : s.Exchanges s') (h : s.Accounted) :
    s'.Accounted := by
  unfold Accounted at h ⊢
  cases ex with
  | silent threads received =>
      rw [threads, received]
      exact h
  | announces i t t' more at_ threads same announced pending received =>
      rw [threads, received]
      have underWay := Pool.flatMap_set_perm (f := fun t => t.pendingMessage.toList) at_ pending
      have made := Pool.flatMap_set_perm (f := AircraftThread.announcements) at_ announced
      refine (underWay.append_left _).trans (.trans ?_ made.symm)
      rw [← List.append_assoc]
      exact h.append_right more
  | delivers i t t' msg at_ threads same announced pending done received =>
      rw [threads, received]
      -- before the step the message was under way at the thread that now stands at `i`
      obtain ⟨bound, there⟩ := List.getElem?_eq_some_iff.mp at_
      have here : (s.threads.set i t')[i]? = some t' := List.getElem?_set_self bound
      have back : (s.threads.set i t').set i t = s.threads := by
        rw [List.set_set, ← there, List.set_getElem_self]
      have less : t.pendingMessage.toList = t'.pendingMessage.toList ++ [msg] := by
        rw [pending, done]
        rfl
      have underWay := Pool.flatMap_set_perm (f := fun t => t.pendingMessage.toList) here less
      have noneNew : t'.announcements = t.announcements ++ [] := by
        rw [announced, List.append_nil]
      have made := Pool.flatMap_set_perm (f := AircraftThread.announcements) at_ noneNew
      rw [back] at underWay
      rw [List.append_nil] at made
      refine .trans ?_ made.symm
      refine .trans ?_ h
      rw [List.append_assoc]
      exact (List.perm_append_comm.trans underWay.symm).append_left _

/-! ## The order at each aircraft -/

/-- What Radar has received with the ID of a thread is what the thread announced, in the same
order, less what is under way. -/
def ReceivedInOrder (s : AirTrafficControl) : Prop :=
  ∀ (i : Nat) (t : AircraftThread), s.threads[i]? = some t →
    s.radar.received.filter (fun msg => msg.planeID = t.aircraft.id) ++
      t.pendingMessage.toList = t.announcements

theorem Exchanges.receivedInOrder {s s' : AirTrafficControl} (ex : s.Exchanges s')
    (distinct : (s.threads.map fun t => t.aircraft.id).Nodup) (h : s.ReceivedInOrder) :
    s'.ReceivedInOrder := by
  unfold ReceivedInOrder at h ⊢
  cases ex with
  | silent threads received =>
      rw [threads, received]
      exact h
  | announces i t t' more at_ threads same announced pending received =>
      rw [threads, received]
      refine Pool.forall_set h ?_
      rw [same, pending, announced, ← List.append_assoc, h i t at_]
  | delivers i t t' msg at_ threads same announced pending done received =>
      have own := AircraftThread.pendingMessage_planeID pending
      rw [threads, received]
      intro j u place
      rw [List.filter_append]
      rcases Pool.getElem?_set_cases place with ⟨rfl, rfl⟩ | ⟨other, place⟩
      · have before := h j t at_
        rw [pending] at before
        rw [same, done, announced, ← before]
        simp [own]
      · -- the IDs differ, so the new message is not among those of `u`
        have apart : ¬ msg.planeID = u.aircraft.id := by
          rw [own]
          intro equal
          exact other (Pool.eq_of_key_eq distinct place at_ equal.symm)
        simpa [apart] using h j u place

structure AnnouncedInvariant (s : AirTrafficControl) : Prop where
  shape : ∀ (i : Nat) (t : AircraftThread), s.threads[i]? = some t →
    AircraftThread.Announces t.aircraft.id t.phase t.announcements
  contact : s.ContactInvariant
  account : s.Accounted

theorem announcedInvariant_start (planeData : List PlaneData) :
    AnnouncedInvariant (start planeData) := by
  refine ⟨?_, contactInvariant_start planeData, ?_⟩
  · intro i t place
    simp only [start, List.getElem?_map, Option.map_eq_some_iff] at place
    obtain ⟨data, here, rfl⟩ := place
    exact AircraftThread.announces_start _
  · unfold Accounted
    induction planeData with
    | nil => exact .refl []
    | cons data planeData ih => exact ih

theorem announcedInvariant_step (s : AirTrafficControl) (label : Label) (s' : AirTrafficControl)
    (h : AnnouncedInvariant s) (hstep : s.step label = some s') : AnnouncedInvariant s' := by
  refine ⟨?_, contactInvariant_step s label s' h.contact hstep,
    (step_exchanges h.contact hstep).accounted h.account⟩
  rcases step_moves_thread hstep with same | ⟨i, t, input, t', at_, next, moved⟩
  · rw [same]
    exact h.shape
  · rw [moved]
    exact Pool.forall_set h.shape (AircraftThread.announces_step (h.shape i t at_) next)

theorem announcedInvariant_run {planeData : List PlaneData} {labels : List Label}
    {s : AirTrafficControl} (h : Machine.run step (start planeData) labels = some s) :
    AnnouncedInvariant s :=
  Machine.run_invariant announcedInvariant_step (announcedInvariant_start planeData) h

theorem threads_ids_start (planeData : List PlaneData) :
    ((start planeData).threads.map fun t => t.aircraft.id) = planeData.map PlaneData.id := by
  simp only [start, List.map_map]
  rfl

theorem threads_ids_run {planeData : List PlaneData} {labels : List Label}
    {s : AirTrafficControl} (h : Machine.run step (start planeData) labels = some s) :
    (s.threads.map fun t => t.aircraft.id) = planeData.map PlaneData.id :=
  Machine.run_invariant
    (P := fun s => (s.threads.map fun t => t.aircraft.id) = planeData.map PlaneData.id)
    (fun s label s' same next => threads_ids_step s label s' same next)
    (threads_ids_start planeData) h

theorem receivedInOrder_run {planeData : List PlaneData} {labels : List Label}
    {s : AirTrafficControl} (distinct : (planeData.map PlaneData.id).Nodup)
    (h : Machine.run step (start planeData) labels = some s) : s.ReceivedInOrder := by
  refine Machine.run_invariant_of_reached (P := ReceivedInOrder) ?_ ?_ h
  · intro i t place
    simp only [start, List.getElem?_map, Option.map_eq_some_iff] at place
    obtain ⟨data, here, rfl⟩ := place
    rfl
  · intro before s label s' run order hstep
    have contact := (announcedInvariant_run run).contact
    exact (step_exchanges contact hstep).receivedInOrder ((threads_ids_run run).symm ▸ distinct)
      order

/-- In every reachable state Radar has received every announcement once, apart from those
under way; an aircraft announces nothing, its entry, or its entry and then its departure;
no send to Radar fails; and when no ID occurs twice in the file, Radar has received the
announcements of each aircraft in their order. -/
theorem announced_once (planeData : List PlaneData) (labels : List Label) (s : AirTrafficControl)
    (h : Machine.run step (start planeData) labels = some s) :
    s.Accounted ∧
    (∀ t ∈ s.threads, t.announcements = [] ∨
      t.announcements = [createEnterAirspaceMessage t.aircraft.id] ∨
      t.announcements = [createEnterAirspaceMessage t.aircraft.id,
        createExitAirspaceMessage t.aircraft.id]) ∧
    (∀ (i : Nat) (ok : Bool), s.step (.aircraft i (.sent ok)) = none) ∧
    ((planeData.map PlaneData.id).Nodup → s.ReceivedInOrder) := by
  have inv := announcedInvariant_run h
  refine ⟨inv.account, ?_, ?_, fun distinct => receivedInOrder_run distinct h⟩
  · intro t mem
    obtain ⟨i, place⟩ := List.mem_iff_getElem?.mp mem
    exact (inv.shape i t place).cases
  · intro i ok
    by_contra enabled
    obtain ⟨s', hstep⟩ := Option.ne_none_iff_exists'.mp enabled
    cases step_spec hstep with
    | aircraft i input t t' at_ may next => exact inv.contact.not_sent at_ may next

/-- An aircraft that leaves the airspace with its first move. -/
def leavingPlane : List PlaneData := [⟨0, 7, 99950, 50000, 20000, 100, 0, 0⟩]

/-- Its entry and its departure, up to the point where Radar has handled both. -/
def visit : List Label :=
  entry ++ [.aircraft 0 (.attached true), .aircraft 0 .move, .radar .arrivalLoop, .send 0,
    .radar .handle]

theorem announced_once_visit :
    ∃ s, Machine.run step (start leavingPlane) visit = some s ∧
      s.radar.received = [createEnterAirspaceMessage 7, createExitAirspaceMessage 7] ∧
      s.Accounted ∧ s.ReceivedInOrder := by
  obtain ⟨s, hs, htest⟩ := Machine.exists_of_map_run step (start leavingPlane) visit
    (fun s => s.radar.received == [createEnterAirspaceMessage 7, createExitAirspaceMessage 7])
    (by with_unfolding_all rfl)
  obtain ⟨account, -, -, order⟩ := announced_once leavingPlane visit s hs
  exact ⟨s, hs, beq_iff_eq.mp htest, account, order (by decide)⟩

/-! ## The set of Radar -/

/-- A message that Radar received was announced by an aircraft with its ID. -/
theorem AnnouncedInvariant.sender {s : AirTrafficControl} (h : AnnouncedInvariant s)
    {msg : Message} (mem : msg ∈ s.radar.received) :
    ∃ t ∈ s.threads, msg.planeID = t.aircraft.id := by
  have announced : msg ∈ s.threads.flatMap AircraftThread.announcements :=
    h.account.subset (List.mem_append_left _ mem)
  obtain ⟨t, here, sent⟩ := List.mem_flatMap.mp announced
  obtain ⟨i, place⟩ := List.mem_iff_getElem?.mp here
  refine ⟨t, here, ?_⟩
  rcases (h.shape i t place).cases with none_ | entered | left
  · rw [none_] at sent
    cases sent
  · rw [entered, List.mem_singleton] at sent
    rw [sent]
    rfl
  · rw [left] at sent
    rcases List.mem_pair.mp sent with rfl | rfl <;> rfl

/-- With one ID the messages are an entry, and then a departure. -/
theorem received_of_id {planeData : List PlaneData} {labels : List Label} {s : AirTrafficControl}
    (distinct : (planeData.map PlaneData.id).Nodup)
    (h : Machine.run step (start planeData) labels = some s) (planeID : Int32) :
    s.radar.received.filter (fun msg => msg.planeID = planeID) <+:
      [createEnterAirspaceMessage planeID, createExitAirspaceMessage planeID] := by
  have inv := announcedInvariant_run h
  by_cases known : ∃ t ∈ s.threads, t.aircraft.id = planeID
  · obtain ⟨t, mem, rfl⟩ := known
    obtain ⟨i, place⟩ := List.mem_iff_getElem?.mp mem
    have order := receivedInOrder_run distinct h i t place
    refine (List.prefix_append _ t.pendingMessage.toList).trans ?_
    rw [order]
    rcases (inv.shape i t place).cases with none_ | entered | left
    · rw [none_]
      exact List.nil_prefix
    · rw [entered]
      exact ⟨_, rfl⟩
    · rw [left]
  · have none_ : s.radar.received.filter (fun msg => msg.planeID = planeID) = [] := by
      apply List.filter_eq_nil_iff.mpr
      intro msg mem own
      obtain ⟨t, here, sender⟩ := inv.sender mem
      exact known ⟨t, here, sender.symm.trans (of_decide_eq_true own)⟩
    rw [none_]
    exact List.nil_prefix

end AirTrafficControl

namespace Radar

/-- Of the messages with the ID of a member, Radar has handled an entry and nothing else. -/
def KnowsEntered (r : Radar) : Prop :=
  ∀ planeID ∈ r.planesInAirspace, r.handled.filter (fun msg => msg.planeID = planeID) =
    [createEnterAirspaceMessage planeID]

/-- The last of some first elements of a pair is its first or its second element. -/
theorem last_of_pair {α : Type*} {l : List α} {a b c : α} (h : l ++ [c] <+: [a, b]) :
    l = [] ∧ c = a ∨ l = [a] ∧ c = b := by
  obtain ⟨rest, same⟩ := h
  match l with
  | [] =>
      cases same
      exact .inl ⟨rfl, rfl⟩
  | [x] =>
      cases same
      exact .inr ⟨rfl, rfl⟩
  | x :: y :: l =>
      have lengths := congrArg List.length same
      simp only [List.cons_append, List.length_cons, List.length_append] at lengths
      omega

theorem KnowsEntered.handle {r : Radar} {msg : Message} (h : r.KnowsEntered)
    (at_ : r.arrival = .handling msg)
    (conforms : ∀ planeID, r.received.filter (fun msg => msg.planeID = planeID) <+:
      [createEnterAirspaceMessage planeID, createExitAirspaceMessage planeID]) :
    KnowsEntered { r.handleMessage msg with
      arrival := .looping, handled := r.handled ++ [msg] } := by
  intro planeID here
  show (r.handled ++ [msg]).filter (fun msg => msg.planeID = planeID) = _
  have member := (r.mem_handleMessage msg planeID).mp here
  by_cases own : msg.planeID = planeID
  · have alone : [msg].filter (fun msg => msg.planeID = planeID) = [msg] := by simp [own]
    have shape := conforms planeID
    rw [received, at_, List.filter_append, alone] at shape
    rw [List.filter_append, alone]
    rcases last_of_pair shape with ⟨first, entry⟩ | ⟨_, departure⟩
    · rw [first, entry]
      rfl
    · -- a departure takes the ID out of the set
      rcases member with ⟨enter, _⟩ | ⟨_, stays⟩
      · rw [departure] at enter
        cases enter
      · exact absurd ⟨by rw [departure]; rfl, own⟩ stays
  · have old : planeID ∈ r.planesInAirspace := by
      rcases member with ⟨_, new⟩ | ⟨old, _⟩
      · exact absurd new own
      · exact old
    have others : [msg].filter (fun msg => msg.planeID = planeID) = [] := by simp [own]
    rw [List.filter_append, others, List.append_nil]
    exact h planeID old

theorem knowsEntered_step {r r' : Radar} {label : Label} (h : r.KnowsEntered)
    (conforms : ∀ planeID, r.received.filter (fun msg => msg.planeID = planeID) <+:
      [createEnterAirspaceMessage planeID, createExitAirspaceMessage planeID])
    (next : r.step label = some r') : r'.KnowsEntered := by
  cases step_spec next with
  | arrival | receive | loop | pulse | foundPlanes | stillEmpty | nowEmpty | copy | switch | turn
  | gone | openChannel | answer | sendFails | shutdown | clear => exact h
  | handle msg at_ => exact h.handle at_ conforms
  | erase planeID rest at_ => exact fun other here => h other (Finset.mem_of_mem_erase here)
  | write polled tickCounter at_ written result =>
      have frame := (writeToSharedMemory_spec result).frame
      have planes : written.planesInAirspace = r.planesInAirspace := by rw [frame]
      have handled : written.handled = r.handled := by rw [frame]
      unfold KnowsEntered at h ⊢
      show ∀ planeID ∈ written.planesInAirspace, written.handled.filter _ = _
      rw [planes, handled]
      exact h

/-- Radar has not handled the departure of a member. -/
theorem KnowsEntered.not_exitHandled {r : Radar} (h : r.KnowsEntered) {planeID : Int32}
    (here : planeID ∈ r.planesInAirspace) : ¬ r.ExitHandled planeID := by
  rintro ⟨msg, handled, exit, own⟩
  have only : msg ∈ r.handled.filter (fun msg => msg.planeID = planeID) :=
    List.mem_filter.mpr ⟨handled, decide_eq_true own⟩
  rw [h planeID here, List.mem_singleton] at only
  rw [only] at exit
  cases exit

end Radar

namespace AirTrafficControl

theorem knowsEntered_run {planeData : List PlaneData} {labels : List Label}
    {s : AirTrafficControl} (distinct : (planeData.map PlaneData.id).Nodup)
    (h : Machine.run step (start planeData) labels = some s) : s.radar.KnowsEntered := by
  refine Machine.run_invariant_of_reached (P := fun s => s.radar.KnowsEntered) ?_ ?_ h
  · intro planeID here
    exact absurd here (Finset.notMem_empty planeID)
  · intro before s label s' run keeps hstep
    rcases step_moves_radar hstep with same | ⟨l, _, next⟩
    · rw [same]
      exact keeps
    · exact Radar.knowsEntered_step keeps (received_of_id distinct run) next

/-- When no ID occurs twice in the file, the set of Radar holds only aircraft whose entry was
handled and whose departure was not: one that has left never comes back into it. -/
theorem known_entered (planeData : List PlaneData) (labels : List Label) (s : AirTrafficControl)
    (distinct : (planeData.map PlaneData.id).Nodup)
    (h : Machine.run step (start planeData) labels = some s) :
    ∀ planeID ∈ s.radar.planesInAirspace, planeID ∈ planeData.map PlaneData.id ∧
      s.radar.EnterHandled planeID ∧ ¬ s.radar.ExitHandled planeID := by
  intro planeID here
  have known := knowsEntered_run distinct h
  have entry : createEnterAirspaceMessage planeID ∈ s.radar.handled := by
    have : createEnterAirspaceMessage planeID ∈
        s.radar.handled.filter (fun msg => msg.planeID = planeID) := by
      rw [known planeID here]
      exact List.mem_singleton_self _
    exact List.mem_of_mem_filter this
  refine ⟨?_, ⟨_, entry, rfl, rfl⟩, known.not_exitHandled here⟩
  obtain ⟨t, member, sender⟩ := (announcedInvariant_run h).sender
    (List.mem_append_left _ entry)
  rw [← threads_ids_run h]
  exact List.mem_map.mpr ⟨t, member, sender.symm⟩

theorem known_entered_visit :
    ∃ s, Machine.run step (start leavingPlane) entry = some s ∧
      7 ∈ s.radar.planesInAirspace ∧ s.radar.EnterHandled 7 ∧ ¬ s.radar.ExitHandled 7 := by
  obtain ⟨s, hs, htest⟩ := Machine.exists_of_map_run step (start leavingPlane) entry
    (fun s => decide (7 ∈ s.radar.planesInAirspace)) (by with_unfolding_all rfl)
  have here : 7 ∈ s.radar.planesInAirspace := of_decide_eq_true htest
  exact ⟨s, hs, here, (known_entered leavingPlane entry s (by decide) hs 7 here).2⟩

end AirTrafficControl

end QnxAtc
