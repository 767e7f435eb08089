import QnxAtc.AirPicture.Alerts
import QnxAtc.Display.ReadBack

/-! # The frames

What the frames of a run show: reported aircraft under a timestamp of Radar's clock that
never goes back, with the warnings of a check. Everything there is to a frame can be
read off the screen.
-/

namespace QnxAtc

open OrderedPairs Terminal

/-! ## The clock -/

/-- A step leaves the snapshot alone, clears it, or stamps it. -/
theorem Radar.step_shared {r r' : Radar} {label : Label} (h : r.step label = some r') :
    r'.shared = r.shared ∨ r'.shared = clearedMemory ∨
      ∃ tickCounter, label = .write tickCounter ∧ r'.shared.timestamp = tickCounter := by
  cases step_spec h with
  | handle msg at_ =>
      obtain ⟨planes, same⟩ := r.handleMessage_eq msg
      rw [same]
      exact .inl rfl
  | write polled tickCounter at_ written result =>
      refine .inr (.inr ⟨tickCounter, rfl, ?_⟩)
      unfold writeToSharedMemory at result
      split at result
      · cases result
        rfl
      · split at result <;> cases result
        rfl
  | clear ended => exact .inr (.inl rfl)
  | arrival | receive | loop | pulse | foundPlanes | stillEmpty | nowEmpty | copy | switch | turn
  | gone | openChannel | answer | sendFails | erase | shutdown => exact .inl rfl

theorem AirTrafficControl.step_shared {s s' : AirTrafficControl} {label : Label}
    (h : s.step label = some s') :
    s'.radar.shared = s.radar.shared ∨ s'.radar.shared = Radar.clearedMemory ∨
      ∃ tickCounter, label = .radar (.write tickCounter) ∧
        s'.radar.shared.timestamp = tickCounter := by
  cases step_spec h with
  | aircraft i input t t' at_ may next => exact .inl rfl
  | radar l r may next =>
      rcases Radar.step_shared next with same | cleared | ⟨tickCounter, rfl, stamped⟩
      · exact .inl same
      · exact .inr (.inl cleared)
      · exact .inr (.inr ⟨tickCounter, rfl, stamped⟩)
  | send i t t' msg r at_ pending next received =>
      rcases Radar.step_shared received with same | cleared | ⟨_, other, _⟩
      · exact .inl same
      · exact .inr (.inl cleared)
      · cases other
  | poll i t t' planeID rest r info at_ blocked own next reply answered =>
      rcases Radar.step_shared answered with same | cleared | ⟨_, other, _⟩
      · exact .inl same
      · exact .inr (.inl cleared)
      · cases other

/-- A reader keeps its copy, or takes the one in a snapshot that is not empty. -/
theorem Reader.step_copies {shared : SharedMemory} {r r' : Reader} {label : Label}
    (h : r.step shared label = some r') :
    (r'.timestamp = r.timestamp ∧ r'.planes = r.planes) ∨
      (shared.isEmpty = false ∧ r'.timestamp = shared.timestamp ∧
        r'.planes.length ≤ planeDataCapacity) := by
  unfold step at h
  split at h
  case h_1 | h_2 | h_4 => cases h; exact .inl ⟨rfl, rfl⟩
  case h_3 =>
      split at h
      · cases h; exact .inl ⟨rfl, rfl⟩
      · split at h
        · cases h; exact .inl ⟨rfl, rfl⟩
        · rename_i some_
          split at h
          · rename_i planes copied
            cases h
            obtain ⟨fits, same⟩ := readPlanes_eq_ok.mp copied
            refine .inr ⟨Bool.eq_false_iff.mpr some_, rfl, ?_⟩
            simp only [same, List.length_take]
            omega
          · cases h
  case h_5 => cases h

namespace AirPicture

/-- The snapshot of the ATC process. -/
def shared (s : AirPicture) : SharedMemory := s.surveillance.atc.radar.shared

structure StampInvariant (s : AirPicture) : Prop where
  clock : s.tickCounter.toNat = s.ticks
  snapshot : s.shared.timestamp.toNat ≤ s.ticks
  copied : s.surveillance.display.timestamp.toNat ≤ s.ticks
  fresh : s.shared.isEmpty = true ∨
    s.surveillance.display.timestamp.toNat ≤ s.shared.timestamp.toNat
  ordered : (s.frames.map fun f => f.timestamp.toNat).Pairwise (· ≤ ·)
  last : ∀ f ∈ s.frames, f.timestamp.toNat ≤ s.surveillance.display.timestamp.toNat

/-- What a step of the ATC process or of a reader has to keep. -/
theorem StampInvariant.settle {s : AirPicture} (h : s.StampInvariant)
    (label : Surveillance.Label) {next : Surveillance}
    (snapshot : next.atc.radar.shared.timestamp.toNat ≤ s.ticks)
    (copied : next.display.timestamp.toNat ≤ s.ticks)
    (fresh : next.atc.radar.shared.isEmpty = true ∨
      next.display.timestamp.toNat ≤ next.atc.radar.shared.timestamp.toNat)
    (later : s.surveillance.display.timestamp.toNat ≤ next.display.timestamp.toNat) :
    (s.settle label next).StampInvariant := by
  obtain ⟨-, frames, ticks, tickCounter, -⟩ := s.settle_history label next
  refine ⟨?_, ?_, ?_, ?_, by rw [frames]; exact h.ordered, ?_⟩
  · rw [tickCounter, ticks]
    exact h.clock
  · rwa [shared, settle_surveillance, ticks]
  · rwa [settle_surveillance, ticks]
  · rwa [shared, settle_surveillance]
  · rw [frames, settle_surveillance]
    exact fun f member => le_trans (h.last f member) later

theorem stampInvariant_surveillance {s : AirPicture} {label : Surveillance.Label}
    {next : Surveillance} (h : s.StampInvariant) (may : s.May label)
    (moves : s.surveillance.step label = some next) : (s.settle label next).StampInvariant := by
  cases label with
  | atc l =>
      obtain ⟨atc, moved, rfl⟩ := Option.map_eq_some_iff.mp moves
      rcases AirTrafficControl.step_shared moved with same | cleared | ⟨t, rfl, stamped⟩
      · exact h.settle _ (by rw [same]; exact h.snapshot) h.copied (by rw [same]; exact h.fresh) le_rfl
      · exact h.settle _ (by rw [cleared]; exact Nat.zero_le _) h.copied (.inl (by rw [cleared]; rfl))
          le_rfl
      · have now : t = s.tickCounter := may
        refine h.settle _ ?_ h.copied (.inr ?_) le_rfl
        · rw [stamped, now, h.clock]
        · rw [stamped, now, h.clock]
          exact h.copied
  | monitor l =>
      obtain ⟨monitor, _, rfl⟩ := Option.map_eq_some_iff.mp moves
      exact h.settle _ h.snapshot h.copied h.fresh le_rfl
  | display l =>
      obtain ⟨display, moved, rfl⟩ := Option.map_eq_some_iff.mp moves
      rcases Reader.step_copies moved with ⟨same, _⟩ | ⟨some_, copied, _⟩
      · refine h.settle _ h.snapshot ?_ ?_ ?_ <;> simp only [same]
        · exact h.copied
        · exact h.fresh
        · exact le_rfl
      · -- only a snapshot that is not empty is copied, and that is no older than the last copy
        have later := h.fresh.resolve_left (by
          rw [shared, some_]
          exact Bool.false_ne_true)
        refine h.settle _ h.snapshot ?_ (.inr ?_) ?_ <;> simp only [copied]
        · exact h.snapshot
        · exact le_rfl
        · exact later

theorem stampInvariant_step {s s' : AirPicture} {label : Label} (h : s.StampInvariant)
    (hstep : s.step label = some s') (few : s'.ticks < 2 ^ 64) : s'.StampInvariant := by
  cases step_spec hstep with
  | surveillance l next may moves => exact stampInvariant_surveillance h may moves
  | tick =>
      have clock := h.clock
      have few : s.ticks + 1 < 2 ^ 64 := few
      refine ⟨?_, Nat.le_succ_of_le h.snapshot, Nat.le_succ_of_le h.copied, h.fresh, h.ordered,
        h.last⟩
      rw [UInt64.toNat_add, clock]
      exact Nat.mod_eq_of_lt few
  | change newConstraint => exact ⟨h.clock, h.snapshot, h.copied, h.fresh, h.ordered, h.last⟩
  | check reads pairs used msg busy old found encoded =>
      exact ⟨h.clock, h.snapshot, h.copied, h.fresh, h.ordered, h.last⟩
  | sent msg listener busy taken =>
      exact ⟨h.clock, h.snapshot, h.copied, h.fresh, h.ordered, h.last⟩
  | dropped msg busy => exact ⟨h.clock, h.snapshot, h.copied, h.fresh, h.ordered, h.last⟩
  | listener input listener noAlert moves =>
      exact ⟨h.clock, h.snapshot, h.copied, h.fresh, h.ordered, h.last⟩
  | render busy =>
      refine ⟨h.clock, h.snapshot, h.copied, h.fresh, ?_, ?_⟩
      · rw [List.map_append, List.pairwise_append]
        refine ⟨h.ordered, List.pairwise_singleton _ _, fun n earlier m now => ?_⟩
        obtain ⟨f, member, rfl⟩ := List.mem_map.mp earlier
        rw [List.mem_singleton.mp now]
        exact h.last f member
      · intro f member
        rcases List.mem_append.mp member with earlier | now
        · exact h.last f earlier
        · rw [List.mem_singleton.mp now]

theorem step_ticks {s s' : AirPicture} {label : Label} (h : s.step label = some s') :
    s.ticks ≤ s'.ticks := by
  cases step_spec h with
  | surveillance l next may moves => exact le_of_eq (s.settle_history l next).2.2.1.symm
  | tick => exact Nat.le_succ s.ticks
  | change | check | sent | dropped | listener | render => exact le_rfl

theorem stampInvariant_run {planeData : List PlaneData} {labels : List Label} {s : AirPicture}
    (h : Machine.run step (start planeData) labels = some s) (few : s.ticks < 2 ^ 64) :
    s.StampInvariant := by
  refine Machine.run_invariant (P := fun s => s.ticks < 2 ^ 64 → s.StampInvariant) ?_ ?_ h few
  · intro m label n before last few
    exact stampInvariant_step (before (lt_of_le_of_lt (step_ticks last) few)) last few
  · exact fun _ => ⟨rfl, Nat.le_refl 0, Nat.le_refl 0, .inl rfl, List.Pairwise.nil, by simp [start]⟩

structure ShownInvariant (planeData : List PlaneData) (s : AirPicture) : Prop where
  copied : s.surveillance.display.planes.length ≤ planeDataCapacity
  frames : ∀ f ∈ s.frames, f.planes.length ≤ planeDataCapacity ∧
    ∀ p ∈ f.planes, Reported planeData p

theorem shownInvariant_run {planeData : List PlaneData} {labels : List Label} {s : AirPicture}
    (h : Machine.run step (start planeData) labels = some s) : s.ShownInvariant planeData := by
  refine Machine.run_invariant_of_reached ⟨Nat.zero_le _, by simp [start]⟩ ?_ h
  intro labels m label n before inv last
  cases step_spec last with
  | surveillance l next may moves =>
      obtain ⟨-, frames, -⟩ := m.settle_history l next
      refine ⟨?_, by rw [frames]; exact inv.frames⟩
      rw [settle_surveillance]
      cases l with
      | atc l =>
          obtain ⟨atc, _, rfl⟩ := Option.map_eq_some_iff.mp moves
          exact inv.copied
      | monitor l =>
          obtain ⟨monitor, _, rfl⟩ := Option.map_eq_some_iff.mp moves
          exact inv.copied
      | display l =>
          obtain ⟨display, moved, rfl⟩ := Option.map_eq_some_iff.mp moves
          rcases Reader.step_copies moved with ⟨_, same⟩ | ⟨_, _, fits⟩
          · simp only [same]
            exact inv.copied
          · exact fits
  | render busy =>
      refine ⟨inv.copied, ?_⟩
      intro f member
      rcases List.mem_append.mp member with earlier | now
      · exact inv.frames f earlier
      · obtain ⟨ls, flown⟩ := surveillance_run before
        rw [List.mem_singleton.mp now]
        exact ⟨inv.copied, (Surveillance.seen_reported _ _ _ flown).display⟩
  | tick => exact ⟨inv.copied, inv.frames⟩
  | change newConstraint => exact ⟨inv.copied, inv.frames⟩
  | check reads pairs used msg busy old found encoded => exact ⟨inv.copied, inv.frames⟩
  | sent msg listener busy taken => exact ⟨inv.copied, inv.frames⟩
  | dropped msg busy => exact ⟨inv.copied, inv.frames⟩
  | listener input listener noAlert moves => exact ⟨inv.copied, inv.frames⟩

/-! ## The warnings -/

/-- The warnings in a frame are those of no check or of one that was made. -/
theorem warnings_of_frame {planeData : List PlaneData} {labels : List Label} {s : AirPicture}
    (h : Machine.run step (start planeData) labels = some s) {f : Frame} (shown : f ∈ s.frames) :
    ∃ pairs, f.collisionWarnings = pairs.map collisionWarning ∧
      (pairs = [] ∨ ∃ c ∈ s.checks, pairs = c.collisionPairs) := by
  obtain ⟨b, reached, posts⟩ := posts_run h
  have inv := Bulletin.orderInvariant_reached reached
  have member := List.mem_map_of_mem (f := Frame.collisionWarnings) shown
  rw [posts.copies] at member
  obtain ⟨copy, copied, same⟩ := List.mem_map.mp member
  obtain ⟨counts, -, -, boards⟩ := inv.copies
  rw [boards] at copied
  obtain ⟨n, -, rfl⟩ := List.mem_map.mp copied
  cases last : (b.arrived.take n).getLast? with
  | none =>
      rw [last] at same
      exact ⟨[], same.symm, .inl rfl⟩
  | some c =>
      rw [last] at same
      have arrived : c ∈ b.arrived := List.mem_of_mem_take (List.mem_of_getLast? last)
      have made : c ∈ b.produced := inv.once.subset (List.mem_append_left _ arrived)
      rw [posts.produced] at made
      exact ⟨c.collisionPairs, same.symm, .inr ⟨c, made, rfl⟩⟩

end AirPicture

end QnxAtc
