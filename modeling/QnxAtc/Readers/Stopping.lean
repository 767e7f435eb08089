import QnxAtc.AirTrafficControl.System
import QnxAtc.Readers.Reader

/-! # When the readers stop

The ATC process, the Computer System's monitor and the Display over one shared memory.
Both readers end their main loop at the first poll that finds the snapshot empty, and
for good; what arrives in the airspace afterwards is written but not read.
-/

namespace QnxAtc

structure Surveillance where
  atc : AirTrafficControl
  monitor : Reader
  display : Reader

namespace Surveillance

inductive Label where
  | atc (label : AirTrafficControl.Label)
  | monitor (label : Reader.Label)
  | display (label : Reader.Label)

def start (planeData : List PlaneData) : Surveillance :=
  ⟨AirTrafficControl.start planeData, Reader.start, Reader.start⟩

def step (s : Surveillance) : Label → Option Surveillance
  | .atc label => (s.atc.step label).map fun atc => { s with atc := atc }
  | .monitor label =>
      (s.monitor.step s.atc.radar.shared label).map fun monitor => { s with monitor := monitor }
  | .display label =>
      (s.display.step s.atc.radar.shared label).map fun display => { s with display := display }

structure ReadersInvariant (s : Surveillance) : Prop where
  monitor : s.monitor.StopInvariant
  display : s.display.StopInvariant

theorem readersInvariant_step (s : Surveillance) (label : Label) (s' : Surveillance)
    (h : ReadersInvariant s) (hstep : s.step label = some s') : ReadersInvariant s' := by
  cases label with
  | atc label =>
      obtain ⟨atc, _, rfl⟩ := Option.map_eq_some_iff.mp hstep
      exact ⟨h.monitor, h.display⟩
  | monitor label =>
      obtain ⟨monitor, next, rfl⟩ := Option.map_eq_some_iff.mp hstep
      exact ⟨Reader.stopInvariant_step h.monitor next, h.display⟩
  | display label =>
      obtain ⟨display, next, rfl⟩ := Option.map_eq_some_iff.mp hstep
      exact ⟨h.monitor, Reader.stopInvariant_step h.display next⟩

theorem readersInvariant_run {planeData : List PlaneData} {labels : List Label}
    {s : Surveillance} (h : Machine.run step (start planeData) labels = some s) :
    ReadersInvariant s :=
  Machine.run_invariant readersInvariant_step
    ⟨Reader.stopInvariant_start, Reader.stopInvariant_start⟩ h

/-- In every reachable state a reader has stopped exactly when one of the polls of its
main loop found the snapshot empty, and once stopped it does nothing more. -/
theorem readers_stop_iff (planeData : List PlaneData) (labels : List Label) (s : Surveillance)
    (h : Machine.run step (start planeData) labels = some s) :
    (s.monitor.Stopped ↔ s.monitor.FoundEmpty) ∧ (s.display.Stopped ↔ s.display.FoundEmpty) ∧
    (s.monitor.Stopped → ∀ label, s.step (.monitor label) = none) ∧
    (s.display.Stopped → ∀ label, s.step (.display label) = none) := by
  have inv := readersInvariant_run h
  refine ⟨inv.monitor.stops, inv.display.stops, ?_, ?_⟩
  · intro stopped label
    rw [step, Reader.step_eq_none_of_stopped inv.monitor stopped]
    rfl
  · intro stopped label
    rw [step, Reader.step_eq_none_of_stopped inv.display stopped]
    rfl

/-! ## A gap between two aircraft -/

/-- The first aircraft crosses the boundary in its second update, the second one arrives
five seconds later. -/
def gapInTraffic : List PlaneData :=
  [⟨0, 1, 99000, 50000, 20000, 600, 0, 0⟩, ⟨5, 2, 50000, 50000, 20000, 100, 0, 0⟩]

def enters (i : Nat) : List Label :=
  [.atc (.aircraft i (.opened true)), .atc (.radar .arrivalLoop), .atc (.send i),
    .atc (.radar .handle), .atc (.aircraft i (.attached true)), .atc (.aircraft i .move)]

/-- An iteration of Radar that finds exactly aircraft `i`. -/
def polls (i : Nat) (planeID : Int32) (tickCounter : UInt64) : List Label :=
  [.atc (.radar .updateLoop), .atc (.radar .pulse), .atc (.radar .testEmpty),
    .atc (.radar (.copy [planeID])), .atc (.radar .nextPlane),
    .atc (.radar (.openChannel true)), .atc (.poll i), .atc (.radar .nextPlane),
    .atc (.radar (.write tickCounter))]

/-- The readers start while aircraft 1 is in the airspace and poll again when it has left. -/
def untilStopped : List Label :=
  .atc (.radar .attach) :: enters 0 ++ polls 0 1 1 ++
    [.monitor .test, .monitor .poll, .display .test, .display .poll,
      .atc (.aircraft 0 .pulse), .atc (.aircraft 0 .move), .atc (.radar .arrivalLoop),
      .atc (.send 0), .atc (.radar .handle), .atc (.aircraft 0 .detach),
      .atc (.radar .updateLoop), .atc (.radar .pulse), .atc (.radar .testEmpty),
      .atc (.radar (.write 2)), .monitor .tick, .monitor .poll, .display .tick, .display .poll]

/-- Then aircraft 2 enters and is published. -/
def trafficResumes : List Label :=
  untilStopped ++ List.replicate 5 (.atc (.aircraft 1 .pulse)) ++ enters 1 ++ polls 1 2 8

theorem readers_stop_iff_untilStopped :
    ∃ s, Machine.run step (start gapInTraffic) untilStopped = some s ∧
      s.monitor.FoundEmpty ∧ s.display.FoundEmpty := by
  obtain ⟨s, hs, htest⟩ := Machine.exists_of_map_run step (start gapInTraffic)
    untilStopped (fun s => !s.monitor.running && !s.display.running)
    (by decide +kernel)
  simp only [Bool.and_eq_true, Bool.not_eq_true'] at htest
  have stop := readers_stop_iff gapInTraffic untilStopped s hs
  exact ⟨s, hs, stop.1.mp htest.1, stop.2.1.mp htest.2⟩

/-- Aircraft 2 is in a non-empty snapshot that no reader will ever poll. -/
theorem stopped_under_traffic :
    ¬ ∀ (planeData : List PlaneData) (labels : List Label) (s : Surveillance),
        Machine.run step (start planeData) labels = some s →
        ¬ (s.atc.radar.shared.isEmpty = false ∧ 0 < s.atc.radar.shared.count ∧
          (s.monitor.Stopped ∨ s.display.Stopped)) := by
  intro claim
  obtain ⟨s, hs, htest⟩ := Machine.exists_of_map_run step (start gapInTraffic)
    trafficResumes (fun s => !s.atc.radar.shared.isEmpty &&
      decide (0 < s.atc.radar.shared.count) && !s.monitor.running) (by decide +kernel)
  simp only [Bool.and_eq_true, Bool.not_eq_true', decide_eq_true_eq] at htest
  exact claim gapInTraffic trafficResumes s hs ⟨htest.1.1, htest.1.2, .inl htest.2⟩

end Surveillance

end QnxAtc
