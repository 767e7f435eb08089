import QnxAtc.Library.Machine
import Mathlib.Data.List.Basic

/-! # A bulletin

A producer makes one item after the other and waits until each has arrived or got lost;
the board keeps the item that arrived last, and readers copy the board at any time. So
what is copied never goes back: every copy is the board after some number of arrivals,
and the numbers only grow.
-/

structure Bulletin (α : Type*) where
  produced : List α
  pending : Option α
  arrived : List α
  copies : List (Option α)

namespace Bulletin

variable {α : Type*}

inductive Label (α : Type*) where
  | produce (a : α)
  | arrive
  | lose
  | copy

def start : Bulletin α := ⟨[], none, [], []⟩

/-- The item that arrived last. -/
def board (b : Bulletin α) : Option α := b.arrived.getLast?

def step (b : Bulletin α) : Label α → Option (Bulletin α)
  | .produce a =>
      match b.pending with
      | none => some { b with produced := b.produced ++ [a], pending := some a }
      | some _ => none
  | .arrive =>
      match b.pending with
      | none => none
      | some a => some { b with pending := none, arrived := b.arrived ++ [a] }
  | .lose =>
      match b.pending with
      | none => none
      | some _ => some { b with pending := none }
  | .copy => some { b with copies := b.copies ++ [b.board] }

/-- The copies are the boards after growing numbers of arrivals. -/
def InOrder (copies : List (Option α)) (arrived : List α) : Prop :=
  ∃ counts : List Nat, counts.Pairwise (· ≤ ·) ∧ (∀ n ∈ counts, n ≤ arrived.length) ∧
    copies = counts.map fun n => (arrived.take n).getLast?

theorem InOrder.arrive {copies : List (Option α)} {arrived : List α} (h : InOrder copies arrived)
    (a : α) : InOrder copies (arrived ++ [a]) := by
  obtain ⟨counts, grows, bound, rfl⟩ := h
  refine ⟨counts, grows, fun n member => ?_, ?_⟩
  · have := bound n member
    rw [List.length_append]
    omega
  · refine List.map_congr_left fun n member => ?_
    rw [List.take_append_of_le_length (bound n member)]

theorem InOrder.copy {copies : List (Option α)} {arrived : List α} (h : InOrder copies arrived) :
    InOrder (copies ++ [arrived.getLast?]) arrived := by
  obtain ⟨counts, grows, bound, rfl⟩ := h
  refine ⟨counts ++ [arrived.length], ?_, ?_, ?_⟩
  · refine List.pairwise_append.mpr ⟨grows, List.pairwise_singleton _ _, fun n member m last => ?_⟩
    rw [List.mem_singleton.mp last]
    exact bound n member
  · intro n member
    rcases List.mem_append.mp member with old | new
    · exact bound n old
    · exact le_of_eq (List.mem_singleton.mp new)
  · rw [List.map_append, List.map_singleton, List.take_length]

structure OrderInvariant (b : Bulletin α) : Prop where
  /-- nothing arrives twice, out of order or unproduced -/
  once : (b.arrived ++ b.pending.toList).Sublist b.produced
  copies : InOrder b.copies b.arrived

theorem orderInvariant_start : OrderInvariant (start : Bulletin α) :=
  ⟨.slnil, [], List.Pairwise.nil, by simp, rfl⟩

theorem orderInvariant_step (b : Bulletin α) (label : Label α) (b' : Bulletin α)
    (h : OrderInvariant b) (hstep : b.step label = some b') : OrderInvariant b' := by
  have shorter : b.arrived.Sublist b.produced := (List.sublist_append_left _ _).trans h.once
  cases label with
  | produce a =>
      simp only [step] at hstep
      split at hstep <;> cases hstep
      exact ⟨shorter.append (.refl [a]), h.copies⟩
  | arrive =>
      simp only [step] at hstep
      split at hstep <;> cases hstep
      rename_i a waits
      refine ⟨?_, h.copies.arrive a⟩
      have once := h.once
      rw [waits] at once
      simpa using once
  | lose =>
      simp only [step] at hstep
      split at hstep <;> cases hstep
      exact ⟨by simpa using shorter, h.copies⟩
  | copy =>
      cases hstep
      exact ⟨h.once, h.copies.copy⟩

theorem orderInvariant_reached {b : Bulletin α} (h : Machine.Reaches step start b) :
    OrderInvariant b := by
  obtain ⟨labels, run⟩ := h
  exact Machine.run_invariant orderInvariant_step orderInvariant_start run

end Bulletin
