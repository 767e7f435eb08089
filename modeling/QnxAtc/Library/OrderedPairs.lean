import Mathlib.Data.List.Basic
import Mathlib.Data.List.Perm.Basic
import Mathlib.Data.List.Nodup
import Mathlib.Data.Sym.Sym2
import Mathlib.Tactic.Ring

/-! # Pairs of a list, earlier element first

The pairs two nested loops `i < j` visit, in the order they visit them.
-/

namespace OrderedPairs

variable {α : Type*}

def orderedPairs : List α → List (α × α)
  | [] => []
  | a :: l => l.map (fun b => (a, b)) ++ orderedPairs l

@[simp] theorem orderedPairs_nil : orderedPairs ([] : List α) = [] := rfl

@[simp] theorem orderedPairs_cons (a : α) (l : List α) :
    orderedPairs (a :: l) = l.map (fun b => (a, b)) ++ orderedPairs l := rfl

/-- A list of `n` elements has `n (n - 1) / 2` pairs. -/
theorem two_mul_length_orderedPairs (l : List α) :
    2 * (orderedPairs l).length = l.length * (l.length - 1) := by
  induction l with
  | nil => rfl
  | cons a l ih =>
      rw [orderedPairs_cons, List.length_append, List.length_map, Nat.mul_add, ih]
      simp only [List.length_cons, Nat.add_sub_cancel]
      cases hn : l.length with
      | zero => rfl
      | succ n =>
          rw [Nat.add_sub_cancel]
          ring

theorem forall_orderedPairs_iff {R : α → α → Prop} {l : List α} :
    (∀ p ∈ orderedPairs l, R p.1 p.2) ↔ l.Pairwise R := by
  induction l with
  | nil => simp
  | cons a l ih =>
      rw [orderedPairs_cons, List.forall_mem_append, List.forall_mem_map, List.pairwise_cons, ih]

theorem mem_of_mem_orderedPairs {p : α × α} {l : List α} (h : p ∈ orderedPairs l) :
    p.1 ∈ l ∧ p.2 ∈ l := by
  induction l with
  | nil => cases h
  | cons a l ih =>
      rw [orderedPairs_cons, List.mem_append, List.mem_map] at h
      rcases h with ⟨b, hb, rfl⟩ | later
      · exact ⟨List.mem_cons_self, List.mem_cons_of_mem a hb⟩
      · exact ⟨List.mem_cons_of_mem a (ih later).1, List.mem_cons_of_mem a (ih later).2⟩

/-- What is made of each pair, whichever way round it is met, does not depend on the
order of the list. -/
theorem perm_filterMap_orderedPairs {β : Type*} {g : α × α → Option β}
    (symm : ∀ a b, g (a, b) = g (b, a)) {l l' : List α} (h : l.Perm l') :
    ((orderedPairs l).filterMap g).Perm ((orderedPairs l').filterMap g) := by
  induction h with
  | nil => exact .refl _
  | cons a perm ih =>
      simp only [orderedPairs_cons, List.filterMap_append]
      exact ((perm.map _).filterMap g).append ih
  | swap a b l =>
      -- the pair that changes its direction stands first in both lists
      have split : ∀ c d : α, (orderedPairs (c :: d :: l)).filterMap g =
          (g (c, d)).toList ++ ((l.map fun x => (c, x)).filterMap g ++
            ((l.map fun x => (d, x)).filterMap g ++ (orderedPairs l).filterMap g)) := by
        intro c d
        simp only [orderedPairs_cons, List.map_cons, List.cons_append, List.filterMap_cons,
          List.filterMap_append]
        cases g (c, d) <;> rfl
      rw [split b a, split a b, symm b a]
      refine List.Perm.append_left _ ?_
      rw [← List.append_assoc, ← List.append_assoc]
      exact List.perm_append_comm.append_right _
  | trans _ _ ih1 ih2 => exact ih1.trans ih2

/-- A list without repetitions has each unordered pair once. -/
theorem nodup_map_sym2_orderedPairs {β : Type*} {f : α → β} {l : List α}
    (distinct : (l.map f).Nodup) : ((orderedPairs l).map fun p => s(f p.1, f p.2)).Nodup := by
  induction l with
  | nil => exact List.nodup_nil
  | cons a l ih =>
      obtain ⟨fresh, tail⟩ := List.nodup_cons.mp (List.map_cons ▸ distinct)
      rw [orderedPairs_cons, List.map_append, List.map_map]
      refine List.Nodup.append ?_ (ih tail) ?_
      · have partners : (l.map fun b => s(f a, f b)) = (l.map f).map fun c => s(f a, c) := by
          rw [List.map_map]
          rfl
        exact partners ▸ tail.map fun c d h => Sym2.congr_right.mp h
      · intro e first later
        obtain ⟨b, _, rfl⟩ := List.mem_map.mp first
        obtain ⟨p, hp, same⟩ := List.mem_map.mp later
        obtain ⟨in1, in2⟩ := mem_of_mem_orderedPairs hp
        have meets : f a ∈ s(f p.1, f p.2) := same ▸ Sym2.mem_mk_left _ _
        rcases Sym2.mem_iff.mp meets with h | h
        · exact fresh (h ▸ List.mem_map_of_mem in1)
        · exact fresh (h ▸ List.mem_map_of_mem in2)

end OrderedPairs
