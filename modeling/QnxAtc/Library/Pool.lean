import Mathlib.Data.List.Nodup

/-! # Pools

A pool is a list of components, of which one moves at a time. Facts about every
member are carried over a move by the fact about the one that moved.
-/

namespace Pool

variable {α β : Type*}

/-- After a move a place holds the new component or what it held before. -/
theorem getElem?_set_cases {pool : List α} {i j : Nat} {a b : α}
    (h : (pool.set i a)[j]? = some b) : j = i ∧ b = a ∨ j ≠ i ∧ pool[j]? = some b := by
  by_cases same : j = i
  · subst same
    have bound : j < pool.length := by
      have := (List.getElem?_eq_some_iff.mp h).1
      simpa using this
    rw [List.getElem?_set_self bound, Option.some.injEq] at h
    exact .inl ⟨rfl, h.symm⟩
  · rw [List.getElem?_set_ne (Ne.symm same)] at h
    exact .inr ⟨same, h⟩

/-- The rule for facts about every place. -/
theorem forall_set {pool : List α} {i : Nat} {a : α} {P : Nat → α → Prop}
    (others : ∀ j b, pool[j]? = some b → P j b) (moved : P i a) :
    ∀ j b, (pool.set i a)[j]? = some b → P j b := by
  intro j b h
  rcases getElem?_set_cases h with ⟨rfl, rfl⟩ | ⟨_, old⟩
  · exact moved
  · exact others j b old

theorem getElem?_middle (done todo : List α) (a : α) :
    (done ++ a :: todo)[done.length]? = some a := by
  rw [List.getElem?_append_right (Nat.le_refl _)]
  simp

theorem set_middle (done todo : List α) (a a' : α) :
    (done ++ a :: todo).set done.length a' = done ++ a' :: todo := by
  rw [List.set_append_right _ _ (Nat.le_refl _)]
  simp

/-- A move that keeps a key of the component keeps the keys of the pool. -/
theorem map_set_eq {pool : List α} {i : Nat} {a a' : α} (key : α → β) (at_ : pool[i]? = some a)
    (same : key a' = key a) : (pool.set i a').map key = pool.map key := by
  rw [List.map_set, same]
  apply List.ext_getElem?
  intro j
  by_cases here : i = j
  · subst here
    have bound : i < (pool.map key).length := by
      simpa using (List.getElem?_eq_some_iff.mp at_).1
    rw [List.getElem?_set_self bound, List.getElem?_map, at_, Option.map_some]
  · rw [List.getElem?_set_ne here]

/-- What the components hold together, when one of them gets something more. -/
theorem flatMap_set_perm {pool : List α} {i : Nat} {a a' : α} {f : α → List β} {more : List β}
    (at_ : pool[i]? = some a) (grown : f a' = f a ++ more) :
    ((pool.set i a').flatMap f).Perm (pool.flatMap f ++ more) := by
  induction pool generalizing i with
  | nil => cases at_
  | cons b pool ih =>
      cases i with
      | zero =>
          cases at_
          simp only [List.set_cons_zero, List.flatMap_cons, grown, List.append_assoc]
          exact List.perm_append_comm.append_left _
      | succ i =>
          simp only [List.set_cons_succ, List.flatMap_cons, List.append_assoc]
          exact (ih at_).append_left _

/-- In a pool with distinct keys a key determines its place. -/
theorem eq_of_key_eq {pool : List α} {key : α → β} (distinct : (pool.map key).Nodup) {i j : Nat}
    {a b : α} (hi : pool[i]? = some a) (hj : pool[j]? = some b) (same : key a = key b) : i = j := by
  have bound : i < (pool.map key).length := by
    simpa using (List.getElem?_eq_some_iff.mp hi).1
  apply (List.getElem?_inj bound distinct).mp
  rw [List.getElem?_map, List.getElem?_map, hi, hj, Option.map_some, Option.map_some, same]

end Pool
