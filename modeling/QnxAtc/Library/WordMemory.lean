import Mathlib.Data.List.Perm.Basic
import Mathlib.Logic.Function.Basic

/-! # Memory, word by word

An object that several parties access is one value for each of its words, and an access
stores or loads one word. The accesses an operation still has to make stand in blocks:
the blocks follow one another, the accesses of one block come in any order.
-/

namespace WordMemory

variable {W : Type*}

section Copy

variable [DecidableEq W] {V : W → Type*}

/-- Store a word of `source` into `target`; a load is a store into the loader's copy. -/
def copyWord (w : W) (source target : (w : W) → V w) : (w : W) → V w :=
  Function.update target w (source w)

@[simp] theorem copyWord_self (w : W) (source target : (w : W) → V w) :
    copyWord w source target w = source w :=
  Function.update_self ..

theorem copyWord_of_ne {w x : W} (h : x ≠ w) (source target : (w : W) → V w) :
    copyWord w source target x = target x :=
  Function.update_of_ne h ..

/-- A copied word agrees with its source, so a copy that agreed before still does. -/
theorem copyWord_agrees {w x : W} {source target other : (w : W) → V w}
    (same : source w = other w) (before : x ≠ w → target x = other x) :
    copyWord w source target x = other x := by
  by_cases h : x = w
  · subst h
    rw [copyWord_self, same]
  · rw [copyWord_of_ne h, before h]

/-- Stored one after the other, in whatever order, the words come to agree with the source. -/
theorem foldl_copyWord (source target : (w : W) → V w) (words : List W) (x : W) :
    words.foldl (fun m w => copyWord w source m) target x =
      if x ∈ words then source x else target x := by
  induction words generalizing target with
  | nil => rfl
  | cons w words ih =>
      rw [List.foldl_cons, ih]
      by_cases later : x ∈ words
      · simp [later]
      · by_cases h : x = w
        · subst h
          simp [later]
        · simp [later, h, copyWord_of_ne h]

/-- Words that are all stored have the result of any order of stores. -/
theorem foldl_copyWord_eq {source target result : (w : W) → V w} {words : List W}
    (stored : ∀ w ∈ words, source w = result w) (kept : ∀ w ∉ words, target w = result w) :
    words.foldl (fun m w => copyWord w source m) target = result := by
  funext w
  rw [foldl_copyWord]
  split
  · exact stored w ‹_›
  · exact kept w ‹_›

end Copy

/-! ## Blocks of accesses -/

/-- Take the access at place `j` of the first block that has any left. -/
def takeAccess : List (List W) → Nat → Option (W × List (List W))
  | [], _ => none
  | [] :: blocks, j => takeAccess blocks j
  | (w :: ws) :: blocks, j =>
      ((w :: ws)[j]?).map fun x => (x, (w :: ws).eraseIdx j :: blocks)

/-- The access that is taken and those that are left are the accesses there were. -/
theorem perm_takeAccess {blocks rest : List (List W)} {j : Nat} {w : W}
    (h : takeAccess blocks j = some (w, rest)) : blocks.flatten.Perm (w :: rest.flatten) := by
  induction blocks with
  | nil => cases h
  | cons block blocks ih =>
      cases block with
      | nil => simpa using ih h
      | cons v vs =>
          obtain ⟨u, place, both⟩ := Option.map_eq_some_iff.mp h
          cases both
          obtain ⟨bound, rfl⟩ := List.getElem?_eq_some_iff.mp place
          have split := List.getElem_cons_eraseIdx_perm bound
          rw [List.flatten_cons, List.flatten_cons]
          exact (split.append_right blocks.flatten).symm

theorem mem_takeAccess {blocks rest : List (List W)} {j : Nat} {w : W}
    (h : takeAccess blocks j = some (w, rest)) (x : W) :
    x ∈ blocks.flatten ↔ x = w ∨ x ∈ rest.flatten := by
  rw [(perm_takeAccess h).mem_iff, List.mem_cons]

/-- A single access leaves none behind. -/
theorem takeAccess_singleton {w x : W} {rest : List (List W)} {j : Nat}
    (h : takeAccess [[w]] j = some (x, rest)) : x = w ∧ rest.flatten = [] := by
  cases j with
  | zero => cases h; exact ⟨rfl, rfl⟩
  | succ j => cases h

/-! ## An operation in progress -/

section Storing

variable [DecidableEq W] {V : W → Type*} {source before memory : (w : W) → V w}
  {blocks pending rest : List (List W)} {j : Nat} {w : W}

/-- The accesses of `blocks`, each a store of `source`, are made one by one since memory
was `before`; those of `pending` are left. -/
def Storing (source before : (w : W) → V w) (blocks pending : List (List W))
    (memory : (w : W) → V w) : Prop :=
  ∃ stored : List W, (stored ++ pending.flatten).Perm blocks.flatten ∧
    memory = stored.foldl (fun m w => copyWord w source m) before

theorem Storing.begin (source before : (w : W) → V w) (blocks : List (List W)) :
    Storing source before blocks blocks before :=
  ⟨[], .refl _, rfl⟩

theorem Storing.store (h : Storing source before blocks pending memory)
    (taken : takeAccess pending j = some (w, rest)) :
    Storing source before blocks rest (copyWord w source memory) := by
  obtain ⟨stored, all, rfl⟩ := h
  refine ⟨stored ++ [w], ?_, ?_⟩
  · rw [List.append_assoc, List.singleton_append]
    exact ((perm_takeAccess taken).symm.append_left stored).trans all
  · rw [List.foldl_append, List.foldl_cons, List.foldl_nil]

/-- When none are left, memory is what the accesses make of it in some order. -/
theorem Storing.complete (h : Storing source before blocks pending memory)
    (none_ : pending.flatten = []) :
    ∃ order : List W, order.Perm blocks.flatten ∧
      memory = order.foldl (fun m w => copyWord w source m) before := by
  obtain ⟨stored, all, stores⟩ := h
  rw [none_, List.append_nil] at all
  exact ⟨stored, all, stores⟩

end Storing

end WordMemory
