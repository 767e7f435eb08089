import Mathlib.Order.Basic
import Mathlib.Tactic.Linarith

/-! # Counting until a stop or a budget

A loop that counts its rounds from one and ends at the first round where `Stop`
holds, or when a budget of rounds is spent. Two budgets give the same count
exactly when they agree or the stop comes within both.
-/

namespace BoundedCount

/-- `count` is where a loop ends that may make `budget` rounds. -/
structure CountsTo (Stop : Nat → Prop) (budget count : Nat) : Prop where
  pos : 1 ≤ count
  le : count ≤ budget
  running : ∀ n, 1 ≤ n → n < count → ¬ Stop n
  done : count = budget ∨ Stop count

variable {Stop : Nat → Prop} {budget budget' count count' : Nat}

theorem CountsTo.le_of_stop (h : CountsTo Stop budget count) {n : Nat} (hn : 1 ≤ n)
    (stop : Stop n) : count ≤ n := by
  by_contra hlt
  exact h.running n hn (by omega) stop

/-- The loop with the smaller count ran out of budget. -/
theorem CountsTo.eq_budget_of_lt (h : CountsTo Stop budget count)
    (h' : CountsTo Stop budget' count') (hlt : count < count') : count = budget := by
  rcases h.done with spent | stop
  · exact spent
  · exact absurd stop (h'.running count h.pos hlt)

theorem CountsTo.eq_iff (h : CountsTo Stop budget count) (h' : CountsTo Stop budget' count') :
    count = count' ↔
      budget = budget' ∨ ∃ n, 1 ≤ n ∧ n ≤ budget ∧ n ≤ budget' ∧ Stop n := by
  constructor
  · rintro rfl
    rcases h.done with spent | stop
    · rcases h'.done with spent' | stop
      · exact .inl (spent.symm.trans spent')
      · exact .inr ⟨count, h.pos, h.le, h'.le, stop⟩
    · exact .inr ⟨count, h.pos, h.le, h'.le, stop⟩
  · intro hsame
    -- with different counts the smaller one spent its whole budget, on either side
    rcases lt_trichotomy count count' with hlt | heq | hlt
    · have spent := h.eq_budget_of_lt h' hlt
      rcases hsame with rfl | ⟨n, hn, hb, hb', stop⟩
      · have := h'.le
        omega
      · have := h'.le_of_stop hn stop
        omega
    · exact heq
    · have spent := h'.eq_budget_of_lt h hlt
      rcases hsame with rfl | ⟨n, hn, hb, hb', stop⟩
      · have := h.le
        omega
      · have := h.le_of_stop hn stop
        omega

end BoundedCount
