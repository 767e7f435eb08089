import Mathlib.Data.List.Infix
import Mathlib.Data.Option.Basic

/-! # Labelled machines

A machine is a partial step function. A label says who moves and how every
choice of the scheduler and of the environment falls, so a list of labels
determines a run. The rules below carry an invariant along a run, and along a run
whose every step meets a guard.
-/

namespace Machine

variable {σ α : Type*}

/-- The state after a list of labels, when every one of them is enabled in turn. -/
def run (step : σ → α → Option σ) : σ → List α → Option σ
  | s, [] => some s
  | s, a :: as => (step s a).bind fun t => run step t as

@[simp] theorem run_nil (step : σ → α → Option σ) (s : σ) : run step s [] = some s := rfl

theorem run_cons_of_step {step : σ → α → Option σ} {s t : σ} {a : α} (h : step s a = some t)
    (as : List α) : run step s (a :: as) = run step t as := by
  simp [run, h]

/-- Split an actual run at any label boundary. -/
theorem run_append (step : σ → α → Option σ) (s : σ) (as bs : List α) :
    run step s (as ++ bs) = (run step s as).bind fun t => run step t bs := by
  induction as generalizing s with
  | nil => rfl
  | cons a as ih =>
      cases h : step s a with
      | none => simp [run, h]
      | some t => simpa [run, h] using ih t

theorem run_append_eq_some {step : σ → α → Option σ} {s t : σ} {as bs : List α} :
    run step s (as ++ bs) = some t ↔
      ∃ m, run step s as = some m ∧ run step m bs = some t := by
  rw [run_append, Option.bind_eq_some_iff]

theorem run_concat_eq_some {step : σ → α → Option σ} {s t : σ} {as : List α} {a : α} :
    run step s (as ++ [a]) = some t ↔ ∃ m, run step s as = some m ∧ step m a = some t := by
  rw [run_append_eq_some]
  simp [run]

/-- A predicate of the first state that every step keeps holds of the last one. -/
theorem run_invariant {step : σ → α → Option σ} {P : σ → Prop}
    (keep : ∀ s a t, P s → step s a = some t → P t) {s t : σ} {as : List α}
    (hs : P s) (h : run step s as = some t) : P t := by
  induction as generalizing s with
  | nil => cases h; exact hs
  | cons a as ih =>
      obtain ⟨m, hm, ht⟩ := Option.bind_eq_some_iff.mp h
      exact ih (keep s a m hs hm) ht

/-- The same rule for a predicate whose steps need to start from a reached state. -/
theorem run_invariant_of_reached {step : σ → α → Option σ} {P : σ → Prop} {s t : σ} {as : List α}
    (hs : P s) (keep : ∀ bs m b n, run step s bs = some m → P m → step m b = some n → P n)
    (h : run step s as = some t) : P t := by
  induction as using List.reverseRecOn generalizing t with
  | nil => cases h; exact hs
  | append_singleton as a ih =>
      obtain ⟨m, before, last⟩ := run_concat_eq_some.mp h
      exact keep as m a t before (ih before) last

/-- A run that was evaluated to its last state, with a test that state passes. -/
theorem exists_of_map_run (step : σ → α → Option σ) (s : σ) (as : List α) (test : σ → Bool)
    (h : (run step s as).map test = some true) : ∃ t, run step s as = some t ∧ test t = true :=
  Option.map_eq_some_iff.mp h

/-! ## Reachability -/

def Reaches (step : σ → α → Option σ) (s t : σ) : Prop := ∃ as, run step s as = some t

theorem Reaches.refl (step : σ → α → Option σ) (s : σ) : Reaches step s s := ⟨[], rfl⟩

theorem Reaches.head {step : σ → α → Option σ} {s t u : σ} {a : α} (h : step s a = some t)
    (rest : Reaches step t u) : Reaches step s u := by
  obtain ⟨as, run⟩ := rest
  exact ⟨a :: as, (run_cons_of_step h as).trans run⟩

theorem Reaches.trans {step : σ → α → Option σ} {s t u : σ} (h : Reaches step s t)
    (rest : Reaches step t u) : Reaches step s u := by
  obtain ⟨as, run₁⟩ := h
  obtain ⟨bs, run₂⟩ := rest
  exact ⟨as ++ bs, run_append_eq_some.mpr ⟨t, run₁, run₂⟩⟩

/-- Forward simulation: when every step of one machine is answered by some steps of the
other, so is every run. -/
theorem Reaches.simulated {τ β : Type*} {step₁ : σ → α → Option σ} {step₂ : τ → β → Option τ}
    {related : σ → τ → Prop}
    (answer : ∀ s a s' t, related s t → step₁ s a = some s' →
      ∃ t', Reaches step₂ t t' ∧ related s' t')
    {s s' : σ} {t : τ} {as : List α} (start : related s t) (h : run step₁ s as = some s') :
    ∃ t', Reaches step₂ t t' ∧ related s' t' := by
  induction as generalizing s t with
  | nil => cases h; exact ⟨t, .refl step₂ t, start⟩
  | cons a as ih =>
      obtain ⟨m, first, rest⟩ := Option.bind_eq_some_iff.mp h
      obtain ⟨u, reach, middle⟩ := answer s a m t start first
      obtain ⟨t', reach', last⟩ := ih middle rest
      exact ⟨t', reach.trans reach', last⟩

/-! ## Guarded runs -/

/-- Every step of the run meets `guard`, which sees the state before the step. -/
def Along (step : σ → α → Option σ) (guard : σ → α → Prop) : σ → List α → Prop
  | _, [] => True
  | s, a :: as => guard s a ∧ ∀ t, step s a = some t → Along step guard t as

/-- A given run can be checked against a decidable guard. -/
instance Along.decidable (step : σ → α → Option σ) (guard : σ → α → Prop)
    [∀ s a, Decidable (guard s a)] : ∀ s as, Decidable (Along step guard s as)
  | _, [] => isTrue trivial
  | s, a :: as =>
      match h : step s a with
      | none => decidable_of_iff (guard s a) (by simp [Along, h])
      | some t =>
          have := Along.decidable step guard t as
          decidable_of_iff (guard s a ∧ Along step guard t as) (by simp [Along, h])

/-- The guarded rule: `keep` may use the guard of the step it is about. -/
theorem run_invariant_along {step : σ → α → Option σ} {guard : σ → α → Prop} {P : σ → Prop}
    (keep : ∀ s a t, P s → guard s a → step s a = some t → P t) {s t : σ} {as : List α}
    (hs : P s) (hg : Along step guard s as) (h : run step s as = some t) : P t := by
  induction as generalizing s with
  | nil => cases h; exact hs
  | cons a as ih =>
      obtain ⟨m, hm, ht⟩ := Option.bind_eq_some_iff.mp h
      exact ih (keep s a m hs hg.1 hm) (hg.2 m hm) ht

/-- The same rule for a condition on the labels alone. -/
theorem run_invariant_of_mem {step : σ → α → Option σ} {P : σ → Prop} {s t : σ} {as : List α}
    (keep : ∀ s a t, P s → a ∈ as → step s a = some t → P t) (hs : P s)
    (h : run step s as = some t) : P t := by
  induction as generalizing s with
  | nil => cases h; exact hs
  | cons a as ih =>
      obtain ⟨m, hm, ht⟩ := Option.bind_eq_some_iff.mp h
      exact ih (fun s b t hP hb => keep s b t hP (List.mem_cons_of_mem a hb))
        (keep s a m hs List.mem_cons_self hm) ht

/-- An invariant that implies the guard of every step it takes makes a run a guarded one. -/
theorem Along.of_invariant {step : σ → α → Option σ} {guard : σ → α → Prop} {P : σ → Prop}
    (keep : ∀ s a t, P s → step s a = some t → P t)
    (imp : ∀ s a t, P s → step s a = some t → guard s a) {s t : σ} {as : List α} (hs : P s)
    (h : run step s as = some t) : Along step guard s as := by
  induction as generalizing s with
  | nil => trivial
  | cons a as ih =>
      obtain ⟨m, hm, ht⟩ := Option.bind_eq_some_iff.mp h
      refine ⟨imp s a m hs hm, ?_⟩
      intro n hn
      have same : m = n := Option.some.inj (hm.symm.trans hn)
      rw [← same]
      exact ih (keep s a m hs hm) ht

/-- Two guards that agree on the steps of a run guard it alike. -/
theorem along_congr {step : σ → α → Option σ} {guard guard' : σ → α → Prop} {P : σ → Prop}
    (keep : ∀ s a t, P s → step s a = some t → P t)
    (same : ∀ s a t, P s → step s a = some t → (guard s a ↔ guard' s a)) {s t : σ} {as : List α}
    (hs : P s) (h : run step s as = some t) :
    Along step guard s as ↔ Along step guard' s as := by
  induction as generalizing s with
  | nil => exact Iff.rfl
  | cons a as ih =>
      obtain ⟨m, hm, ht⟩ := Option.bind_eq_some_iff.mp h
      simp only [Along, hm, Option.some.injEq, forall_eq', same s a m hs hm,
        ih (keep s a m hs hm) ht]

/-! ## Observations -/

variable {β γ : Type*}

/-- What is observed in the steps of a run, in order. -/
def observed (step : σ → α → Option σ) (observe : σ → α → List β) : σ → List α → List β
  | _, [] => []
  | s, a :: as =>
      observe s a ++
        match step s a with
        | none => []
        | some t => observed step observe t as

/-- An account to which every step adds what is observed in it holds all that was observed. -/
theorem run_observed {step : σ → α → Option σ} {observe : σ → α → List β} {P : σ → Prop}
    (account : σ → List γ) (f : β → γ) (keep : ∀ s a t, P s → step s a = some t → P t)
    (adds : ∀ s a t, P s → step s a = some t → account t = account s ++ (observe s a).map f)
    {s t : σ} {as : List α} (hs : P s) (h : run step s as = some t) :
    account t = account s ++ (observed step observe s as).map f := by
  induction as generalizing s with
  | nil => cases h; simp [observed]
  | cons a as ih =>
      obtain ⟨m, hm, ht⟩ := Option.bind_eq_some_iff.mp h
      rw [ih (keep s a m hs hm) ht, adds s a m hs hm]
      simp [observed, hm]

/-- A condition on what may be observed, as a guard of the steps. -/
theorem along_iff_observed {step : σ → α → Option σ} {observe : σ → α → List β} {Q : β → Prop}
    {s : σ} {as : List α} :
    Along step (fun s a => ∀ b ∈ observe s a, Q b) s as ↔
      ∀ b ∈ observed step observe s as, Q b := by
  induction as generalizing s with
  | nil => simp [Along, observed]
  | cons a as ih =>
      cases h : step s a with
      | none => simp [Along, observed, h]
      | some t =>
          simp only [Along, observed, h, Option.some.injEq, forall_eq', ih, List.mem_append,
            or_imp, forall_and]

end Machine
