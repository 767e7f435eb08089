import QnxAtc.Library.MessagePassing
import Mathlib.Data.Prod.Lex
import Mathlib.Data.List.Nodup
import Mathlib.Order.WellFounded

/-! # A discipline for servers and locks

A ledger says of every point which locks the thread holds there and which message
it still owes a reply. If every operation of a program agrees with its ledger, sends
only down a ranking of the threads and with no lock held, and takes locks only down a
ranking of the locks, then in every reachable state each server has replied exactly once
to what it received, and the threads do not wait for each other in a circle.
-/

namespace MessagePassing

variable {τ ν μ ρ κ ι δ : Type}

structure Ledger (P : Program τ ν μ ρ κ ι δ) where
  Valid : (t : τ) → P.Point t → Prop
  holds : (t : τ) → P.Point t → List κ
  serving : (t : τ) → P.Point t → Option Nat
  rank : τ → Nat
  level : κ → Nat

namespace Ledger

variable {P : Program τ ν μ ρ κ ι δ} (A : Ledger P)

structure Follows (t : τ) (l : P.Point t) (held : List κ) (serving : Option Nat) : Prop where
  valid : A.Valid t l
  holds : A.holds t l = held
  serving : A.serving t l = serving

variable {A} in
theorem Follows.ite {c : Prop} [Decidable c] {t : τ} {l l' : P.Point t} {held : List κ}
    {serving : Option Nat} (yes : A.Follows t l held serving)
    (no : A.Follows t l' held serving) :
    A.Follows t (if c then l else l') held serving := by
  split
  · exact yes
  · exact no

/-- The operation at a point agrees with the ledger of the points after it. -/
def Obeys [DecidableEq κ] (t : τ) (l : P.Point t) : Prop :=
  match P.next t l with
  | .compute after => ∀ input data data' l', after input data = some (data', l') →
      A.Follows t l' (A.holds t l) (A.serving t l)
  | .connect name after => A.Follows t (after none) (A.holds t l) (A.serving t l) ∧
      ∀ u m, A.Valid u m → P.name u m = some name →
        A.Follows t (after (some u)) (A.holds t l) (A.serving t l)
  | .send server _ after => A.holds t l = [] ∧ A.rank server < A.rank t ∧
      ∀ answer, A.Follows t (after answer) (A.holds t l) (A.serving t l)
  | .receive after => A.serving t l = none ∧
      A.Follows t (after .pulse) (A.holds t l) none ∧
      A.Follows t (after .error) (A.holds t l) none ∧
      ∀ rcvid msg, A.Follows t (after (.message rcvid msg)) (A.holds t l) (some rcvid)
  | .reply rcvid _ after => A.serving t l = some rcvid ∧ A.Follows t after (A.holds t l) none
  | .acquire lock after => (∀ held ∈ A.holds t l, A.level lock < A.level held) ∧
      A.Follows t after (lock :: A.holds t l) (A.serving t l)
  | .release lock after => lock ∈ A.holds t l ∧
      A.Follows t after ((A.holds t l).erase lock) (A.serving t l)
  | .join thread after => A.holds t l = [] ∧ A.rank thread < A.rank t ∧
      A.Follows t after (A.holds t l) (A.serving t l)
  | .ended => A.serving t l = none

section

variable {A} [DecidableEq κ] {t : τ} {l : P.Point t}

theorem Obeys.compute {after : ι → δ → Option (δ × P.Point t)}
    (at_ : P.next t l = .compute after)
    (follows : ∀ input data data' l', after input data = some (data', l') →
      A.Follows t l' (A.holds t l) (A.serving t l)) : A.Obeys t l := by
  unfold Obeys
  rw [at_]
  exact follows

theorem Obeys.connect {name : ν} {after : Option τ → P.Point t}
    (at_ : P.next t l = .connect name after)
    (failed : A.Follows t (after none) (A.holds t l) (A.serving t l))
    (opened : ∀ u m, A.Valid u m → P.name u m = some name →
      A.Follows t (after (some u)) (A.holds t l) (A.serving t l)) : A.Obeys t l := by
  unfold Obeys
  rw [at_]
  exact ⟨failed, opened⟩

theorem Obeys.send {server : τ} {msg : μ} {after : Option ρ → P.Point t}
    (at_ : P.next t l = .send server msg after) (free : A.holds t l = [])
    (lower : A.rank server < A.rank t)
    (follows : ∀ answer, A.Follows t (after answer) (A.holds t l) (A.serving t l)) :
    A.Obeys t l := by
  unfold Obeys
  rw [at_]
  exact ⟨free, lower, follows⟩

theorem Obeys.receive {after : Receipt μ → P.Point t} (at_ : P.next t l = .receive after)
    (free : A.serving t l = none) (pulse : A.Follows t (after .pulse) (A.holds t l) none)
    (error : A.Follows t (after .error) (A.holds t l) none)
    (message : ∀ rcvid msg, A.Follows t (after (.message rcvid msg)) (A.holds t l) (some rcvid)) :
    A.Obeys t l := by
  unfold Obeys
  rw [at_]
  exact ⟨free, pulse, error, message⟩

theorem Obeys.reply {rcvid : Nat} {answer : Option ρ} {after : P.Point t}
    (at_ : P.next t l = .reply rcvid answer after) (owes : A.serving t l = some rcvid)
    (follows : A.Follows t after (A.holds t l) none) : A.Obeys t l := by
  unfold Obeys
  rw [at_]
  exact ⟨owes, follows⟩

theorem Obeys.acquire {lock : κ} {after : P.Point t} (at_ : P.next t l = .acquire lock after)
    (lower : ∀ held ∈ A.holds t l, A.level lock < A.level held)
    (follows : A.Follows t after (lock :: A.holds t l) (A.serving t l)) : A.Obeys t l := by
  unfold Obeys
  rw [at_]
  exact ⟨lower, follows⟩

theorem Obeys.release {lock : κ} {after : P.Point t} (at_ : P.next t l = .release lock after)
    (held : lock ∈ A.holds t l)
    (follows : A.Follows t after ((A.holds t l).erase lock) (A.serving t l)) : A.Obeys t l := by
  unfold Obeys
  rw [at_]
  exact ⟨held, follows⟩

theorem Obeys.join {thread : τ} {after : P.Point t} (at_ : P.next t l = .join thread after)
    (free : A.holds t l = []) (lower : A.rank thread < A.rank t)
    (follows : A.Follows t after (A.holds t l) (A.serving t l)) : A.Obeys t l := by
  unfold Obeys
  rw [at_]
  exact ⟨free, lower, follows⟩

theorem Obeys.ended (at_ : P.next t l = .ended) (free : A.serving t l = none) : A.Obeys t l := by
  unfold Obeys
  rw [at_]
  exact free

end

/-- Every point that is reached obeys. -/
def Disciplined [DecidableEq κ] : Prop := ∀ t l, A.Valid t l → A.Obeys t l

end Ledger

/-! ## What a server owes -/

/-- Each of these messages was received and then replied to. -/
def answered (rcvids : List Nat) : List ServerEvent :=
  rcvids.flatMap fun rcvid => [.received rcvid, .replied rcvid]

/-- The log of a server that owes a reply to the message `serving` and to no other. -/
def Answering (log : List ServerEvent) (serving : Option Nat) (nextRcvid : Nat) : Prop :=
  ∃ rcvids, log = answered rcvids ++ serving.toList.map .received ∧
    (rcvids ++ serving.toList).Nodup ∧ ∀ rcvid ∈ rcvids ++ serving.toList, rcvid < nextRcvid

/-- Every message received was replied to exactly once, before the next one was received. -/
def AnsweredOnce (log : List ServerEvent) : Prop :=
  ∃ rcvids : List Nat, log = answered rcvids ∧ rcvids.Nodup

theorem Answering.start : Answering [] none 1 := ⟨[], rfl, List.nodup_nil, by simp⟩

theorem Answering.later {log : List ServerEvent} {serving : Option Nat} {n m : Nat}
    (h : Answering log serving n) (le : n ≤ m) : Answering log serving m := by
  obtain ⟨rcvids, shape, once, bound⟩ := h
  exact ⟨rcvids, shape, once, fun rcvid hr => (bound rcvid hr).trans_le le⟩

/-- A message gets an identifier that no earlier one had. -/
theorem Answering.receive {log : List ServerEvent} {n : Nat} (h : Answering log none n) :
    Answering (log ++ [.received n]) (some n) (n + 1) := by
  obtain ⟨rcvids, shape, once, bound⟩ := h
  simp only [Option.toList_none, List.append_nil, List.map_nil] at shape once bound
  refine ⟨rcvids, by rw [shape]; rfl, ?_, ?_⟩
  · refine List.nodup_append'.mpr ⟨once, List.nodup_singleton n, ?_⟩
    intro r hr new
    rw [Option.toList_some, List.mem_singleton] at new
    have := bound r hr
    omega
  · intro r hr
    rcases List.mem_append.mp hr with old | new
    · exact (bound r old).trans (Nat.lt_succ_self n)
    · rw [Option.toList_some, List.mem_singleton] at new
      omega

theorem Answering.reply {log : List ServerEvent} {rcvid n : Nat}
    (h : Answering log (some rcvid) n) : Answering (log ++ [.replied rcvid]) none n := by
  obtain ⟨rcvids, shape, once, bound⟩ := h
  refine ⟨rcvids ++ [rcvid], ?_, ?_, ?_⟩
  · rw [shape]
    simp [answered]
  · simpa using once
  · simpa using bound

theorem Answering.once {log : List ServerEvent} {n : Nat} (h : Answering log none n) :
    AnsweredOnce log := by
  obtain ⟨rcvids, shape, once, -⟩ := h
  exact ⟨rcvids, by simpa using shape, by simpa using once⟩

/-! ## The invariant of a disciplined program -/

variable {P : Program τ ν μ ρ κ ι δ} {A : Ledger P}

structure Invariant (A : Ledger P) (s : State P) : Prop where
  valid : ∀ t, A.Valid t (s.point t)
  sending : ∀ t server, (s.status t).server? = some server →
    ∃ msg after, P.next t (s.point t) = .send server msg after
  nodup : ∀ t, (A.holds t (s.point t)).Nodup
  held : ∀ t lock, t ∈ (s.locks lock).holders ↔ lock ∈ A.holds t (s.point t)
  answering : ∀ t, Answering (s.log t) (A.serving t (s.point t)) s.nextRcvid

namespace Invariant

/-- A thread that is not at a send is not blocked in one. -/
theorem ne_of_waits {s : State P} (inv : Invariant A s) {t u server : τ}
    (elsewhere : ∀ server msg after, P.next t (s.point t) ≠ .send server msg after)
    (waits : (s.status u).server? = some server) : u ≠ t := by
  rintro rfl
  obtain ⟨msg, after, sends⟩ := inv.sending u server waits
  exact elsewhere server msg after sends

theorem start {point : (t : τ) → P.Point t} {data : δ} (valid : ∀ t, A.Valid t (point t))
    (holds : ∀ t, A.holds t (point t) = []) (serving : ∀ t, A.serving t (point t) = none) :
    Invariant A (State.start point data) where
  valid := valid
  sending := by simp [State.start, Status.server?]
  nodup := by simp [State.start, holds]
  held := by simp [State.start, holds, Semaphore.init]
  answering := by
    intro t
    rw [State.start, serving]
    exact .start

/-- A server that receives again, or ends, has replied to everything. -/
theorem answeredOnce [DecidableEq κ] {s : State P} (disciplined : A.Disciplined)
    (inv : Invariant A s) {t : τ}
    (free : (∃ after, P.next t (s.point t) = .receive after) ∨ P.next t (s.point t) = .ended) :
    AnsweredOnce (s.log t) := by
  have obeys := disciplined t (s.point t) (inv.valid t)
  have none_ : A.serving t (s.point t) = none := by
    rcases free with ⟨after, at_⟩ | at_
    · rw [Ledger.Obeys, at_] at obeys
      exact obeys.1
    · rw [Ledger.Obeys, at_] at obeys
      exact obeys
  have answering := inv.answering t
  rw [none_] at answering
  exact answering.once

variable [DecidableEq τ]

/-- A thread moves on, and what it holds and owes changes as its ledger says. -/
theorem move {s s' : State P} (inv : Invariant A s) {t : τ} {l : P.Point t} {held : List κ}
    {serving : Option Nat} (follows : A.Follows t l held serving)
    (point : s'.point = Function.update s.point t l)
    (status : ∀ u server, (s'.status u).server? = some server →
      u ≠ t ∧ (s.status u).server? = some server)
    (nodup : held.Nodup) (locks : ∀ lock, t ∈ (s'.locks lock).holders ↔ lock ∈ held)
    (otherLocks : ∀ u, u ≠ t → ∀ lock,
      u ∈ (s'.locks lock).holders ↔ u ∈ (s.locks lock).holders)
    (log : Answering (s'.log t) serving s'.nextRcvid)
    (otherLog : ∀ u, u ≠ t → s'.log u = s.log u) (later : s.nextRcvid ≤ s'.nextRcvid) :
    Invariant A s' := by
  have here : s'.point t = l := by rw [point, Function.update_self]
  have there : ∀ u, u ≠ t → s'.point u = s.point u := by
    intro u other
    rw [point, Function.update_of_ne other]
  refine ⟨?_, ?_, ?_, ?_, ?_⟩
  · intro u
    by_cases other : u = t
    · subst other
      rw [here]
      exact follows.valid
    · rw [there u other]
      exact inv.valid u
  · intro u server waits
    obtain ⟨other, before⟩ := status u server waits
    rw [there u other]
    exact inv.sending u server before
  · intro u
    by_cases other : u = t
    · subst other
      rw [here, follows.holds]
      exact nodup
    · rw [there u other]
      exact inv.nodup u
  · intro u lock
    by_cases other : u = t
    · subst other
      rw [here, follows.holds]
      exact locks lock
    · rw [there u other, otherLocks u other]
      exact inv.held u lock
  · intro u
    by_cases other : u = t
    · subst other
      rw [here, follows.serving]
      exact log
    · rw [there u other, otherLog u other]
      exact (inv.answering u).later later

/-- A thread moves on and nothing changes hands. -/
theorem goto {s : State P} (inv : Invariant A s) {t : τ} {l : P.Point t}
    (follows : A.Follows t l (A.holds t (s.point t)) (A.serving t (s.point t)))
    (elsewhere : ∀ server msg after, P.next t (s.point t) ≠ .send server msg after) (data : δ) :
    Invariant A { s.goto t l with data := data } :=
  inv.move follows rfl (fun _ _ waits => ⟨inv.ne_of_waits elsewhere waits, waits⟩) (inv.nodup t)
    (inv.held t) (fun _ _ _ => Iff.rfl) (inv.answering t) (fun _ _ => rfl) le_rfl

theorem setStatus {s : State P} (inv : Invariant A s) {t : τ} {status : Status τ}
    (sending : ∀ server, status.server? = some server →
      ∃ msg after, P.next t (s.point t) = .send server msg after) :
    Invariant A (s.setStatus t status) := by
  refine ⟨inv.valid, ?_, inv.nodup, inv.held, inv.answering⟩
  intro u server waits
  by_cases other : u = t
  · subst other
    rw [State.setStatus_self] at waits
    exact sending server waits
  · rw [State.setStatus_of_ne _ _ other] at waits
    exact inv.sending u server waits

/-- A send comes back, with an answer or without. -/
theorem sent {s : State P} (inv : Invariant A s) {t : τ} {l : P.Point t}
    (follows : A.Follows t l (A.holds t (s.point t)) (A.serving t (s.point t))) :
    Invariant A ((s.goto t l).setStatus t .running) := by
  refine inv.move follows rfl ?_ (inv.nodup t) (inv.held t) (fun _ _ _ => Iff.rfl)
    (inv.answering t) (fun _ _ => rfl) le_rfl
  intro u server waits
  by_cases other : u = t
  · subst other
    rw [State.setStatus_self] at waits
    cases waits
  · rw [State.setStatus_of_ne _ _ other] at waits
    exact ⟨other, waits⟩

theorem accept {s : State P} (inv : Invariant A s) {t : τ} {l : P.Point t} {client : Option τ}
    (owes : A.serving t (s.point t) = none)
    (follows : A.Follows t l (A.holds t (s.point t)) (some s.nextRcvid))
    (elsewhere : ∀ server msg after, P.next t (s.point t) ≠ .send server msg after) :
    Invariant A (s.accept t client l) := by
  have log : Answering ((s.accept t client l).log t) (some s.nextRcvid) (s.nextRcvid + 1) := by
    have before := inv.answering t
    rw [owes] at before
    simpa [State.accept] using before.receive
  exact inv.move follows rfl (fun _ _ waits => ⟨inv.ne_of_waits elsewhere waits, waits⟩)
    (inv.nodup t) (inv.held t) (fun _ _ _ => Iff.rfl) log
    (fun u other => by simp [State.accept, other]) (Nat.le_succ _)

theorem wake_log (s : State P) (t : τ) (rcvid : Nat) (answer : Option ρ) :
    (s.wake t rcvid answer).log = s.log := by
  unfold State.wake
  split
  · rfl
  · split
    · split <;> rfl
    · rfl

theorem reply {s : State P} (inv : Invariant A s) {t : τ} {l : P.Point t} {rcvid : Nat}
    (owes : A.serving t (s.point t) = some rcvid)
    (follows : A.Follows t l (A.holds t (s.point t)) none)
    (elsewhere : ∀ server msg after, P.next t (s.point t) ≠ .send server msg after) :
    Invariant A { s.goto t l with
      log := Function.update s.log t (s.log t ++ [.replied rcvid]) } := by
  have log : Answering (Function.update s.log t (s.log t ++ [.replied rcvid]) t) none
      s.nextRcvid := by
    have before := inv.answering t
    rw [owes] at before
    rw [Function.update_self]
    exact before.reply
  refine inv.move follows rfl (fun _ _ waits => ⟨inv.ne_of_waits elsewhere waits, waits⟩)
    (inv.nodup t) (inv.held t) (fun _ _ _ => Iff.rfl) log ?_ le_rfl
  intro u other
  simp [other]

variable [DecidableEq κ]

theorem wake {s : State P} (disciplined : A.Disciplined) (inv : Invariant A s) (t : τ)
    (rcvid : Nat) (answer : Option ρ) : Invariant A (s.wake t rcvid answer) := by
  unfold State.wake
  split
  · exact inv
  · rename_i c _
    split
    · split
      · rename_i sends
        have obeys := disciplined c (s.point c) (inv.valid c)
        rw [Ledger.Obeys, sends] at obeys
        exact inv.sent (obeys.2.2 answer)
      · exact inv
    · exact inv

theorem acquire {s : State P} (inv : Invariant A s) {t : τ} {l : P.Point t} {lock : κ}
    {semaphore : Semaphore τ 1} (taken : (s.locks lock).wait t = some semaphore)
    (fresh : lock ∉ A.holds t (s.point t))
    (follows : A.Follows t l (lock :: A.holds t (s.point t)) (A.serving t (s.point t)))
    (elsewhere : ∀ server msg after, P.next t (s.point t) ≠ .send server msg after) :
    Invariant A { s.goto t l with locks := Function.update s.locks lock semaphore } := by
  have free := Semaphore.free_of_wait taken
  have mine := Semaphore.holders_of_wait taken
  rw [free] at mine
  refine inv.move follows rfl (fun _ _ waits => ⟨inv.ne_of_waits elsewhere waits, waits⟩)
    (List.nodup_cons.mpr ⟨fresh, inv.nodup t⟩) ?_ ?_ (inv.answering t) (fun _ _ => rfl) le_rfl
  · intro other
    by_cases same : other = lock
    · subst same
      simp [mine]
    · simpa [same] using inv.held t other
  · intro u ne other
    by_cases same : other = lock
    · subst same
      simp [mine, free, ne]
    · simp [same]

theorem release {s : State P} (inv : Invariant A s) {t : τ} {l : P.Point t} {lock : κ}
    {semaphore : Semaphore τ 1} (given : (s.locks lock).post t = some semaphore)
    (follows : A.Follows t l ((A.holds t (s.point t)).erase lock) (A.serving t (s.point t)))
    (elsewhere : ∀ server msg after, P.next t (s.point t) ≠ .send server msg after) :
    Invariant A { s.goto t l with locks := Function.update s.locks lock semaphore } := by
  obtain ⟨mine, after⟩ := Semaphore.holders_of_post given
  have only := Semaphore.holders_of_holds mine
  rw [only, List.erase_cons_head] at after
  refine inv.move follows rfl (fun _ _ waits => ⟨inv.ne_of_waits elsewhere waits, waits⟩)
    ((inv.nodup t).erase lock) ?_ ?_ (inv.answering t) (fun _ _ => rfl) le_rfl
  · intro other
    rw [(inv.nodup t).mem_erase_iff, ← inv.held t other]
    by_cases same : other = lock
    · subst same
      simp [after]
    · simp [same]
  · intro u ne other
    by_cases same : other = lock
    · subst same
      simp [after, only, ne]
    · simp [same]

variable [DecidableEq ν]

/-- The step lemma: what a thread does at a point is what its ledger expects. -/
theorem step {s s' : State P} {label : Label τ μ ι} (disciplined : A.Disciplined)
    (inv : Invariant A s) (h : s.step label = some s') : Invariant A s' := by
  have obeys : ∀ t, A.Obeys t (s.point t) := fun t => disciplined t (s.point t) (inv.valid t)
  cases State.step_spec h with
  | @compute t _ _ data _ at_ result =>
      have spec := obeys t
      rw [Ledger.Obeys, at_] at spec
      exact inv.goto (spec _ _ _ _ result) (by simp [at_]) data
  | @connect t server _ _ at_ found =>
      have spec := obeys t
      rw [Ledger.Obeys, at_] at spec
      refine inv.goto ?_ (by simp [at_]) s.data
      cases server with
      | none => exact spec.1
      | some u => exact spec.2 u (s.point u) (inv.valid u) (found u rfl)
  | @send t server msg after at_ _ =>
      refine inv.setStatus ?_
      intro other blocked
      cases blocked
      exact ⟨msg, after, at_⟩
  | @sendFails t _ _ _ at_ =>
      have spec := obeys t
      rw [Ledger.Obeys, at_] at spec
      exact inv.sent (spec.2.2 none)
  | @receive t client _ msg after _ at_ _ blocked =>
      have spec := obeys t
      rw [Ledger.Obeys, at_] at spec
      have accepted : Invariant A
          (s.accept t (some client) (after (.message s.nextRcvid msg))) :=
        inv.accept spec.1 (spec.2.2.2 s.nextRcvid msg) (by simp [at_])
      refine accepted.setStatus ?_
      intro server waits
      cases waits
      exact accepted.sending client t (congrArg Status.server? blocked)
  | @receiveForeign t msg _ at_ =>
      have spec := obeys t
      rw [Ledger.Obeys, at_] at spec
      exact inv.accept spec.1 (spec.2.2.2 s.nextRcvid msg) (by simp [at_])
  | @receiveNothing t _ _ receipt at_ nothing =>
      have spec := obeys t
      rw [Ledger.Obeys, at_] at spec
      refine inv.goto ?_ (by simp [at_]) s.data
      rw [spec.1]
      rcases nothing with rfl | rfl
      · exact spec.2.1
      · exact spec.2.2.1
  | @reply t rcvid answer after at_ =>
      have spec := obeys t
      rw [Ledger.Obeys, at_] at spec
      have elsewhere : ∀ server msg after, P.next t (s.point t) ≠ .send server msg after := by
        simp [at_]
      have still : (s.wake t rcvid answer).point t = s.point t := by
        rcases s.wake_point t t rcvid answer with same | ⟨server, msg, after, sends, _⟩
        · exact same
        · exact absurd sends (elsewhere server msg after)
      have owes : A.serving t ((s.wake t rcvid answer).point t) = some rcvid := by
        rw [still]
        exact spec.1
      have replied := (inv.wake disciplined t rcvid answer).reply (l := after) owes
        (by rw [still]; exact spec.2) (by rw [still]; exact elsewhere)
      rw [wake_log] at replied
      exact replied
  | @acquire t lock _ _ at_ taken =>
      have spec := obeys t
      rw [Ledger.Obeys, at_] at spec
      refine inv.acquire taken ?_ spec.2 (by simp [at_])
      intro held
      exact lt_irrefl _ (spec.1 lock held)
  | @release t _ _ _ at_ given =>
      have spec := obeys t
      rw [Ledger.Obeys, at_] at spec
      exact inv.release given spec.2 (by simp [at_])
  | @join t _ _ at_ _ =>
      have spec := obeys t
      rw [Ledger.Obeys, at_] at spec
      exact inv.goto spec.2.2 (by simp [at_]) s.data

/-- The run lemma. -/
theorem run {s s' : State P} {labels : List (Label τ μ ι)} (disciplined : A.Disciplined)
    (inv : Invariant A s) (h : Machine.run State.step s labels = some s') : Invariant A s' :=
  Machine.run_invariant (fun _ _ _ before h => before.step disciplined h) inv h

end Invariant

/-! ## Who waits for whom -/

inductive WaitsFor (s : State P) : τ → τ → Prop where
  | message {t u : τ} (blocked : (s.status t).server? = some u) : WaitsFor s t u
  | lock {t u : τ} {lock : κ} {after} (at_ : P.next t (s.point t) = .acquire lock after)
      (held : u ∈ (s.locks lock).holders) : WaitsFor s t u
  | thread {t u : τ} {after} (at_ : P.next t (s.point t) = .join u after) : WaitsFor s t u

/-- Senders above those who wait for a lock, and among each of them the ranking. -/
def Ledger.depth (A : Ledger P) (t : τ) (l : P.Point t) : ℕ ×ₗ ℕ :=
  match P.next t l with
  | .send .. | .join .. => toLex (1, A.rank t)
  | .acquire lock _ => toLex (0, A.level lock + 1)
  | _ => toLex (0, 0)

theorem Ledger.depth_lt_of_rank {t u : τ} {l : P.Point u} (lower : A.rank u < A.rank t) :
    A.depth u l < toLex (1, A.rank t) := by
  unfold Ledger.depth
  split
  · exact Prod.Lex.toLex_lt_toLex.mpr (.inr ⟨rfl, lower⟩)
  · exact Prod.Lex.toLex_lt_toLex.mpr (.inr ⟨rfl, lower⟩)
  · exact Prod.Lex.toLex_lt_toLex.mpr (.inl Nat.zero_lt_one)
  · exact Prod.Lex.toLex_lt_toLex.mpr (.inl Nat.zero_lt_one)

variable [DecidableEq κ]

theorem WaitsFor.depth_lt {s : State P} {t u : τ} (disciplined : A.Disciplined)
    (inv : Invariant A s) (h : WaitsFor s t u) :
    A.depth u (s.point u) < A.depth t (s.point t) := by
  have obeys : ∀ t, A.Obeys t (s.point t) := fun t => disciplined t (s.point t) (inv.valid t)
  have spec := obeys t
  cases h with
  | message blocked =>
      obtain ⟨msg, after, at_⟩ := inv.sending t u blocked
      rw [Ledger.Obeys, at_] at spec
      have here : A.depth t (s.point t) = toLex (1, A.rank t) := by
        rw [Ledger.depth, at_]
      rw [here]
      exact Ledger.depth_lt_of_rank spec.2.1
  | thread at_ =>
      rw [Ledger.Obeys, at_] at spec
      have here : A.depth t (s.point t) = toLex (1, A.rank t) := by
        rw [Ledger.depth, at_]
      rw [here]
      exact Ledger.depth_lt_of_rank spec.2.1
  | @lock lock _ at_ held =>
      -- the holder of a lock sends to nobody, and waits for lower locks only
      have mine := (inv.held u lock).mp held
      have here : A.depth t (s.point t) = toLex (0, A.level lock + 1) := by
        rw [Ledger.depth, at_]
      have theirs := obeys u
      rw [here]
      unfold Ledger.depth
      split
      · rename_i sends
        rw [Ledger.Obeys, sends] at theirs
        rw [theirs.1] at mine
        cases mine
      · rename_i joins
        rw [Ledger.Obeys, joins] at theirs
        rw [theirs.1] at mine
        cases mine
      · rename_i takes
        rw [Ledger.Obeys, takes] at theirs
        have lower := theirs.1 lock mine
        exact Prod.Lex.toLex_lt_toLex.mpr (.inr ⟨rfl, Nat.succ_lt_succ lower⟩)
      · exact Prod.Lex.toLex_lt_toLex.mpr (.inr ⟨rfl, Nat.succ_pos _⟩)

/-- Every chain of waiting threads comes to an end. -/
theorem waitsFor_wellFounded {s : State P} (disciplined : A.Disciplined) (inv : Invariant A s) :
    WellFounded fun u t => WaitsFor s t u :=
  Subrelation.wf (fun h => WaitsFor.depth_lt disciplined inv h)
    (InvImage.wf (fun t => A.depth t (s.point t)) wellFounded_lt)

/-- The graph of who waits for whom has no cycle. -/
theorem waitsFor_acyclic {s : State P} (disciplined : A.Disciplined) (inv : Invariant A s)
    (t : τ) : ¬ Relation.TransGen (WaitsFor s) t t := by
  intro cycle
  have back : Relation.TransGen (fun u t => WaitsFor s t u) t t := by
    rwa [Relation.transGen_swap]
  exact (waitsFor_wellFounded disciplined inv).transGen.irrefl.irrefl t back

end MessagePassing
