import QnxAtc.Library.Machine
import QnxAtc.Library.Semaphore
import Mathlib.Logic.Function.Basic

/-! # Threads that send messages and take locks

A program gives, for every point of every thread, the operation the thread performs
there and where it goes on afterwards. Messages are synchronous: a sender stays blocked
until the server has received its message and has replied to it. A lock has one holder.
What a thread computes between two operations may read and write data that all threads
share, and a label tells what the environment contributes.
-/

namespace MessagePassing

/-- The outcome of a receive. -/
inductive Receipt (μ : Type) where
  | error
  | pulse
  | message (rcvid : Nat) (msg : μ)

/-- One operation of a thread with points `π`: threads `τ`, names `ν`, messages `μ`,
answers `ρ`, locks `κ`, inputs `ι`, shared data `δ`. -/
inductive Operation (τ ν μ ρ κ ι δ π : Type) where
  | compute (after : ι → δ → Option (δ × π))
  | connect (name : ν) (after : Option τ → π)
  | send (server : τ) (msg : μ) (after : Option ρ → π)
  | receive (after : Receipt μ → π)
  | reply (rcvid : Nat) (answer : Option ρ) (after : π)
  | acquire (lock : κ) (after : π)
  | release (lock : κ) (after : π)
  | join (thread : τ) (after : π)
  | ended

/-- The operation can go on at `l`. -/
def Operation.Leads {τ ν μ ρ κ ι δ π : Type} (op : Operation τ ν μ ρ κ ι δ π) (l : π) : Prop :=
  match op with
  | .compute after => ∃ input data data', after input data = some (data', l)
  | .connect _ after => ∃ server, l = after server
  | .send _ _ after => ∃ answer, l = after answer
  | .receive after => ∃ receipt, l = after receipt
  | .reply _ _ after | .acquire _ after | .release _ after | .join _ after => l = after
  | .ended => False

structure Program (τ ν μ ρ κ ι δ : Type) where
  Point : τ → Type
  next : (t : τ) → Point t → Operation τ ν μ ρ κ ι δ (Point t)
  /-- The name of the channel the thread serves, while it has one. -/
  name : (t : τ) → Point t → Option ν

inductive Status (τ : Type) where
  | running
  | sendBlocked (server : τ)
  | replyBlocked (server : τ) (rcvid : Nat)
deriving DecidableEq

/-- Whom a blocked sender waits for. -/
def Status.server? {τ : Type} : Status τ → Option τ
  | .running => none
  | .sendBlocked server | .replyBlocked server _ => some server

inductive ServerEvent where
  | received (rcvid : Nat)
  | replied (rcvid : Nat)
deriving DecidableEq

variable {τ ν μ ρ κ ι δ : Type}

structure State (P : Program τ ν μ ρ κ ι δ) where
  point : (t : τ) → P.Point t
  status : τ → Status τ
  locks : κ → Semaphore τ 1
  data : δ
  nextRcvid : Nat
  client : Nat → Option τ
  log : τ → List ServerEvent  -- history: what each server received and replied to

/-- Which thread moves, and what the environment decides. -/
inductive Label (τ μ ι : Type) where
  | compute (t : τ) (input : ι)
  | connect (t : τ) (server : Option τ)
  | send (t : τ)
  | sendFails (t : τ)
  | receive (t client : τ)
  /-- a message of a client outside the program -/
  | receiveForeign (t : τ) (msg : μ)
  | receivePulse (t : τ)
  | receiveError (t : τ)
  | reply (t : τ)
  | acquire (t : τ)
  | release (t : τ)
  | join (t : τ)

namespace State

variable {P : Program τ ν μ ρ κ ι δ}

/-- The thread performs the operation at its point, or one performed earlier is over. -/
inductive Goes (s s' : State P) (label : Label τ μ ι) (u : τ) : Prop where
  | compute {input : ι} {after} (at_ : P.next u (s.point u) = .compute after)
      (own : label = .compute u input) (result : after input s.data = some (s'.data, s'.point u))
  | connect {name : ν} {after} {server : Option τ}
      (at_ : P.next u (s.point u) = .connect name after) (there : s'.point u = after server)
  | send {server : τ} {msg : μ} {after} {answer : Option ρ}
      (at_ : P.next u (s.point u) = .send server msg after) (there : s'.point u = after answer)
  | receive {after} {receipt : Receipt μ} (at_ : P.next u (s.point u) = .receive after)
      (there : s'.point u = after receipt)
  | reply {rcvid : Nat} {answer : Option ρ} {after}
      (at_ : P.next u (s.point u) = .reply rcvid answer after) (there : s'.point u = after)
  | acquire {lock : κ} {after} (at_ : P.next u (s.point u) = .acquire lock after)
      (there : s'.point u = after)
  | release {lock : κ} {after} (at_ : P.next u (s.point u) = .release lock after)
      (there : s'.point u = after)
  | join {thread : τ} {after} (at_ : P.next u (s.point u) = .join thread after)
      (there : s'.point u = after)

theorem Goes.leads {s s' : State P} {label : Label τ μ ι} {u : τ} (h : Goes s s' label u) :
    (P.next u (s.point u)).Leads (s'.point u) := by
  cases h with
  | compute at_ _ result =>
      rw [at_]
      exact ⟨_, _, _, result⟩
  | connect at_ there | send at_ there | receive at_ there =>
      rw [at_]
      exact ⟨_, there⟩
  | reply at_ there | acquire at_ there | release at_ there | join at_ there =>
      rw [at_]
      exact there

variable [DecidableEq τ]

/-- All threads at their first points, no message under way and no lock taken. -/
def start (point : (t : τ) → P.Point t) (data : δ) : State P where
  point := point
  status := fun _ => .running
  locks := fun _ => .init τ 1
  data := data
  nextRcvid := 1
  client := fun _ => none
  log := fun _ => []

def goto (s : State P) (t : τ) (l : P.Point t) : State P :=
  { s with point := Function.update s.point t l }

def setStatus (s : State P) (t : τ) (status : Status τ) : State P :=
  { s with status := Function.update s.status t status }

@[simp] theorem goto_point_self (s : State P) (t : τ) (l : P.Point t) :
    (s.goto t l).point t = l := Function.update_self ..

@[simp] theorem goto_point_of_ne (s : State P) {t u : τ} (l : P.Point t) (h : u ≠ t) :
    (s.goto t l).point u = s.point u := Function.update_of_ne h ..

@[simp] theorem setStatus_self (s : State P) (t : τ) (status : Status τ) :
    (s.setStatus t status).status t = status := Function.update_self ..

@[simp] theorem setStatus_of_ne (s : State P) {t u : τ} (status : Status τ) (h : u ≠ t) :
    (s.setStatus t status).status u = s.status u := Function.update_of_ne h ..

@[simp] theorem setStatus_point (s : State P) (t : τ) (status : Status τ) :
    (s.setStatus t status).point = s.point := rfl

/-- The server `t` takes a message, and its receive comes back with `l`. -/
def accept (s : State P) (t : τ) (client : Option τ) (l : P.Point t) : State P :=
  { s.goto t l with
    nextRcvid := s.nextRcvid + 1
    client := Function.update s.client s.nextRcvid client
    log := Function.update s.log t (s.log t ++ [.received s.nextRcvid]) }

/-- The client goes on, unless it has given up waiting. -/
def wake (s : State P) (t : τ) (rcvid : Nat) (answer : Option ρ) : State P :=
  match s.client rcvid with
  | none => s
  | some c =>
      if s.status c = .replyBlocked t rcvid then
        match P.next c (s.point c) with
        | .send _ _ after => (s.goto c (after answer)).setStatus c .running
        | _ => s
      else s

/-- Waking a client moves that client only, which was at a send. -/
theorem wake_point (s : State P) (t u : τ) (rcvid : Nat) (answer : Option ρ) :
    (s.wake t rcvid answer).point u = s.point u ∨ ∃ server msg after,
      P.next u (s.point u) = .send server msg after ∧
        (s.wake t rcvid answer).point u = after answer := by
  unfold wake
  split
  · exact .inl rfl
  · rename_i c _
    split
    · split
      · rename_i server msg after sends
        rw [setStatus_point]
        by_cases woken : u = c
        · subst woken
          exact .inr ⟨server, msg, after, sends, goto_point_self ..⟩
        · exact .inl (goto_point_of_ne _ _ woken)
      · exact .inl rfl
    · exact .inl rfl

/-- Where one thread went to a point and the others stayed, it is enough that this thread
performed its operation. -/
theorem goes_of_goto {s s' : State P} {label : Label τ μ ι} {t u : τ} {l : P.Point t}
    (moved : s'.point = (s.goto t l).point) (own : s'.point t = l → Goes s s' label t) :
    s'.point u = s.point u ∨ Goes s s' label u := by
  by_cases mine : u = t
  · subst mine
    refine .inr (own ?_)
    rw [moved, goto_point_self]
  · refine .inl ?_
    rw [moved, goto_point_of_ne _ _ mine]

variable [DecidableEq ν] [DecidableEq κ]

def step (s : State P) : Label τ μ ι → Option (State P)
  | .compute t input =>
      match P.next t (s.point t) with
      | .compute after =>
          (after input s.data).map fun (data, l) => { s.goto t l with data := data }
      | _ => none
  | .connect t server =>
      match P.next t (s.point t), server with
      | .connect _ after, none => some (s.goto t (after none))
      | .connect name after, some u =>
          if P.name u (s.point u) = some name then some (s.goto t (after (some u))) else none
      | _, _ => none
  | .send t =>
      match P.next t (s.point t), s.status t with
      | .send server _ _, .running => some (s.setStatus t (.sendBlocked server))
      | _, _ => none
  | .sendFails t =>
      match P.next t (s.point t) with
      | .send _ _ after => some ((s.goto t (after none)).setStatus t .running)
      | _ => none
  | .receive t client =>
      match P.next t (s.point t), P.next client (s.point client) with
      | .receive after, .send _ msg _ =>
          if s.status client = .sendBlocked t then
            some ((s.accept t (some client) (after (.message s.nextRcvid msg))).setStatus client
              (.replyBlocked t s.nextRcvid))
          else none
      | _, _ => none
  | .receiveForeign t msg =>
      match P.next t (s.point t) with
      | .receive after => some (s.accept t none (after (.message s.nextRcvid msg)))
      | _ => none
  | .receivePulse t =>
      match P.next t (s.point t) with
      | .receive after => some (s.goto t (after .pulse))
      | _ => none
  | .receiveError t =>
      match P.next t (s.point t) with
      | .receive after => some (s.goto t (after .error))
      | _ => none
  | .reply t =>
      match P.next t (s.point t) with
      | .reply rcvid answer after =>
          some { (s.wake t rcvid answer).goto t after with
            log := Function.update s.log t (s.log t ++ [.replied rcvid]) }
      | _ => none
  | .acquire t =>
      match P.next t (s.point t) with
      | .acquire lock after => ((s.locks lock).wait t).map fun semaphore =>
          { s.goto t after with locks := Function.update s.locks lock semaphore }
      | _ => none
  | .release t =>
      match P.next t (s.point t) with
      | .release lock after => ((s.locks lock).post t).map fun semaphore =>
          { s.goto t after with locks := Function.update s.locks lock semaphore }
      | _ => none
  | .join t =>
      match P.next t (s.point t) with
      | .join thread after =>
          match P.next thread (s.point thread) with
          | .ended => some (s.goto t after)
          | _ => none
      | _ => none

/-! ## What one step can do -/

inductive Step (s : State P) : Label τ μ ι → State P → Prop where
  | compute {t : τ} {input : ι} {after} {data : δ} {l : P.Point t}
      (at_ : P.next t (s.point t) = .compute after)
      (result : after input s.data = some (data, l)) :
      Step s (.compute t input) { s.goto t l with data := data }
  | connect {t : τ} {server : Option τ} {name : ν} {after}
      (at_ : P.next t (s.point t) = .connect name after)
      (found : ∀ u, server = some u → P.name u (s.point u) = some name) :
      Step s (.connect t server) (s.goto t (after server))
  | send {t server : τ} {msg : μ} {after} (at_ : P.next t (s.point t) = .send server msg after)
      (free : s.status t = .running) : Step s (.send t) (s.setStatus t (.sendBlocked server))
  | sendFails {t server : τ} {msg : μ} {after}
      (at_ : P.next t (s.point t) = .send server msg after) :
      Step s (.sendFails t) ((s.goto t (after none)).setStatus t .running)
  | receive {t client server : τ} {msg : μ} {after sent}
      (at_ : P.next t (s.point t) = .receive after)
      (sends : P.next client (s.point client) = .send server msg sent)
      (blocked : s.status client = .sendBlocked t) :
      Step s (.receive t client)
        ((s.accept t (some client) (after (.message s.nextRcvid msg))).setStatus client
          (.replyBlocked t s.nextRcvid))
  | receiveForeign {t : τ} {msg : μ} {after} (at_ : P.next t (s.point t) = .receive after) :
      Step s (.receiveForeign t msg) (s.accept t none (after (.message s.nextRcvid msg)))
  | receiveNothing {t : τ} {label : Label τ μ ι} {after} {receipt : Receipt μ}
      (at_ : P.next t (s.point t) = .receive after)
      (nothing : receipt = .pulse ∨ receipt = .error) :
      Step s label (s.goto t (after receipt))
  | reply {t : τ} {rcvid : Nat} {answer : Option ρ} {after}
      (at_ : P.next t (s.point t) = .reply rcvid answer after) :
      Step s (.reply t) { (s.wake t rcvid answer).goto t after with
        log := Function.update s.log t (s.log t ++ [.replied rcvid]) }
  | acquire {t : τ} {lock : κ} {after} {semaphore : Semaphore τ 1}
      (at_ : P.next t (s.point t) = .acquire lock after)
      (taken : (s.locks lock).wait t = some semaphore) :
      Step s (.acquire t)
        { s.goto t after with locks := Function.update s.locks lock semaphore }
  | release {t : τ} {lock : κ} {after} {semaphore : Semaphore τ 1}
      (at_ : P.next t (s.point t) = .release lock after)
      (given : (s.locks lock).post t = some semaphore) :
      Step s (.release t)
        { s.goto t after with locks := Function.update s.locks lock semaphore }
  | join {t thread : τ} {after} (at_ : P.next t (s.point t) = .join thread after)
      (ended : P.next thread (s.point thread) = .ended) : Step s (.join t) (s.goto t after)

theorem step_spec {s s' : State P} {label : Label τ μ ι} (h : s.step label = some s') :
    Step s label s' := by
  cases label <;> simp only [step] at h
  case compute t input =>
      split at h
      · rename_i after at_
        obtain ⟨⟨data, l⟩, result, rfl⟩ := Option.map_eq_some_iff.mp h
        exact .compute at_ result
      · cases h
  case connect t server =>
      split at h
      · rename_i at_
        cases h
        refine .connect at_ ?_
        intro u found
        cases found
      · rename_i name after u at_
        split at h
        · rename_i named
          cases h
          refine .connect at_ ?_
          intro v found
          cases found
          exact named
        · cases h
      · cases h
  case send t =>
      split at h
      · rename_i at_ free
        cases h
        exact .send at_ free
      · cases h
  case sendFails t =>
      split at h
      · rename_i at_
        cases h
        exact .sendFails at_
      · cases h
  case receive t client =>
      split at h
      · rename_i at_ sends
        split at h
        · rename_i blocked
          cases h
          exact .receive at_ sends blocked
        · cases h
      · cases h
  case receiveForeign t msg =>
      split at h
      · rename_i at_
        cases h
        exact .receiveForeign at_
      · cases h
  case receivePulse t =>
      split at h
      · rename_i at_
        cases h
        exact .receiveNothing at_ (.inl rfl)
      · cases h
  case receiveError t =>
      split at h
      · rename_i at_
        cases h
        exact .receiveNothing at_ (.inr rfl)
      · cases h
  case reply t =>
      split at h
      · rename_i at_
        cases h
        exact .reply at_
      · cases h
  case acquire t =>
      split at h
      · rename_i at_
        obtain ⟨semaphore, taken, rfl⟩ := Option.map_eq_some_iff.mp h
        exact .acquire at_ taken
      · cases h
  case release t =>
      split at h
      · rename_i at_
        obtain ⟨semaphore, given, rfl⟩ := Option.map_eq_some_iff.mp h
        exact .release at_ given
      · cases h
  case join t =>
      split at h
      · rename_i at_
        split at h
        · rename_i ended
          cases h
          exact .join at_ ended
        · cases h
      · cases h

/-! ## What one step does to one thread -/

/-- A step leaves a thread where it is, or the thread goes on. -/
theorem step_goes {s s' : State P} {label : Label τ μ ι} (h : s.step label = some s') (u : τ) :
    s'.point u = s.point u ∨ Goes s s' label u := by
  cases step_spec h with
  | compute at_ result =>
      refine goes_of_goto rfl (fun there => .compute at_ rfl ?_)
      rwa [there]
  | connect at_ _ => exact goes_of_goto rfl (.connect at_)
  | send at_ _ => exact .inl rfl
  | sendFails at_ => exact goes_of_goto rfl (.send at_)
  | receive at_ _ _ => exact goes_of_goto rfl (.receive at_)
  | receiveForeign at_ => exact goes_of_goto rfl (.receive at_)
  | receiveNothing at_ _ => exact goes_of_goto rfl (.receive at_)
  | @reply t rcvid answer after at_ =>
      by_cases mine : u = t
      · subst mine
        exact .inr (.reply at_ (goto_point_self ..))
      · have same : ((s.wake t rcvid answer).goto t after).point u =
            (s.wake t rcvid answer).point u := goto_point_of_ne _ _ mine
        rcases s.wake_point t u rcvid answer with still | ⟨server, msg, sent, sends, woken⟩
        · exact .inl (same.trans still)
        · exact .inr (.send sends (same.trans woken))
  | acquire at_ _ => exact goes_of_goto rfl (.acquire at_)
  | release at_ _ => exact goes_of_goto rfl (.release at_)
  | join at_ _ => exact goes_of_goto rfl (.join at_)

/-- A thread that has ended stays where it is. -/
theorem point_of_ended {s s' : State P} {label : Label τ μ ι} (h : s.step label = some s') {u : τ}
    (ended : P.next u (s.point u) = .ended) : s'.point u = s.point u := by
  rcases step_goes h u with still | goes
  · exact still
  · have leads := goes.leads
    rw [ended] at leads
    cases leads

/-- The data change by what a thread computes. -/
theorem step_data {s s' : State P} {label : Label τ μ ι} (h : s.step label = some s') :
    s'.data = s.data ∨ ∃ t input after l, P.next t (s.point t) = .compute after ∧
      after input s.data = some (s'.data, l) := by
  cases step_spec h with
  | compute at_ result => exact .inr ⟨_, _, _, _, at_, result⟩
  | connect | send | sendFails | receive | receiveForeign | receiveNothing | acquire | release
  | join => exact .inl rfl
  | @reply t rcvid answer _ _ =>
      left
      show (s.wake t rcvid answer).data = s.data
      unfold wake
      split
      · rfl
      · split
        · split <;> rfl
        · rfl

end State

end MessagePassing
