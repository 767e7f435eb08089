import QnxAtc.Processes.Deadlock

/-! # Shutdown of the Computer process

The main thread joins the monitor, clears `listen`, and joins the operator-input thread,
the console and the relay. A thread that is blocked in a receive does not see the flag,
and only the console sends to these two, so when the console has ended they stay blocked
unless they have left their receives for good.
-/

namespace QnxAtc

open MessagePassing

variable {installed : Installation} {n : Nat}

def Ended (s : ProcessState installed n) (t : Thread n) : Prop :=
  (processes installed n).next t (s.point t) = .ended

def Receives (s : ProcessState installed n) (t : Thread n) : Prop :=
  ∃ after, (processes installed n).next t (s.point t) = .receive after

/-- In some continuation of the run, `u` sends to `t`. -/
def CanSend (s : ProcessState installed n) (u t : Thread n) : Prop :=
  ∃ labels s', Machine.run State.step s labels = some s' ∧ s'.status u = .sendBlocked t

/-- The threads that the main thread has not joined yet. -/
def ComputerMainPoint.stillJoins : ComputerMainPoint → List (Thread n)
  | .joiningMonitor => [.monitor, .operatorInput, .console, .communications]
  | .clearingListen | .joiningOperatorInput => [.operatorInput, .console, .communications]
  | .joiningConsole => [.console, .communications]
  | .joiningCommunications => [.communications]
  | .ended => []

/-- The monitor and the console have finished, and a thread that is still to be joined
waits for a message that no unfinished thread can send any more. -/
structure StuckShutdown (s : ProcessState installed n) (t : Thread n) : Prop where
  server : t = .operatorInput ∨ t = .communications
  monitor : Ended s .monitor
  console : Ended s .console
  joined : t ∈ ComputerMainPoint.stillJoins (s.point .computerMain)
  receives : Receives s t
  silent : ∀ u, ¬ Ended s u → ¬ CanSend s u t

/-! ## Who sends to the two servers -/

/-- Only the console sends to the operator-input thread and to the relay. -/
theorem eq_console_of_sendBlocked {s : ProcessState installed n}
    (inv : Invariant (ledger installed n) s) {u t : Thread n}
    (server : t = .operatorInput ∨ t = .communications) (blocked : s.status u = .sendBlocked t) :
    u = .console := by
  obtain ⟨msg, after, at_⟩ := inv.sending u t (congrArg Status.server? blocked)
  have obeys := processes_disciplined u (s.point u) (inv.valid u)
  rw [Ledger.Obeys, at_] at obeys
  have high : t.rank = 3 := by
    rcases server with rfl | rfl <;> rfl
  have lower : t.rank < u.rank := obeys.2.1
  rw [high] at lower
  cases u with
  | console => rfl
  | aircraft | arrivalDeparture | updatePosition | monitor | operatorInput | communications
  | displayLoop | collisionListener => exact absurd lower (by simp [Thread.rank])
  | atcMain =>
      exfalso
      generalize s.point .atcMain = l at at_
      cases l with
      | joiningAircraft rest => cases rest <;> cases at_
      | shuttingDown | joiningArrivalDeparture | joiningUpdatePosition | clearing | ended =>
          cases at_
  | computerMain =>
      exfalso
      generalize s.point .computerMain = l at at_
      cases l <;> cases at_
  | displayMain =>
      exfalso
      generalize s.point .displayMain = l at at_
      cases l <;> cases at_

/-- Once the console has ended, nobody ever sends to the two servers again. -/
theorem not_canSend {s : ProcessState installed n} (inv : Invariant (ledger installed n) s)
    (ended : Ended s .console) {u t : Thread n}
    (server : t = .operatorInput ∨ t = .communications) :
    ¬ CanSend s u t := by
  rintro ⟨labels, s', run, blocked⟩
  have later : Invariant (ledger installed n) s' ∧ Ended s' .console := by
    refine Machine.run_invariant
      (P := fun s => Invariant (ledger installed n) s ∧ Ended s .console) ?_ ⟨inv, ended⟩ run
    rintro s label s' ⟨inv, ended⟩ h
    refine ⟨inv.step processes_disciplined h, ?_⟩
    unfold Ended at ended ⊢
    rwa [State.point_of_ended h ended]
  obtain ⟨inv', ended'⟩ := later
  have own := eq_console_of_sendBlocked inv' server blocked
  subst own
  obtain ⟨msg, after, at_⟩ := inv'.sending .console t (congrArg Status.server? blocked)
  cases ended'.symm.trans at_

/-! ## The end of the last of the two -/

/-- The operator-input thread will not receive again. -/
def OperatorInputPoint.isDeaf (listen : Bool) : OperatorInputPoint → Bool
  | .starting | .looping => !listen
  | .receiving => false
  | .replying _ msg | .handling msg => !listen || msg.type = .exit
  | .ended => true

/-- The relay will not receive again. -/
def CommunicationsPoint.isDeaf : CommunicationsPoint n → Bool
  | .replyingExit _ | .ended => true
  | _ => false

def serversDeaf (s : ProcessState installed n) : Bool :=
  OperatorInputPoint.isDeaf s.data.operator.listen (s.point .operatorInput) &&
    CommunicationsPoint.isDeaf (s.point .communications)

/-- The step is the end of the monitor or of the console, and the other has ended. -/
def lastEnds (s : ProcessState installed n) (label : ProcessLabel n) : Bool :=
  match label, s.point .monitor, s.point .console with
  | .compute .monitor _, .returning, .ended => true
  | .compute .console _, .ended, .returning => true
  | _, _, _ => false

/-- The last of the two ends only when the servers have left their receives for good. -/
def EndsLast (s : ProcessState installed n) (label : ProcessLabel n) : Prop :=
  lastEnds s label = true → serversDeaf s = true

instance (s : ProcessState installed n) (label : ProcessLabel n) : Decidable (EndsLast s label) :=
  inferInstanceAs (Decidable (lastEnds s label = true → serversDeaf s = true))

theorem monitor_ended {l : MonitorPoint n} (ended : l.next installed = .ended) : l = .ended := by
  cases l with
  | ended => rfl
  | entering | leaving =>
      exfalso
      simp only [MonitorPoint.next, Installation.semWait, Installation.semPost] at ended
      split at ended <;> cases ended
  | deciding snapshot => cases snapshot <;> cases ended
  | testing | startPausing | looping | reading | opening | sending | pausing | returning =>
      cases ended

theorem console_ended {l : ConsolePoint} (ended : l.next (n := n) = .ended) : l = .ended := by
  cases l with
  | ended => rfl
  | reading | connecting | sending | returning => cases ended

/-! ## How a thread ends -/

theorem MonitorPoint.eq_returning_of_leads {l : MonitorPoint n}
    (h : (l.next installed).Leads .ended) : l = .returning := by
  cases l with
  | returning => rfl
  | testing | looping =>
      obtain ⟨_, _, _, result⟩ := h
      have there := congrArg Prod.snd (Option.some.inj result)
      dsimp only at there
      split at there <;> cases there
  | startPausing | pausing =>
      obtain ⟨_, _, _, result⟩ := h
      cases result
  | entering | leaving =>
      simp only [next, Installation.semWait, Installation.semPost] at h
      split at h
      · cases h
      · obtain ⟨_, _, _, result⟩ := h
        cases result
  | reading =>
      obtain ⟨input, _, _, result⟩ := h
      cases input <;> cases result
  | deciding snapshot =>
      cases snapshot with
      | none =>
          obtain ⟨_, _, _, result⟩ := h
          cases result
      | some planes =>
          obtain ⟨input, _, _, result⟩ := h
          cases input <;> cases result
  | opening msg =>
      obtain ⟨server, there⟩ := h
      cases server <;> cases there
  | sending msg displayChannel =>
      obtain ⟨_, there⟩ := h
      cases there
  | ended => cases h

theorem ConsolePoint.eq_returning_of_leads {l : ConsolePoint}
    (h : (l.next (n := n)).Leads .ended) : l = .returning := by
  cases l with
  | returning => rfl
  | reading =>
      obtain ⟨input, _, _, result⟩ := h
      cases input with
      | line line =>
          cases line with
          | endOfInput | rejected => cases result
          | accepted cmd =>
              dsimp only at result
              split at result <;> cases result
      | go | result | planesToPoll | tick | planes | message | pairs => cases result
  | connecting server msg =>
      obtain ⟨input, _, _, result⟩ := h
      cases input with
      | result ok => cases ok <;> cases result
      | go | line | planesToPoll | tick | planes | message | pairs => cases result
  | sending server msg =>
      obtain ⟨_, there⟩ := h
      cases there
  | ended => cases h

/-! ## Who clears the flag -/

/-- A computation of this operation leaves `listen` and the time constraint alone. -/
def KeepsOperator {π : Type} (op : ThreadOperation n π) : Prop :=
  ∀ after, op = .compute after → ∀ input data data' l, after input data = some (data', l) →
    data'.operator = data.operator

namespace KeepsOperator

variable {π : Type} {l : π}

theorem blocking {op : ThreadOperation n π} (h : ∀ after, op ≠ .compute after) :
    KeepsOperator op := fun after at_ => absurd at_ (h after)

theorem proceed : KeepsOperator (n := n) (proceed l) := by
  rintro _ ⟨⟩ input data data' l' result
  cases result
  rfl

theorem access {after : SharedData → SharedData × π}
    (h : ∀ data, (after data).1.operator = data.operator) :
    KeepsOperator (n := n) (access after) := by
  rintro _ ⟨⟩ input data data' l' result
  have same := congrArg Prod.fst (Option.some.inj result)
  rw [← show (after data).1 = data' from same]
  exact h data

theorem attempt {after : Bool → π} : KeepsOperator (n := n) (attempt after) := by
  rintro _ ⟨⟩ input data data' l' result
  cases input with
  | result ok =>
      cases result
      rfl
  | go | line | planesToPoll | tick | planes | message | pairs => cases result

theorem ite {c : Prop} [Decidable c] {op op' : ThreadOperation n π} (yes : KeepsOperator op)
    (no : KeepsOperator op') : KeepsOperator (if c then op else op') := by
  split
  · exact yes
  · exact no

theorem semWait {party : Party} : KeepsOperator (n := n) (installed.semWait party l) :=
  .ite (.blocking (by simp)) proceed

theorem semPost {party : Party} : KeepsOperator (n := n) (installed.semPost party l) :=
  .ite (.blocking (by simp)) proceed

end KeepsOperator

theorem AircraftPoint.keepsOperator (l : AircraftPoint n) : KeepsOperator l.next := by
  cases l with
  | arriving | moving => exact .ite .proceed .proceed
  | opening | enteringAirspace | exitingAirspace | receiving | returned =>
      exact .blocking (by simp [next])
  | attaching => exact .attempt
  | switching a radarId rcvid rest =>
      match rest with
      | [] | .assign _ :: _ | .exitThread :: _ => exact .proceed
      | .msgReply _ :: _ => exact .blocking (by simp [next])
  | waiting | detaching => exact .proceed

theorem ArrivalPoint.keepsOperator (l : ArrivalPoint) : KeepsOperator (n := n) l.next := by
  cases l with
  | attaching => exact .attempt
  | looping | failed | changing => exact .access fun data => rfl
  | receiving | replying | unlocking | ended => exact .blocking (by simp [next])
  | handling msg =>
      obtain ⟨header, type, planeID, data, dataSize⟩ := msg
      cases type with
      | enterAirspace | exitAirspace => exact .blocking (by simp [next])
      | positionUpdate | requestPosition | requestChangeOfHeading | requestChangePosition
      | requestChangeAltitude | requestAugmentedInfo | changeTimeConstraintCollisions | exit
      | collisionDetected => exact .proceed

theorem UpdatePoint.keepsOperator (l : UpdatePoint n) : KeepsOperator (l.next installed) := by
  cases l with
  | looping | testing | findLocked | answered | eraseLocked | switchLocked | written =>
      exact .access fun data => rfl
  | waiting => exact .proceed
  | copying | copied | finding | found | opening | sending | unreachable | erased | switching
  | switched | posted | ended => exact .blocking (by simp [next])
  | polling planesToPoll => cases planesToPoll <;> exact .proceed
  | writing => exact .ite (.blocking (by simp)) .proceed
  | bufferLocked => exact .semWait
  | stored => exact .semPost
  | copyLocked =>
      rintro _ ⟨⟩ input data data' l' result
      cases input with
      | planesToPoll ids =>
          dsimp only at result
          split at result <;> cases result
          rfl
      | go | result | line | tick | planes | message | pairs => cases result
  | storing =>
      rintro _ ⟨⟩ input data data' l' result
      cases input with
      | tick tickCounter memory =>
          cases result
          rfl
      | go | result | line | planesToPoll | planes | message | pairs => cases result

theorem AtcMainPoint.keepsOperator (l : AtcMainPoint n) : KeepsOperator (l.next installed) := by
  cases l with
  | joiningAircraft rest =>
      cases rest with
      | nil => exact .proceed
      | cons => exact .blocking (by simp [next])
  | shuttingDown => exact .access fun data => rfl
  | clearing =>
      refine .access fun data => ?_
      dsimp only
      split <;> rfl
  | joiningArrivalDeparture | joiningUpdatePosition | ended => exact .blocking (by simp [next])

theorem MonitorPoint.keepsOperator (l : MonitorPoint n) : KeepsOperator (l.next installed) := by
  cases l with
  | testing | looping => exact .access fun data => rfl
  | startPausing | pausing | returning => exact .proceed
  | entering => exact .semWait
  | leaving => exact .semPost
  | reading =>
      rintro _ ⟨⟩ input data data' l' result
      cases input <;> cases result
      rfl
  | deciding snapshot =>
      cases snapshot with
      | none => exact .access fun data => rfl
      | some planes =>
          rintro _ ⟨⟩ input data data' l' result
          cases input <;> cases result
          rfl
  | opening | sending | ended => exact .blocking (by simp [next])

theorem CommunicationsPoint.keepsOperator (l : CommunicationsPoint n) : KeepsOperator l.next := by
  cases l with
  | answering => exact .ite (.blocking (by simp)) (.blocking (by simp))
  | receiving | replyingExit | openingAugmented | askingAugmented | refusing | replying | opening
  | sending | ended => exact .blocking (by simp [next])

theorem ConsolePoint.keepsOperator (l : ConsolePoint) : KeepsOperator (n := n) l.next := by
  cases l with
  | reading =>
      rintro _ ⟨⟩ input data data' l' result
      cases input with
      | line line =>
          cases line with
          | endOfInput | rejected =>
              cases result
              rfl
          | accepted cmd =>
              dsimp only at result
              split at result <;> cases result <;> rfl
      | go | result | planesToPoll | tick | planes | message | pairs => cases result
  | connecting => exact .attempt
  | sending | ended => exact .blocking (by simp [next])
  | returning => exact .proceed

theorem DisplayPoint.keepsOperator (l : DisplayPoint) :
    KeepsOperator (n := n) (l.next installed) := by
  cases l with
  | testing | looping => exact .access fun data => rfl
  | startPausing | pausing => exact .proceed
  | entering => exact .semWait
  | leaving => exact .semPost
  | reading =>
      rintro _ ⟨⟩ input data data' l' result
      cases input <;> cases result
      rfl
  | deciding snapshot =>
      cases snapshot with
      | none => exact .access fun data => rfl
      | some planes => exact .blocking (by simp [next])
  | rendering | ended => exact .blocking (by simp [next])

theorem ListenerPoint.keepsOperator (l : ListenerPoint) : KeepsOperator (n := n) l.next := by
  cases l with
  | attaching => exact .attempt
  | looping | failed | showing => exact .access fun data => rfl
  | receiving | replying | locking | shown | ended => exact .blocking (by simp [next])
  | decoding =>
      rintro _ ⟨⟩ input data data' l' result
      cases input with
      | pairs any =>
          dsimp only at result
          split at result <;> cases result <;> rfl
      | go | result | line | planesToPoll | tick | planes | message => cases result

/-- No message sets the flag again, and EXIT clears it. -/
theorem OperatorInput.listen_processMessage {c : OperatorInput} {msg : MessageInterProcess}
    (h : c.listen = false ∨ msg.type = .exit) : (c.processMessage msg).listen = false := by
  unfold processMessage
  rcases h with cleared | exit
  · split
    · split <;> exact cleared
    · rfl
    · exact cleared
  · rw [exit]

theorem OperatorInputPoint.listen_of_compute {l l' : OperatorInputPoint}
    {after : ThreadInput → SharedData → Option (SharedData × OperatorInputPoint)}
    (at_ : l.next (n := n) = .compute after) {input : ThreadInput} {data data' : SharedData}
    (result : after input data = some (data', l')) (cleared : data.operator.listen = false) :
    data'.operator.listen = false := by
  cases l with
  | starting =>
      have kept := KeepsOperator.attempt (n := n) after at_ input data data' l' result
      rw [kept]
      exact cleared
  | looping =>
      cases at_
      cases result
      exact cleared
  | handling msg =>
      cases at_
      cases result
      exact OperatorInput.listen_processMessage (.inl cleared)
  | receiving | replying | ended => cases at_

theorem ComputerMainPoint.listen_of_compute {l l' : ComputerMainPoint}
    {after : ThreadInput → SharedData → Option (SharedData × ComputerMainPoint)}
    (at_ : l.next (n := n) = .compute after) {input : ThreadInput} {data data' : SharedData}
    (result : after input data = some (data', l')) : data'.operator.listen = false := by
  cases l with
  | clearingListen =>
      cases at_
      cases result
      rfl
  | joiningMonitor | joiningOperatorInput | joiningConsole | joiningCommunications | ended =>
      cases at_

/-- Once `listen` is cleared, it stays so. -/
theorem listen_step {s s' : ProcessState installed n} {label : ProcessLabel n}
    (h : s.step label = some s') (cleared : s.data.operator.listen = false) :
    s'.data.operator.listen = false := by
  rcases State.step_data h with same | ⟨t, input, after, l, at_, result⟩
  · rw [same]
    exact cleared
  · have kept : KeepsOperator ((processes installed n).next t (s.point t)) →
        s'.data.operator.listen = false := by
      intro keeps
      rw [keeps after at_ input s.data s'.data l result]
      exact cleared
    cases t with
    | aircraft => exact kept (AircraftPoint.keepsOperator _)
    | arrivalDeparture => exact kept (ArrivalPoint.keepsOperator _)
    | updatePosition => exact kept (UpdatePoint.keepsOperator _)
    | atcMain => exact kept (AtcMainPoint.keepsOperator _)
    | monitor => exact kept (MonitorPoint.keepsOperator _)
    | communications => exact kept (CommunicationsPoint.keepsOperator _)
    | console => exact kept (ConsolePoint.keepsOperator _)
    | displayLoop => exact kept (DisplayPoint.keepsOperator _)
    | collisionListener => exact kept (ListenerPoint.keepsOperator _)
    | displayMain =>
        generalize s.point .displayMain = l at at_
        cases l <;> cases at_
    | operatorInput => exact OperatorInputPoint.listen_of_compute at_ result cleared
    | computerMain => exact ComputerMainPoint.listen_of_compute at_ result

/-! ## Servers that receive no more -/

theorem OperatorInputPoint.isDeaf_of_cleared {listen listen' : Bool} {l : OperatorInputPoint}
    (stays : listen = false → listen' = false) (deaf : l.isDeaf listen = true) :
    l.isDeaf listen' = true := by
  cases listen with
  | false =>
      rw [stays rfl]
      exact deaf
  | true =>
      cases l with
      | starting | looping | receiving => cases deaf
      | replying rcvid msg | handling msg =>
          have exits : msg.type = .exit := of_decide_eq_true deaf
          simp [isDeaf, exits]
      | ended => rfl

theorem OperatorInputPoint.isDeaf_of_leads {listen : Bool} {l l' : OperatorInputPoint}
    (h : (l.next (n := n)).Leads l') (blocking : ∀ after, l.next (n := n) ≠ .compute after)
    (deaf : l.isDeaf listen = true) : l'.isDeaf listen = true := by
  cases l with
  | starting | looping | handling => exact absurd rfl (blocking _)
  | receiving => cases deaf
  | replying rcvid msg =>
      cases h
      exact deaf
  | ended => cases h

theorem OperatorInputPoint.isDeaf_of_compute {l l' : OperatorInputPoint}
    {after : ThreadInput → SharedData → Option (SharedData × OperatorInputPoint)}
    (at_ : l.next (n := n) = .compute after) {input : ThreadInput} {data data' : SharedData}
    (result : after input data = some (data', l')) (deaf : l.isDeaf data.operator.listen = true) :
    l'.isDeaf data'.operator.listen = true := by
  have stays := OperatorInputPoint.listen_of_compute at_ result
  cases l with
  | starting =>
      have cleared := stays (by simpa [isDeaf] using deaf)
      cases at_
      cases input with
      | result ok =>
          cases result
          cases ok
          · rfl
          · simpa [isDeaf] using cleared
      | go | line | planesToPoll | tick | planes | message | pairs => cases result
  | looping =>
      have cleared : data.operator.listen = false := by simpa [isDeaf] using deaf
      cases at_
      cases result
      simp only [cleared]
      rfl
  | handling msg =>
      cases at_
      cases result
      have cleared : (data.operator.processMessage msg).listen = false :=
        OperatorInput.listen_processMessage (by simpa [isDeaf] using deaf)
      simpa [isDeaf] using cleared
  | receiving | replying | ended => cases at_

theorem operatorInput_deaf_step {s s' : ProcessState installed n} {label : ProcessLabel n}
    (h : s.step label = some s')
    (deaf : OperatorInputPoint.isDeaf s.data.operator.listen (s.point .operatorInput) = true) :
    OperatorInputPoint.isDeaf s'.data.operator.listen (s'.point .operatorInput) = true := by
  have stays := listen_step h
  rcases State.step_goes h .operatorInput with still | goes
  · rw [still]
    exact OperatorInputPoint.isDeaf_of_cleared stays deaf
  · by_cases blocking : ∀ after,
        (processes installed n).next .operatorInput (s.point .operatorInput) ≠ .compute after
    · exact OperatorInputPoint.isDeaf_of_cleared stays
        (OperatorInputPoint.isDeaf_of_leads goes.leads blocking deaf)
    · simp only [not_forall, not_not] at blocking
      obtain ⟨after, computes⟩ := blocking
      cases goes with
      | compute at_ _ result => exact OperatorInputPoint.isDeaf_of_compute at_ result deaf
      | connect at_ _ | send at_ _ | receive at_ _ | reply at_ _ | acquire at_ _ | release at_ _
      | join at_ _ => cases computes.symm.trans at_

theorem CommunicationsPoint.isDeaf_of_leads {l l' : CommunicationsPoint n} (h : l.next.Leads l')
    (deaf : l.isDeaf = true) : l'.isDeaf = true := by
  cases l with
  | replyingExit rcvid =>
      cases h
      rfl
  | ended => cases h
  | receiving | openingAugmented | askingAugmented | answering | refusing | replying | opening
  | sending => cases deaf

/-- What the servers have left for good, they have left in every later state. -/
theorem serversDeaf_step {s s' : ProcessState installed n} {label : ProcessLabel n}
    (h : s.step label = some s') (deaf : serversDeaf s = true) : serversDeaf s' = true := by
  obtain ⟨operator, relay⟩ := Bool.and_eq_true_iff.mp deaf
  refine Bool.and_eq_true_iff.mpr ⟨operatorInput_deaf_step h operator, ?_⟩
  rcases State.step_goes h .communications with still | goes
  · rw [still]
    exact relay
  · exact CommunicationsPoint.isDeaf_of_leads goes.leads relay

/-! ## Runs in which the servers are told in time -/

/-- A thread that goes on after a computation was named by the label. -/
theorem compute_of_goes {s s' : ProcessState installed n} {label : ProcessLabel n} {t : Thread n}
    {after} (goes : State.Goes s s' label t)
    (at_ : (processes installed n).next t (s.point t) = .compute after) :
    ∃ input, label = .compute t input := by
  cases goes with
  | compute _ own _ => exact ⟨_, own⟩
  | connect at' _ | send at' _ | receive at' _ | reply at' _ | acquire at' _ | release at' _
  | join at' _ => cases at_.symm.trans at'

theorem monitor_ends {s s' : ProcessState installed n} {label : ProcessLabel n}
    (goes : State.Goes s s' label .monitor) (ended : s'.point .monitor = .ended) :
    s.point .monitor = .returning ∧ ∃ input, label = .compute .monitor input := by
  have leads := goes.leads
  rw [ended] at leads
  have returning := MonitorPoint.eq_returning_of_leads leads
  have at_ : (processes installed n).next .monitor (s.point .monitor) = proceed .ended := by
    rw [returning]
    rfl
  exact ⟨returning, compute_of_goes goes at_⟩

theorem console_ends {s s' : ProcessState installed n} {label : ProcessLabel n}
    (goes : State.Goes s s' label .console) (ended : s'.point .console = .ended) :
    s.point .console = .returning ∧ ∃ input, label = .compute .console input := by
  have leads := goes.leads
  rw [ended] at leads
  have returning := ConsolePoint.eq_returning_of_leads leads
  have at_ : (processes installed n).next .console (s.point .console) = proceed .ended := by
    rw [returning]
    rfl
  exact ⟨returning, compute_of_goes goes at_⟩

/-- When both have ended, the servers receive no more. -/
def ToldInTime (s : ProcessState installed n) : Prop :=
  s.point .monitor = .ended → s.point .console = .ended → serversDeaf s = true

theorem toldInTime_step {s s' : ProcessState installed n} {label : ProcessLabel n}
    (told : ToldInTime s) (guard : EndsLast s label) (h : s.step label = some s') :
    ToldInTime s' := by
  intro monitor console
  refine serversDeaf_step h ?_
  rcases State.step_goes h .monitor with sameMonitor | goesMonitor
  · rw [sameMonitor] at monitor
    rcases State.step_goes h .console with sameConsole | goesConsole
    · rw [sameConsole] at console
      exact told monitor console
    · obtain ⟨returning, input, rfl⟩ := console_ends goesConsole console
      exact guard (by simp only [lastEnds, monitor, returning])
  · obtain ⟨returning, input, rfl⟩ := monitor_ends goesMonitor monitor
    rcases State.step_goes h .console with sameConsole | goesConsole
    · rw [sameConsole] at console
      exact guard (by simp only [lastEnds, console, returning])
    · obtain ⟨_, _, other⟩ := console_ends goesConsole console
      cases other

theorem not_receives_of_deaf {s : ProcessState installed n} (deaf : serversDeaf s = true)
    {t : Thread n} (server : t = .operatorInput ∨ t = .communications) : ¬ Receives s t := by
  obtain ⟨operator, relay⟩ := Bool.and_eq_true_iff.mp deaf
  rintro ⟨after, at_⟩
  rcases server with rfl | rfl
  · generalize s.point .operatorInput = l at at_ operator
    cases l with
    | receiving => cases operator
    | starting | looping | replying | handling | ended => cases at_
  · generalize s.point .communications = l at at_ relay
    cases l with
    | replyingExit | ended => cases at_
    | receiving | openingAugmented | askingAugmented | answering | refusing | replying | opening
    | sending => cases relay

/-- In every run in which the last of the monitor and the console ends only after the
operator-input thread and the relay have left their receives for good, no state is reached
in which the two have finished and one of these servers is stuck. -/
theorem shutdown_not_stuck (installed : Installation) (planeData : List PlaneData)
    (labels : List (ProcessLabel planeData.length))
    (s : ProcessState installed planeData.length)
    (run : Machine.run State.step (startProcesses installed planeData) labels = some s)
    (inTime : Machine.Along State.step EndsLast (startProcesses installed planeData) labels) :
    ∀ t, ¬ StuckShutdown s t := by
  intro t stuck
  have told : ToldInTime s := by
    refine Machine.run_invariant_along
      (fun s label s' told guard h => toldInTime_step told guard h) ?_ inTime run
    intro monitor _
    cases monitor
  have deaf := told (monitor_ended stuck.monitor) (console_ended stuck.console)
  exact not_receives_of_deaf deaf stuck.server stuck.receives

/-! ## A whole run -/

/-- An aircraft that is reported once and leaves with its second move. -/
def onePlane : List PlaneData := [⟨0, 1, 0, 50000, 20000, 60000, 0, 0⟩]

/-- Up to the poll in which the monitor finds the snapshot empty again. -/
def monitoredLabels : List (ProcessLabel 1) :=
  [.compute .arrivalDeparture (.result true), .compute .arrivalDeparture .go,
    .compute .operatorInput (.result true), .compute .operatorInput .go,
    -- the aircraft enters
    .compute (.aircraft 0) .go, .connect (.aircraft 0) (some .arrivalDeparture),
    .send (.aircraft 0), .receive .arrivalDeparture (.aircraft 0), .reply .arrivalDeparture,
    .acquire .arrivalDeparture, .compute .arrivalDeparture .go, .release .arrivalDeparture,
    .compute .arrivalDeparture .go, .compute (.aircraft 0) (.result true),
    .compute (.aircraft 0) .go,
    -- Radar polls it
    .compute .updatePosition .go, .compute .updatePosition .go, .compute .updatePosition .go,
    .acquire .updatePosition, .compute .updatePosition (.planesToPoll [1]),
    .release .updatePosition, .compute .updatePosition .go, .acquire .updatePosition,
    .compute .updatePosition .go, .release .updatePosition,
    .connect .updatePosition (some (.aircraft 0)), .send .updatePosition,
    .receive (.aircraft 0) .updatePosition, .reply (.aircraft 0),
    .compute .updatePosition .go, .compute .updatePosition .go, .acquire .updatePosition,
    .compute .updatePosition .go, .release .updatePosition,
    -- and publishes what it answered
    .acquire .updatePosition, .acquire .updatePosition,
    .compute .updatePosition (.tick 1 Radar.clearedMemory), .release .updatePosition,
    .release .updatePosition, .compute .updatePosition .go, .compute .monitor .go,
    -- the aircraft leaves
    .compute (.aircraft 0) .go, .compute (.aircraft 0) .go, .compute (.aircraft 0) .go,
    .send (.aircraft 0), .receive .arrivalDeparture (.aircraft 0), .reply .arrivalDeparture,
    .acquire .arrivalDeparture, .compute .arrivalDeparture .go, .release .arrivalDeparture,
    -- Radar publishes that nobody is left
    .compute .updatePosition .go, .compute .updatePosition .go, .compute .updatePosition .go,
    .acquire .updatePosition, .acquire .updatePosition,
    .compute .updatePosition (.tick 2 Radar.clearedMemory), .release .updatePosition,
    .release .updatePosition,
    -- the monitor polls
    .compute .monitor .go, .acquire .monitor, .compute .monitor (.planes []), .release .monitor,
    .compute .monitor .go]

/-- The operator ends the console, the monitor returns, and the main thread joins it. -/
def endingLabels : List (ProcessLabel 1) :=
  [.compute .console (.line .endOfInput), .compute .console .go, .compute .monitor .go,
    .join .computerMain, .compute .computerMain .go]

def onePlaneStart : ProcessState allOpened 1 := startProcesses allOpened onePlane

def bothEnded (s : ProcessState allOpened 1) : Bool :=
  (match s.point .monitor with | .ended => true | _ => false) &&
    match s.point .console with | .ended => true | _ => false

/-- The servers are in their receives, and the main thread is about to join the first. -/
def isStuck (s : ProcessState allOpened 1) : Bool :=
  bothEnded s && (match s.point .operatorInput with | .receiving => true | _ => false) &&
    (match s.point .communications with | .receiving => true | _ => false) &&
    match s.point .computerMain with | .joiningOperatorInput => true | _ => false

theorem ended_of_bothEnded {s : ProcessState allOpened 1} (h : bothEnded s = true) :
    Ended s .monitor ∧ Ended s .console := by
  obtain ⟨monitor, console⟩ := Bool.and_eq_true_iff.mp h
  unfold Ended
  constructor
  · split at monitor
    · rename_i at_
      rw [at_]
      rfl
    · cases monitor
  · split at console
    · rename_i at_
      rw [at_]
      rfl
    · cases console

theorem stuck_of_isStuck {s : ProcessState allOpened 1}
    (inv : Invariant (ledger allOpened 1) s) (h : isStuck s = true) :
    StuckShutdown s .operatorInput ∧ StuckShutdown s .communications := by
  simp only [isStuck, Bool.and_eq_true] at h
  obtain ⟨⟨⟨ended, operator⟩, relay⟩, main⟩ := h
  obtain ⟨monitorOver, consoleOver⟩ := ended_of_bothEnded ended
  have operatorWaits : Receives s .operatorInput := by
    split at operator
    · rename_i at_
      unfold Receives
      rw [at_]
      exact ⟨_, rfl⟩
    · cases operator
  have relayWaits : Receives s .communications := by
    split at relay
    · rename_i at_
      unfold Receives
      rw [at_]
      exact ⟨_, rfl⟩
    · cases relay
  have joins : ComputerMainPoint.stillJoins (n := 1) (s.point .computerMain) =
      [.operatorInput, .console, .communications] := by
    split at main
    · rename_i at_
      rw [at_]
      rfl
    · cases main
  exact ⟨⟨.inl rfl, monitorOver, consoleOver, by rw [joins]; decide, operatorWaits,
      fun u _ => not_canSend inv consoleOver (.inl rfl)⟩,
    ⟨.inr rfl, monitorOver, consoleOver, by rw [joins]; decide, relayWaits,
      fun u _ => not_canSend inv consoleOver (.inr rfl)⟩⟩

/-- The last aircraft leaves and the operator ends the console: the process hangs. -/
theorem shutdown_stuck :
    ∃ (labels : List (ProcessLabel 1)) (s : ProcessState allOpened 1),
      Machine.run State.step (startProcesses allOpened onePlane) labels = some s ∧
      StuckShutdown s .operatorInput ∧ StuckShutdown s .communications := by
  obtain ⟨s, run, stuck⟩ := Machine.exists_of_map_run State.step onePlaneStart
    (monitoredLabels ++ endingLabels) isStuck (by decide +kernel)
  have inv := (start_invariant allOpened onePlane).run processes_disciplined run
  exact ⟨monitoredLabels ++ endingLabels, s, run, stuck_of_isStuck inv stuck⟩

/-- The receives of both servers fail before the last of the two threads ends. -/
def failingLabels : List (ProcessLabel 1) :=
  monitoredLabels ++ .receiveError .operatorInput :: .receiveError .communications :: endingLabels

theorem shutdown_not_stuck_failing :
    ∃ s : ProcessState allOpened 1,
      Machine.run State.step (startProcesses allOpened onePlane) failingLabels = some s ∧
      (Ended s .monitor ∧ Ended s .console) ∧ ∀ t, ¬ StuckShutdown s t := by
  obtain ⟨s, run, ended⟩ := Machine.exists_of_map_run State.step onePlaneStart failingLabels
    bothEnded (by decide +kernel)
  have inTime : Machine.Along State.step EndsLast onePlaneStart failingLabels := by
    decide +kernel
  exact ⟨s, run, ended_of_bothEnded ended,
    shutdown_not_stuck allOpened onePlane failingLabels s run inTime⟩

end QnxAtc
