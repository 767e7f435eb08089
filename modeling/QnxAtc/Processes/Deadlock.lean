import QnxAtc.Processes.System

/-! # The message protocol cannot deadlock

The threads keep the discipline of servers and locks. Radar's arrival thread, the
operator-input thread and the collision listener send to nobody, the aircraft send to
Radar's arrival thread only, and whoever sends holds no lock.
-/

namespace QnxAtc

open MessagePassing

variable {installed : Installation} {n : Nat}

/-! ## Rankings -/

/-- The threads that serve a channel with a name. -/
def Thread.HasName : Thread n → Prop
  | .aircraft _ | .arrivalDeparture | .collisionListener => True
  | _ => False

/-- Senders are ranked above the servers they send to, the servers without a name above
those with one, and main threads above all. -/
def Thread.rank : Thread n → Nat
  | .arrivalDeparture | .displayLoop | .collisionListener => 0
  | .aircraft _ => 1
  | .updatePosition | .monitor => 2
  | .operatorInput | .communications => 3
  | .console => 4
  | .atcMain | .computerMain | .displayMain => 5

theorem Thread.rank_lt_of_hasName {t : Thread n} (h : t.HasName) : t.rank < 2 := by
  cases t with
  | aircraft | arrivalDeparture | collisionListener => simp [rank]
  | updatePosition | atcMain | monitor | operatorInput | communications | console | computerMain
  | displayLoop | displayMain => cases h

/-- `bufferSwitchMutex` is held while the semaphore is waited for. -/
def Lock.level : Lock → Nat
  | .bufferSwitchMutex => 1
  | .airspaceMutex | .collisionMutex | .shmSem => 0

/-! ## What is owed and held at every point -/

def Statement.owesReply (rest : List Statement) : Bool := rest.any fun s => s.reply?.isSome

/-- Nothing is replied to twice, and the thread does not exit before it has replied. -/
def Statement.RepliesOnce : List Statement → Prop
  | [] => True
  | .assign _ :: rest => RepliesOnce rest
  | .msgReply _ :: rest => owesReply rest = false ∧ RepliesOnce rest
  | .exitThread :: rest => owesReply rest = false

/-- Every branch of the switch owes its reply at its beginning, and replies once. -/
theorem Aircraft.repliesOnce_statements (a : Aircraft) (buffer : MessageInterProcess) :
    Statement.owesReply (a.statements buffer) = true ∧
      Statement.RepliesOnce (a.statements buffer) := by
  unfold Aircraft.statements
  split
  · cases buffer.type <;> simp [Statement.owesReply, Statement.reply?, Statement.RepliesOnce]
  · split <;> simp [Statement.owesReply, Statement.reply?, Statement.RepliesOnce]

namespace AircraftPoint

/-- The connection of an aircraft is one to Radar. -/
def Valid : AircraftPoint n → Prop
  | .enteringAirspace _ radarId | .attaching _ radarId | .moving _ radarId
  | .exitingAirspace _ radarId | .receiving _ radarId | .waiting _ radarId =>
      radarId = .arrivalDeparture
  | .switching _ radarId _ rest => radarId = .arrivalDeparture ∧ Statement.RepliesOnce rest
  | _ => True

def serving : AircraftPoint n → Option Nat
  | .switching _ _ rcvid rest => if Statement.owesReply rest then some rcvid else none
  | _ => none

end AircraftPoint

namespace ArrivalPoint

def serving : ArrivalPoint → Option Nat
  | .replying rcvid _ => some rcvid
  | _ => none

def holds : ArrivalPoint → List Lock
  | .changing _ | .unlocking => [.airspaceMutex]
  | _ => []

end ArrivalPoint

namespace UpdatePoint

/-- The connection is one that a name led to. -/
def Valid : UpdatePoint n → Prop
  | .sending _ _ planeChannel => planeChannel.HasName
  | _ => True

def holds (installed : Installation) : UpdatePoint n → List Lock
  | .copyLocked | .copied _ | .findLocked _ _ | .found _ _ _ | .eraseLocked _ _ | .erased _ =>
      [.airspaceMutex]
  | .switchLocked | .switched | .bufferLocked _ | .posted _ => [.bufferSwitchMutex]
  | .storing _ | .stored _ => installed.semHeld .radar ++ [.bufferSwitchMutex]
  | _ => []

end UpdatePoint

namespace MonitorPoint

def Valid : MonitorPoint n → Prop
  | .sending _ displayChannel => displayChannel.HasName
  | _ => True

def holds (installed : Installation) : MonitorPoint n → List Lock
  | .reading | .leaving _ => installed.semHeld (.reader .computer)
  | _ => []

end MonitorPoint

def OperatorInputPoint.serving : OperatorInputPoint → Option Nat
  | .replying rcvid _ => some rcvid
  | _ => none

namespace CommunicationsPoint

def Valid : CommunicationsPoint n → Prop
  | .askingAugmented _ _ planeChannel | .sending _ planeChannel => planeChannel.HasName
  | _ => True

def serving : CommunicationsPoint n → Option Nat
  | .replyingExit rcvid | .openingAugmented rcvid _ | .askingAugmented rcvid _ _
  | .answering rcvid _ | .refusing rcvid | .replying rcvid _ => some rcvid
  | _ => none

end CommunicationsPoint

def DisplayPoint.holds (installed : Installation) : DisplayPoint → List Lock
  | .reading | .leaving _ => installed.semHeld (.reader .display)
  | .rendering => [.collisionMutex]
  | _ => []

namespace ListenerPoint

def serving : ListenerPoint → Option Nat
  | .replying rcvid _ => some rcvid
  | _ => none

def holds : ListenerPoint → List Lock
  | .showing _ | .shown => [.collisionMutex]
  | _ => []

end ListenerPoint

def ledger (installed : Installation) (n : Nat) : Ledger (processes installed n) where
  Valid
    | .aircraft _ => AircraftPoint.Valid
    | .updatePosition => UpdatePoint.Valid
    | .monitor => MonitorPoint.Valid
    | .communications => CommunicationsPoint.Valid
    | _ => fun _ => True
  holds
    | .arrivalDeparture => ArrivalPoint.holds
    | .updatePosition => UpdatePoint.holds installed
    | .monitor => MonitorPoint.holds installed
    | .displayLoop => DisplayPoint.holds installed
    | .collisionListener => ListenerPoint.holds
    | _ => fun _ => []
  serving
    | .aircraft _ => AircraftPoint.serving
    | .arrivalDeparture => ArrivalPoint.serving
    | .operatorInput => OperatorInputPoint.serving
    | .communications => CommunicationsPoint.serving
    | .collisionListener => ListenerPoint.serving
    | _ => fun _ => none
  rank := Thread.rank
  level := Lock.level

section

variable {t : Thread n} {l l' : ThreadPoint n t}

theorem obeys_proceed (at_ : (processes installed n).next t l = proceed l')
    (follows : (ledger installed n).Follows t l' ((ledger installed n).holds t l)
      ((ledger installed n).serving t l)) : (ledger installed n).Obeys t l := by
  refine .compute at_ ?_
  intro input data data' after result
  cases result
  exact follows

theorem obeys_access {after : SharedData → SharedData × ThreadPoint n t}
    (at_ : (processes installed n).next t l = access after)
    (follows : ∀ data, (ledger installed n).Follows t (after data).2
      ((ledger installed n).holds t l) ((ledger installed n).serving t l)) :
    (ledger installed n).Obeys t l := by
  refine .compute at_ ?_
  intro input data data' after' result
  have same := congrArg Prod.snd (Option.some.inj result)
  rw [← show (after data).2 = after' from same]
  exact follows data

theorem obeys_attempt {after : Bool → ThreadPoint n t}
    (at_ : (processes installed n).next t l = attempt after)
    (follows : ∀ ok, (ledger installed n).Follows t (after ok)
      ((ledger installed n).holds t l) ((ledger installed n).serving t l)) :
    (ledger installed n).Obeys t l := by
  refine .compute at_ ?_
  intro input data data' after' result
  cases input with
  | result ok =>
      cases result
      exact follows ok
  | go | line | planesToPoll | tick | planes | message | pairs => cases result

theorem obeys_semWait {party : Party}
    (at_ : (processes installed n).next t l = installed.semWait party l')
    (lower : ∀ held ∈ (ledger installed n).holds t l, Lock.level .shmSem < held.level)
    (follows : (ledger installed n).Follows t l'
      (installed.semHeld party ++ (ledger installed n).holds t l)
      ((ledger installed n).serving t l)) : (ledger installed n).Obeys t l := by
  unfold Installation.semWait at at_
  unfold Installation.semHeld at follows
  split at at_
  · rename_i opened
    rw [if_pos opened] at follows
    exact .acquire at_ lower follows
  · rename_i unopened
    rw [if_neg unopened] at follows
    exact obeys_proceed at_ follows

theorem obeys_semPost {party : Party} {held : List Lock}
    (at_ : (processes installed n).next t l = installed.semPost party l')
    (holds : (ledger installed n).holds t l = installed.semHeld party ++ held)
    (follows : (ledger installed n).Follows t l' held
      ((ledger installed n).serving t l)) : (ledger installed n).Obeys t l := by
  unfold Installation.semPost at at_
  unfold Installation.semHeld at holds
  split at at_
  · rename_i opened
    rw [if_pos opened] at holds
    refine .release at_ ?_ ?_
    · rw [holds]
      exact List.mem_cons_self
    · rw [holds]
      exact follows
  · rename_i unopened
    rw [if_neg unopened] at holds
    refine obeys_proceed at_ ?_
    rw [holds]
    exact follows

end

/-! ## Whom a name leads to -/

theorem AircraftPoint.name_ne_radar (l : AircraftPoint n) : l.name ≠ some radarChannelName := by
  have other : ∀ id, some (planeChannelName id) ≠ some radarChannelName := by
    intro id h
    exact planeChannelName_ne_radarChannelName id (Option.some.inj h)
  cases l with
  | arriving | opening | enteringAirspace | attaching => simp [name]
  | moving a | exitingAirspace a | receiving a | switching a | waiting a | detaching a =>
      exact other a.id
  | returned attached =>
      cases attached with
      | none => simp [name]
      | some id => exact other id

/-- Radar's name leads to Radar. -/
theorem eq_of_name_radar {u : Thread n} {m : ThreadPoint n u}
    (named : (processes installed n).name u m = some radarChannelName) :
    u = .arrivalDeparture := by
  cases u with
  | arrivalDeparture => rfl
  | aircraft i => exact absurd named (AircraftPoint.name_ne_radar m)
  | collisionListener =>
      exfalso
      have other : some displayChannelName ≠ some radarChannelName := by decide
      cases m with
      | attaching | ended => cases named
      | looping | receiving | failed | replying | decoding | locking | showing | shown =>
          exact other named
  | updatePosition | atcMain | monitor | operatorInput | communications | console | computerMain
  | displayLoop | displayMain => cases named

/-- A name leads to an aircraft, to Radar or to the Display. -/
theorem hasName_of_name {u : Thread n} {m : ThreadPoint n u} {name : String}
    (named : (processes installed n).name u m = some name) : u.HasName := by
  cases u with
  | aircraft | arrivalDeparture | collisionListener => trivial
  | updatePosition | atcMain | monitor | operatorInput | communications | console | computerMain
  | displayLoop | displayMain => cases named

/-! ## Every thread keeps the discipline -/

theorem aircraft_obeys (i : Fin n) (l : AircraftPoint n) (valid : l.Valid) :
    (ledger installed n).Obeys (.aircraft i) l := by
  cases l with
  | arriving currentTime a =>
      by_cases early : (currentTime : Int) < a.arrivalTime.toInt
      · exact obeys_proceed (if_pos early) ⟨trivial, rfl, rfl⟩
      · exact obeys_proceed (if_neg early) ⟨trivial, rfl, rfl⟩
  | opening a =>
      refine .connect rfl ⟨trivial, rfl, rfl⟩ ?_
      intro u m _ named
      exact ⟨eq_of_name_radar named, rfl, rfl⟩
  | enteringAirspace a radarId =>
      cases valid
      refine .send rfl rfl Nat.zero_lt_one ?_
      intro answer
      cases answer <;> exact ⟨by trivial, rfl, rfl⟩
  | attaching a radarId =>
      refine obeys_attempt rfl ?_
      intro ok
      cases ok
      · exact ⟨trivial, rfl, rfl⟩
      · exact ⟨valid, rfl, rfl⟩
  | moving a radarId =>
      by_cases outside : a.move.OutOfBounds
      · exact obeys_proceed (if_pos outside) ⟨valid, rfl, rfl⟩
      · exact obeys_proceed (if_neg outside) ⟨valid, rfl, rfl⟩
  | exitingAirspace a radarId =>
      cases valid
      refine .send rfl rfl Nat.zero_lt_one ?_
      intro answer
      cases answer <;> exact ⟨trivial, rfl, rfl⟩
  | receiving a radarId =>
      refine .receive rfl rfl ⟨valid, rfl, rfl⟩ ⟨trivial, rfl, rfl⟩ ?_
      intro rcvid buffer
      obtain ⟨owes, once⟩ := a.repliesOnce_statements buffer
      exact ⟨⟨valid, once⟩, rfl, if_pos owes⟩
  | switching a radarId rcvid rest =>
      obtain ⟨radar, once⟩ := valid
      match rest, once with
      | [], _ => exact obeys_proceed rfl ⟨radar, rfl, rfl⟩
      | .assign b :: rest, once => exact obeys_proceed rfl ⟨⟨radar, once⟩, rfl, rfl⟩
      | .msgReply reply :: rest, once =>
          exact .reply rfl rfl ⟨⟨radar, once.2⟩, rfl, if_neg (Bool.eq_false_iff.mp once.1)⟩
      | .exitThread :: rest, once =>
          refine obeys_proceed rfl ⟨trivial, rfl, ?_⟩
          exact (if_neg (Bool.eq_false_iff.mp once)).symm
  | waiting a radarId => exact obeys_proceed rfl ⟨valid, rfl, rfl⟩
  | detaching a => exact obeys_proceed rfl ⟨trivial, rfl, rfl⟩
  | returned attached => exact .ended rfl rfl

theorem arrivalDeparture_obeys (l : ArrivalPoint) :
    (ledger installed n).Obeys .arrivalDeparture l := by
  cases l with
  | attaching => exact obeys_attempt rfl fun ok => .ite ⟨trivial, rfl, rfl⟩ ⟨trivial, rfl, rfl⟩
  | looping | failed =>
      exact obeys_access rfl fun data => .ite ⟨trivial, rfl, rfl⟩ ⟨trivial, rfl, rfl⟩
  | receiving =>
      refine .receive rfl rfl ⟨trivial, rfl, rfl⟩ ⟨trivial, rfl, rfl⟩ ?_
      intro rcvid buffer
      exact ⟨trivial, rfl, rfl⟩
  | replying rcvid msg => exact .reply rfl rfl ⟨trivial, rfl, rfl⟩
  | handling msg =>
      obtain ⟨header, type, planeID, data, dataSize⟩ := msg
      cases type with
      | enterAirspace | exitAirspace =>
          exact .acquire rfl (List.forall_mem_nil _) ⟨trivial, rfl, rfl⟩
      | positionUpdate | requestPosition | requestChangeOfHeading | requestChangePosition
      | requestChangeAltitude | requestAugmentedInfo | changeTimeConstraintCollisions | exit
      | collisionDetected => exact obeys_proceed rfl ⟨trivial, rfl, rfl⟩
  | changing msg => exact obeys_access rfl fun data => ⟨trivial, rfl, rfl⟩
  | unlocking => exact .release rfl List.mem_cons_self ⟨trivial, rfl, rfl⟩
  | ended => exact .ended rfl rfl

theorem updatePosition_obeys (l : UpdatePoint n) (valid : l.Valid) :
    (ledger installed n).Obeys .updatePosition l := by
  cases l with
  | looping =>
      exact obeys_access rfl fun data => .ite ⟨trivial, rfl, rfl⟩ ⟨trivial, rfl, rfl⟩
  | waiting => exact obeys_proceed rfl ⟨trivial, rfl, rfl⟩
  | testing =>
      exact obeys_access rfl fun data =>
        .ite ⟨trivial, rfl, rfl⟩ (.ite ⟨trivial, rfl, rfl⟩ ⟨trivial, rfl, rfl⟩)
  | copying => exact .acquire rfl (List.forall_mem_nil _) ⟨trivial, rfl, rfl⟩
  | copyLocked =>
      refine .compute rfl ?_
      intro input data data' l' result
      cases input with
      | planesToPoll ids =>
          dsimp only at result
          split at result
          · cases result
            exact ⟨trivial, rfl, rfl⟩
          · cases result
      | go | result | line | tick | planes | message | pairs => cases result
  | copied planesToPoll => exact .release rfl List.mem_cons_self ⟨trivial, rfl, rfl⟩
  | polling planesToPoll =>
      cases planesToPoll with
      | nil => exact obeys_proceed rfl ⟨trivial, rfl, rfl⟩
      | cons planeID rest => exact obeys_proceed rfl ⟨trivial, rfl, rfl⟩
  | finding planeID rest => exact .acquire rfl (List.forall_mem_nil _) ⟨trivial, rfl, rfl⟩
  | findLocked planeID rest => exact obeys_access rfl fun data => ⟨trivial, rfl, rfl⟩
  | found here planeID rest =>
      exact .release rfl List.mem_cons_self (.ite ⟨trivial, rfl, rfl⟩ ⟨trivial, rfl, rfl⟩)
  | opening planeID rest =>
      refine .connect rfl ⟨trivial, rfl, rfl⟩ ?_
      intro u m _ named
      exact ⟨hasName_of_name named, rfl, rfl⟩
  | sending planeID rest planeChannel =>
      refine .send rfl rfl (Thread.rank_lt_of_hasName valid) ?_
      intro answer
      cases answer <;> exact ⟨trivial, rfl, rfl⟩
  | answered info rest => exact obeys_access rfl fun data => ⟨trivial, rfl, rfl⟩
  | unreachable planeID rest => exact .acquire rfl (List.forall_mem_nil _) ⟨trivial, rfl, rfl⟩
  | eraseLocked planeID rest => exact obeys_access rfl fun data => ⟨trivial, rfl, rfl⟩
  | erased rest => exact .release rfl List.mem_cons_self ⟨trivial, rfl, rfl⟩
  | switching => exact .acquire rfl (List.forall_mem_nil _) ⟨trivial, rfl, rfl⟩
  | switchLocked => exact obeys_access rfl fun data => ⟨trivial, rfl, rfl⟩
  | switched => exact .release rfl List.mem_cons_self ⟨trivial, rfl, rfl⟩
  | writing polled =>
      by_cases mapped : installed.memoryMapped = true
      · exact .acquire (if_pos mapped) (List.forall_mem_nil _) ⟨trivial, rfl, rfl⟩
      · exact obeys_proceed (if_neg mapped) ⟨trivial, rfl, rfl⟩
  | bufferLocked polled =>
      refine obeys_semWait rfl ?_ ⟨trivial, rfl, rfl⟩
      intro held mem
      rw [List.mem_singleton.mp mem]
      exact Nat.zero_lt_one
  | storing polled =>
      refine .compute rfl ?_
      intro input data data' l' result
      cases input with
      | tick tickCounter memory =>
          cases result
          exact ⟨trivial, rfl, rfl⟩
      | go | result | line | planesToPoll | planes | message | pairs => cases result
  | stored polled => exact obeys_semPost rfl rfl ⟨trivial, rfl, rfl⟩
  | posted polled => exact .release rfl List.mem_cons_self ⟨trivial, rfl, rfl⟩
  | written polled => exact obeys_access rfl fun data => ⟨trivial, rfl, rfl⟩
  | ended => exact .ended rfl rfl

theorem atcMain_obeys (l : AtcMainPoint n) : (ledger installed n).Obeys .atcMain l := by
  cases l with
  | joiningAircraft rest =>
      cases rest with
      | nil => exact obeys_proceed rfl ⟨trivial, rfl, rfl⟩
      | cons i rest => exact .join rfl rfl (Nat.lt_of_sub_eq_succ rfl) ⟨trivial, rfl, rfl⟩
  | shuttingDown | clearing => exact obeys_access rfl fun data => ⟨trivial, rfl, rfl⟩
  | joiningArrivalDeparture | joiningUpdatePosition =>
      exact .join rfl rfl (Nat.lt_of_sub_eq_succ rfl) ⟨trivial, rfl, rfl⟩
  | ended => exact .ended rfl rfl

theorem monitor_obeys (l : MonitorPoint n) (valid : l.Valid) :
    (ledger installed n).Obeys .monitor l := by
  cases l with
  | testing | looping =>
      exact obeys_access rfl fun data => .ite ⟨trivial, rfl, rfl⟩ ⟨trivial, rfl, rfl⟩
  | startPausing | pausing | returning => exact obeys_proceed rfl ⟨trivial, rfl, rfl⟩
  | entering =>
      refine obeys_semWait rfl (List.forall_mem_nil _) ⟨trivial, ?_, rfl⟩
      exact (List.append_nil _).symm
  | reading =>
      refine .compute rfl ?_
      intro input data data' l' result
      cases input with
      | planes any =>
          cases result
          exact ⟨trivial, rfl, rfl⟩
      | go | result | line | planesToPoll | tick | message | pairs => cases result
  | leaving snapshot =>
      refine obeys_semPost rfl ?_ ⟨trivial, rfl, rfl⟩
      exact (List.append_nil _).symm
  | deciding snapshot =>
      cases snapshot with
      | none => exact obeys_access rfl fun data => ⟨trivial, rfl, rfl⟩
      | some planes =>
          refine .compute rfl ?_
          intro input data data' l' result
          cases input with
          | message any =>
              cases result
              exact ⟨trivial, rfl, rfl⟩
          | go | result | line | planesToPoll | tick | planes | pairs => cases result
  | opening msg =>
      refine .connect rfl ⟨trivial, rfl, rfl⟩ ?_
      intro u m _ named
      exact ⟨hasName_of_name named, rfl, rfl⟩
  | sending msg displayChannel =>
      exact .send rfl rfl (Thread.rank_lt_of_hasName valid) fun answer => ⟨trivial, rfl, rfl⟩
  | ended => exact .ended rfl rfl

theorem operatorInput_obeys (l : OperatorInputPoint) :
    (ledger installed n).Obeys .operatorInput l := by
  cases l with
  | starting => exact obeys_attempt rfl fun ok => .ite ⟨trivial, rfl, rfl⟩ ⟨trivial, rfl, rfl⟩
  | looping =>
      exact obeys_access rfl fun data => .ite ⟨trivial, rfl, rfl⟩ ⟨trivial, rfl, rfl⟩
  | receiving =>
      refine .receive rfl rfl ⟨trivial, rfl, rfl⟩ ⟨trivial, rfl, rfl⟩ ?_
      intro rcvid msg
      exact ⟨trivial, rfl, rfl⟩
  | replying rcvid msg => exact .reply rfl rfl ⟨trivial, rfl, rfl⟩
  | handling msg => exact obeys_access rfl fun data => ⟨trivial, rfl, rfl⟩
  | ended => exact .ended rfl rfl

theorem communications_obeys (l : CommunicationsPoint n) (valid : l.Valid) :
    (ledger installed n).Obeys .communications l := by
  cases l with
  | receiving =>
      refine .receive rfl rfl ⟨trivial, rfl, rfl⟩ ⟨trivial, rfl, rfl⟩ ?_
      intro rcvid msg
      exact .ite ⟨trivial, rfl, rfl⟩ (.ite ⟨trivial, rfl, rfl⟩ ⟨trivial, rfl, rfl⟩)
  | replyingExit rcvid | refusing rcvid | replying rcvid msg =>
      exact .reply rfl rfl ⟨trivial, rfl, rfl⟩
  | openingAugmented rcvid msg | opening msg =>
      refine .connect rfl ⟨trivial, rfl, rfl⟩ ?_
      intro u m _ named
      exact ⟨hasName_of_name named, rfl, rfl⟩
  | askingAugmented rcvid msg planeChannel =>
      refine .send rfl rfl (Nat.lt_succ_of_lt (Thread.rank_lt_of_hasName valid)) ?_
      intro answer
      cases answer <;> exact ⟨trivial, rfl, rfl⟩
  | answering rcvid aircraftReply =>
      by_cases full : sizeofMsgPlaneInfo ≤ aircraftReply.dataSize.toNat
      · exact .reply (if_pos full) rfl ⟨trivial, rfl, rfl⟩
      · exact .reply (if_neg full) rfl ⟨trivial, rfl, rfl⟩
  | sending msg planeChannel =>
      exact .send rfl rfl (Nat.lt_succ_of_lt (Thread.rank_lt_of_hasName valid))
        fun answer => ⟨trivial, rfl, rfl⟩
  | ended => exact .ended rfl rfl

theorem console_obeys (l : ConsolePoint) : (ledger installed n).Obeys .console l := by
  cases l with
  | reading =>
      refine .compute rfl ?_
      intro input data data' l' result
      exact ⟨trivial, rfl, rfl⟩
  | connecting server msg =>
      exact obeys_attempt rfl fun ok => .ite ⟨trivial, rfl, rfl⟩ ⟨trivial, rfl, rfl⟩
  | sending server msg =>
      refine .send rfl rfl ?_ fun answer => ⟨trivial, rfl, rfl⟩
      cases server <;> exact Nat.lt_of_sub_eq_succ rfl
  | returning => exact obeys_proceed rfl ⟨trivial, rfl, rfl⟩
  | ended => exact .ended rfl rfl

theorem computerMain_obeys (l : ComputerMainPoint) :
    (ledger installed n).Obeys .computerMain l := by
  cases l with
  | joiningMonitor | joiningOperatorInput | joiningConsole | joiningCommunications =>
      exact .join rfl rfl (Nat.lt_of_sub_eq_succ rfl) ⟨trivial, rfl, rfl⟩
  | clearingListen => exact obeys_access rfl fun data => ⟨trivial, rfl, rfl⟩
  | ended => exact .ended rfl rfl

theorem displayLoop_obeys (l : DisplayPoint) : (ledger installed n).Obeys .displayLoop l := by
  cases l with
  | testing | looping =>
      exact obeys_access rfl fun data => .ite ⟨trivial, rfl, rfl⟩ ⟨trivial, rfl, rfl⟩
  | startPausing | pausing => exact obeys_proceed rfl ⟨trivial, rfl, rfl⟩
  | entering =>
      refine obeys_semWait rfl (List.forall_mem_nil _) ⟨trivial, ?_, rfl⟩
      exact (List.append_nil _).symm
  | reading =>
      refine .compute rfl ?_
      intro input data data' l' result
      cases input with
      | planes any =>
          cases result
          exact ⟨trivial, rfl, rfl⟩
      | go | result | line | planesToPoll | tick | message | pairs => cases result
  | leaving snapshot =>
      refine obeys_semPost rfl ?_ ⟨trivial, rfl, rfl⟩
      exact (List.append_nil _).symm
  | deciding snapshot =>
      cases snapshot with
      | none => exact obeys_access rfl fun data => ⟨trivial, rfl, rfl⟩
      | some planes => exact .acquire rfl (List.forall_mem_nil _) ⟨trivial, rfl, rfl⟩
  | rendering => exact .release rfl List.mem_cons_self ⟨trivial, rfl, rfl⟩
  | ended => exact .ended rfl rfl

theorem collisionListener_obeys (l : ListenerPoint) :
    (ledger installed n).Obeys .collisionListener l := by
  cases l with
  | attaching attempts =>
      exact obeys_attempt rfl fun ok =>
        .ite ⟨trivial, rfl, rfl⟩ (.ite ⟨trivial, rfl, rfl⟩ ⟨trivial, rfl, rfl⟩)
  | looping | failed =>
      exact obeys_access rfl fun data => .ite ⟨trivial, rfl, rfl⟩ ⟨trivial, rfl, rfl⟩
  | receiving =>
      refine .receive rfl rfl ⟨trivial, rfl, rfl⟩ ⟨trivial, rfl, rfl⟩ ?_
      intro rcvid msg
      exact ⟨trivial, rfl, rfl⟩
  | replying rcvid msg => exact .reply rfl rfl ⟨trivial, rfl, rfl⟩
  | decoding msg =>
      refine .compute rfl ?_
      intro input data data' l' result
      cases input with
      | pairs any =>
          simp only at result
          split at result <;> cases result <;> exact ⟨trivial, rfl, rfl⟩
      | go | result | line | planesToPoll | tick | planes | message => cases result
  | locking pairs => exact .acquire rfl (List.forall_mem_nil _) ⟨trivial, rfl, rfl⟩
  | showing pairs => exact obeys_access rfl fun data => ⟨trivial, rfl, rfl⟩
  | shown => exact .release rfl List.mem_cons_self ⟨trivial, rfl, rfl⟩
  | ended => exact .ended rfl rfl

theorem displayMain_obeys (l : DisplayMainPoint) :
    (ledger installed n).Obeys .displayMain l := by
  cases l with
  | joiningDisplayLoop | joiningCollisionListener =>
      exact .join rfl rfl (Nat.lt_of_sub_eq_succ rfl) ⟨trivial, rfl, rfl⟩
  | ended => exact .ended rfl rfl

theorem processes_disciplined : (ledger installed n).Disciplined := by
  intro t l valid
  cases t with
  | aircraft i => exact aircraft_obeys i l valid
  | arrivalDeparture => exact arrivalDeparture_obeys l
  | updatePosition => exact updatePosition_obeys l valid
  | atcMain => exact atcMain_obeys l
  | monitor => exact monitor_obeys l valid
  | operatorInput => exact operatorInput_obeys l
  | communications => exact communications_obeys l valid
  | console => exact console_obeys l
  | computerMain => exact computerMain_obeys l
  | displayLoop => exact displayLoop_obeys l
  | collisionListener => exact collisionListener_obeys l
  | displayMain => exact displayMain_obeys l

/-! ## Every reachable state -/

theorem start_invariant (installed : Installation) (planeData : List PlaneData) :
    Invariant (ledger installed planeData.length) (startProcesses installed planeData) := by
  refine .start ?_ ?_ ?_ <;> intro t
  · cases t <;> trivial
  · cases t <;> rfl
  · cases t <;> rfl

/-- For any number of aircraft, in every state the threads can reach: a server that is
about to receive again, or has ended, has replied exactly once to every message it
received; and no thread waits, through other threads, for itself. -/
theorem no_deadlock (installed : Installation) (planeData : List PlaneData)
    (labels : List (ProcessLabel planeData.length))
    (s : ProcessState installed planeData.length)
    (run : Machine.run State.step (startProcesses installed planeData) labels = some s) :
    (∀ t, ((∃ after, (processes installed planeData.length).next t (s.point t) = .receive after) ∨
        (processes installed planeData.length).next t (s.point t) = .ended) →
      AnsweredOnce (s.log t)) ∧
    ∀ t, ¬ Relation.TransGen (WaitsFor s) t t := by
  have inv := (start_invariant installed planeData).run processes_disciplined run
  exact ⟨fun t free => inv.answeredOnce processes_disciplined free,
    waitsFor_acyclic processes_disciplined inv⟩

def allOpened : Installation := ⟨fun _ => true, true, Radar.clearedMemory⟩

/-- Two aircraft, of which the second leaves at once. -/
def twoPlanes : List PlaneData :=
  [⟨0, 1, 50000, 50000, 20000, 0, 0, 0⟩, ⟨0, 2, 100000, 50000, 20000, 1, 0, 0⟩]

def firstAircraft : Thread 2 := .aircraft ⟨0, Nat.zero_lt_two⟩

def secondAircraft : Thread 2 := .aircraft ⟨1, Nat.one_lt_two⟩

def waitingLabels : List (ProcessLabel 2) :=
  [.compute .arrivalDeparture (.result true), .compute .arrivalDeparture .go,
    -- the first aircraft enters
    .compute firstAircraft .go, .connect firstAircraft (some .arrivalDeparture),
    .send firstAircraft, .receive .arrivalDeparture firstAircraft, .reply .arrivalDeparture,
    .acquire .arrivalDeparture, .compute .arrivalDeparture .go, .release .arrivalDeparture,
    .compute .arrivalDeparture .go, .compute firstAircraft (.result true),
    -- Radar is about to copy the IDs it knows of
    .compute .updatePosition .go, .compute .updatePosition .go, .compute .updatePosition .go,
    .acquire .updatePosition,
    -- the second aircraft has entered, and sends its second message
    .compute secondAircraft .go, .connect secondAircraft (some .arrivalDeparture),
    .send secondAircraft, .receive .arrivalDeparture secondAircraft, .reply .arrivalDeparture,
    .compute secondAircraft (.result true), .compute secondAircraft .go, .send secondAircraft,
    -- the operator asks for the state of the first one
    .compute .console (.line (.accepted (.requestAugmentedInfo 1))),
    .compute .console (.result true), .send .console, .receive .communications .console,
    .connect .communications (some firstAircraft), .send .communications]

/-- The senders are blocked, and Radar's arrival thread is about to lock the mutex. -/
def isWaiting (s : ProcessState allOpened 2) : Bool :=
  s.status secondAircraft = .sendBlocked .arrivalDeparture &&
    s.status .console = .replyBlocked .communications 3 &&
    s.status .communications = .sendBlocked firstAircraft &&
    .updatePosition ∈ (s.locks .airspaceMutex).holders &&
    match s.point .arrivalDeparture with
    | .handling msg => msg.type = .enterAirspace
    | _ => false

theorem waitsFor_airspaceMutex {s : ProcessState installed n} {msg : Message} {u : Thread n}
    (at_ : s.point .arrivalDeparture = .handling msg) (kind : msg.type = .enterAirspace)
    (held : u ∈ (s.locks .airspaceMutex).holders) : WaitsFor s .arrivalDeparture u := by
  have locks : (processes installed n).next .arrivalDeparture (s.point .arrivalDeparture) =
      .acquire .airspaceMutex (.changing msg) := by
    rw [at_]
    show ArrivalPoint.next (.handling msg) = _
    simp only [ArrivalPoint.next, kind]
    rfl
  exact .lock locks held

/-- Two chains of waiting threads: from the second aircraft through Radar's arrival thread
to its other one, and from the console through the relay to the first aircraft. -/
theorem no_deadlock_waiting :
    ∃ s : ProcessState allOpened 2,
      Machine.run State.step (startProcesses allOpened twoPlanes) waitingLabels = some s ∧
      Relation.TransGen (WaitsFor s) (.aircraft 1) .updatePosition ∧
      Relation.TransGen (WaitsFor s) .console (.aircraft 0) ∧
      ∀ t, ¬ Relation.TransGen (WaitsFor s) t t := by
  obtain ⟨s, run, test⟩ := Machine.exists_of_map_run State.step
    (startProcesses allOpened twoPlanes : ProcessState allOpened 2) waitingLabels isWaiting
    (by decide +kernel)
  simp only [isWaiting, Bool.and_eq_true, decide_eq_true_eq] at test
  obtain ⟨⟨⟨⟨aircraft, console⟩, relay⟩, holder⟩, arrival⟩ := test
  refine ⟨s, run, ?_, ?_, (no_deadlock allOpened twoPlanes waitingLabels s run).2⟩
  · split at arrival
    · rename_i msg at_
      exact .head (.message (congrArg Status.server? aircraft))
        (.single (waitsFor_airspaceMutex at_ (of_decide_eq_true arrival) holder))
    · cases arrival
  · exact .head (.message (congrArg Status.server? console))
      (.single (.message (congrArg Status.server? relay)))

end QnxAtc
