import QnxAtc.AirTrafficControl.System
import QnxAtc.Display.CollisionListener
import QnxAtc.Library.Discipline
import QnxAtc.Operator.System
import QnxAtc.Readers.SharedAccess

/-! # The threads of the three processes

Every thread of the ATC, Computer and Display processes as a program of the operations
at which it can block or be interrupted. What threads of one process share, and shared
memory, are data that the steps between these operations read and write. The programs
are in `QnxAtc.Processes.Atc`, `QnxAtc.Processes.Computer` and `QnxAtc.Processes.Display`.
-/

namespace QnxAtc

open MessagePassing

/-- The threads, for `n` aircraft. -/
inductive Thread (n : Nat) where
  | aircraft (i : Fin n)
  /-- `Radar::ListenAirspaceArrivalAndDeparture` -/
  | arrivalDeparture
  /-- `Radar::ListenUpdatePosition` -/
  | updatePosition
  | atcMain
  /-- `ComputerSystem::monitorAirspace` -/
  | monitor
  /-- `ComputerSystem::processMessage` -/
  | operatorInput
  /-- `CommunicationsSystem::HandleCommunications` -/
  | communications
  /-- `OperatorConsole::HandleConsoleInputs` -/
  | console
  | computerMain
  /-- `Display::displayLoop` -/
  | displayLoop
  /-- `Display::collisionListener` -/
  | collisionListener
  | displayMain
deriving DecidableEq

inductive Lock where
  | airspaceMutex
  | bufferSwitchMutex
  | collisionMutex
  | shmSem
deriving DecidableEq

/-! ## Channel names -/

def radarChannelName : String := "dipi_radar"

def displayChannelName : String := "dipi_display"

def planeChannelName (id : Int32) : String := "dipi" ++ decimal id

/-- No aircraft takes the name of Radar's channel. -/
theorem planeChannelName_ne_radarChannelName (id : Int32) :
    planeChannelName id ≠ radarChannelName := by
  intro h
  have chars := congrArg String.toList h
  have radar : radarChannelName.toList = "dipi".toList ++ "_radar".toList := by decide
  rw [planeChannelName, String.toList_append, radar] at chars
  have underscore : '_' ∈ (decimal id).toList := by
    rw [List.append_cancel_left chars]
    decide
  rcases mem_decimal underscore with sign | digit
  · exact absurd sign (by decide)
  · exact absurd digit (by decide)

/-! ## Data and inputs -/

/-- What the threads of a process share, and what the processes share. -/
structure SharedData where
  /-- the members of `Radar`, with the shared memory it writes -/
  radar : Radar
  /-- `ComputerSystem::running` -/
  running : Bool
  operator : OperatorInput
  /-- `Display::running` -/
  displayRunning : Bool
  collisionWarnings : List String

/-- What a line typed at the console is. -/
inductive ConsoleLine where
  | endOfInput
  | rejected
  | accepted (cmd : ConsoleCommand)

inductive ThreadInput where
  | go
  /-- the result of a system call -/
  | result (ok : Bool)
  | line (line : ConsoleLine)
  /-- the order in which the IDs of the airspace are visited -/
  | planesToPoll (ids : List Int32)
  | tick (tickCounter : UInt64) (memory : SharedMemory)
  | planes (planes : List MsgPlaneInfo)
  | message (msg : MessageInterProcess)
  | pairs (pairs : List (Int32 × Int32))

/-- A copy that leaves its array has no defined outcome: the input supplies one. -/
def settled {α : Type} (outcome : Except Fault α) (any : α) : α :=
  match outcome with
  | .ok a => a
  | .error _ => any

abbrev ThreadOperation (n : Nat) (π : Type) :=
  Operation (Thread n) String MessageInterProcess Reply Lock ThreadInput SharedData π

variable {n : Nat} {π : Type}

/-- A step of the thread's own, such as a timer that has ticked. -/
def proceed (after : π) : ThreadOperation n π := .compute fun _ data => some (data, after)

/-- A step that reads or writes what is shared. -/
def access (after : SharedData → SharedData × π) : ThreadOperation n π :=
  .compute fun _ data => some (after data)

/-- A system call that may fail. -/
def attempt (after : Bool → π) : ThreadOperation n π :=
  .compute fun input data =>
    match input with
    | .result ok => some (data, after ok)
    | _ => none

/-- What the processes find installed when they start. -/
structure Installation where
  /-- whether `sem_open` succeeded -/
  semaphoreOpened : Party → Bool
  /-- whether Radar's `mmap` succeeded -/
  memoryMapped : Bool
  /-- what the readers find in a shared memory that Radar could not map -/
  leftMemory : SharedMemory

def Installation.start (installed : Installation) : SharedData where
  radar :=
    { Radar.start with
      shared := if installed.memoryMapped then Radar.clearedMemory else installed.leftMemory }
  running := true
  operator := ⟨true, 180⟩
  displayRunning := true
  collisionWarnings := []

/-- `if (shm_sem != SEM_FAILED) sem_wait(shm_sem)` -/
def Installation.semWait (installed : Installation) (party : Party) (after : π) :
    ThreadOperation n π :=
  if installed.semaphoreOpened party then .acquire .shmSem after else proceed after

/-- `if (shm_sem != SEM_FAILED) sem_post(shm_sem)` -/
def Installation.semPost (installed : Installation) (party : Party) (after : π) :
    ThreadOperation n π :=
  if installed.semaphoreOpened party then .release .shmSem after else proceed after

/-- The locks a party holds between the two. -/
def Installation.semHeld (installed : Installation) (party : Party) : List Lock :=
  if installed.semaphoreOpened party then [.shmSem] else []

end QnxAtc
