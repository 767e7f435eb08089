import QnxAtc.Library.Machine
import QnxAtc.Library.FixedArray
import QnxAtc.Library.Extraction
import QnxAtc.Library.Numerals
import QnxAtc.Messages.Layout
import QnxAtc.Messages.Structs
import QnxAtc.Aircraft.State
import QnxAtc.Aircraft.Thread
import QnxAtc.Aircraft.Reports
import QnxAtc.Aircraft.Timing
import QnxAtc.Aircraft.Transition
import QnxAtc.Aircraft.Trajectory
import QnxAtc.Computer.CheckAxes
import QnxAtc.Computer.Prediction
import QnxAtc.Library.OrderedPairs
import QnxAtc.Computer.Alert
import QnxAtc.Radar.State
import QnxAtc.Radar.Snapshots
import QnxAtc.Library.Pool
import QnxAtc.AirTrafficControl.System
import QnxAtc.AirTrafficControl.Entered
import QnxAtc.Readers.Reader
import QnxAtc.Readers.Stopping
import QnxAtc.Readers.Seen
import QnxAtc.AirTrafficControl.Capacity
import QnxAtc.AirTrafficControl.Crowd
import QnxAtc.AirTrafficControl.PlanesFile
import QnxAtc.AirTrafficControl.Announcements
import QnxAtc.AirTrafficControl.Departed
import QnxAtc.AirTrafficControl.Published
import QnxAtc.Operator.Commands
import QnxAtc.Operator.System
import QnxAtc.Operator.Delivery
import QnxAtc.Operator.ConsoleInput
import QnxAtc.Operator.Forwarding
import QnxAtc.Computer.Shortcut
import QnxAtc.Computer.Horizon
import QnxAtc.Computer.ConflictSet
import QnxAtc.Display.CollisionListener
import QnxAtc.Display.AlertDecoder
import QnxAtc.Operator.Acknowledged
import QnxAtc.Operator.LiveInfo
import QnxAtc.Library.Semaphore
import QnxAtc.Library.WordMemory
import QnxAtc.Readers.SharedAccess
import QnxAtc.Readers.Atomic
import QnxAtc.Readers.Torn
import QnxAtc.Library.Discipline
import QnxAtc.Processes.Threads
import QnxAtc.Processes.Atc
import QnxAtc.Processes.Computer
import QnxAtc.Processes.Display
import QnxAtc.Processes.Deadlock
import QnxAtc.Processes.Shutdown
import QnxAtc.Display.Render
import QnxAtc.Display.ReadBack
import QnxAtc.AirPicture.System
import QnxAtc.Library.Bulletin
import QnxAtc.AirPicture.Alerts
import QnxAtc.AirPicture.Frames
