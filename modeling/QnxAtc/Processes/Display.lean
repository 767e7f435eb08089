import QnxAtc.Processes.Computer

/-! # The threads of the Display process

The display loop, the collision listener, and the main thread in `join`.
-/

namespace QnxAtc

open MessagePassing

variable {n : Nat}

/-! ## Display loop -/

inductive DisplayPoint where
  | testing  -- of the loop that waits for a first aircraft
  | startPausing
  | looping
  | entering
  | reading
  | leaving (snapshot : Option (List MsgPlaneInfo))
  | deciding (snapshot : Option (List MsgPlaneInfo))
  | rendering  -- holds collision_mutex
  | pausing
  | ended

/-- `displayLoop`, with `render` around its use of the warnings. -/
def DisplayPoint.next (installed : Installation) : DisplayPoint → ThreadOperation n DisplayPoint
  | .testing => access fun data =>
      (data, if data.radar.shared.isEmpty then .startPausing else .looping)
  | .startPausing => proceed .testing
  | .looping => access fun data => (data, if data.displayRunning then .entering else .ended)
  | .entering => installed.semWait (.reader .display) .reading
  | .reading => .compute fun input data =>
      match input with
      | .planes any => some (data, .leaving (snapshotOf data.radar.shared any))
      | _ => none
  | .leaving snapshot => installed.semPost (.reader .display) (.deciding snapshot)
  | .deciding none => access fun data => ({ data with displayRunning := false }, .ended)
  | .deciding (some _) => .acquire .collisionMutex .rendering
  | .rendering => .release .collisionMutex .pausing
  | .pausing => proceed .looping
  | .ended => .ended

/-! ## Collision listener -/

inductive ListenerPoint where
  | attaching (attempt : Nat)
  | looping
  | receiving
  | failed
  | replying (rcvid : Nat) (msg : MessageInterProcess)
  | decoding (msg : MessageInterProcess)
  | locking (pairs : List (Int32 × Int32))
  | showing (pairs : List (Int32 × Int32))  -- holds collision_mutex
  | shown
  | ended

namespace ListenerPoint

def name : ListenerPoint → Option String
  | .attaching _ | .ended => none
  | _ => some displayChannelName

/-- `collisionListener`. -/
def next : ListenerPoint → ThreadOperation n ListenerPoint
  | .attaching attempts => attempt fun ok =>
      if ok then .looping
      else if attempts + 1 < 5 then .attaching (attempts + 1)
      else .ended
  | .looping => access fun data => (data, if data.displayRunning then .receiving else .ended)
  | .receiving => .receive fun
      | .error => .failed
      | .pulse => .looping
      | .message rcvid msg => .replying rcvid msg
  | .failed => access fun data => (data, if data.displayRunning then .looping else .ended)
  | .replying rcvid msg => .reply rcvid (some .empty) (.decoding msg)
  | .decoding msg => .compute fun input data =>
      match input with
      | .pairs any =>
          if msg.type = .collisionDetected then
            some (data, .locking (settled (receivedPairs msg) any))
          else some (data, .looping)
      | _ => none
  | .locking pairs => .acquire .collisionMutex (.showing pairs)
  | .showing pairs => access fun data =>
      ({ data with collisionWarnings := pairs.map collisionWarning }, .shown)
  | .shown => .release .collisionMutex .looping
  | .ended => .ended

end ListenerPoint

/-! ## The main thread -/

inductive DisplayMainPoint where
  | joiningDisplayLoop
  | joiningCollisionListener
  | ended

/-- `Display::join`. -/
def DisplayMainPoint.next : DisplayMainPoint → ThreadOperation n DisplayMainPoint
  | .joiningDisplayLoop => .join .displayLoop .joiningCollisionListener
  | .joiningCollisionListener => .join .collisionListener .ended
  | .ended => .ended

end QnxAtc
