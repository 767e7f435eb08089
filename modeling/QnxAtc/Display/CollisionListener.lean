import QnxAtc.Aircraft.Thread
import QnxAtc.Computer.Alert
import Mathlib.Data.List.Basic
import Std.Data.String.ToInt

/-! # The Display's collision listener

`collisionListener` of `Display.cpp` takes the alerts of the Computer system apart. The
sender copies a vector of `std::pair<int, int>` into a byte array, the receiver copies
the bytes back into a vector whose length it computes from `dataSize`.
-/

namespace QnxAtc

open FixedArray

/-! ## The pair list of a message -/

/-- The first pairs of an array of `std::pair<int, int>`. -/
def pairsOfBytes : Nat → List Byte → List (Int32 × Int32)
  | 0, _ => []
  | numPairs + 1, bytes =>
      (loadInt bytes, loadInt (bytes.drop sizeofInt)) ::
        pairsOfBytes numPairs (bytes.drop sizeofPairIntInt)

/-- The vector `pairs`, filled by a `memcpy` of `dataSize` bytes that neither array bounds. -/
def receivedPairs (msg : MessageInterProcess) : Except Fault (List (Int32 × Int32)) :=
  let numPairs := msg.dataSize.toNat / sizeofPairIntInt
  if msg.dataSize.toNat ≤ dataCapacity ∧ msg.dataSize.toNat ≤ numPairs * sizeofPairIntInt then
    .ok (pairsOfBytes numPairs msg.data.toList)
  else .error .bufferOverflow

def collisionWarning (p : Int32 × Int32) : String :=
  "*** COLLISION WARNING: Plane " ++ decimal p.1 ++ " <-> Plane " ++ decimal p.2 ++ " ***"

/-! ## The thread -/

inductive ListenerPhase where
  | attaching (attempt : Nat)
  | receiving
  | ended
  | crashed (fault : Fault)

structure CollisionListener where
  phase : ListenerPhase
  running : Bool  -- shared with the display loop, which clears it
  collisionWarnings : List String
  received : List MessageInterProcess  -- history: every message taken, in order

inductive ListenerInput where
  | attach (ok : Bool)
  | received (r : Received MessageInterProcess)
  | stop

namespace CollisionListener

def start : CollisionListener := ⟨.attaching 0, true, [], []⟩

/-- The condition of the receive loop. -/
def loopHead (d : CollisionListener) : CollisionListener :=
  { d with phase := if d.running then .receiving else .ended }

/-- What is done with a message, after the reply to it. -/
def showAlert (d : CollisionListener) (msg : MessageInterProcess) : CollisionListener :=
  if msg.type = .collisionDetected then
    match receivedPairs msg with
    | .error fault => { d with phase := .crashed fault }
    | .ok pairs => { d with collisionWarnings := pairs.map collisionWarning }.loopHead
  else d.loopHead

def step (d : CollisionListener) (input : ListenerInput) : Option CollisionListener :=
  match d.phase, input with
  | .attaching _, .attach true => some d.loopHead
  | .attaching attempt, .attach false =>
      some { d with phase := if attempt + 1 < 5 then .attaching (attempt + 1) else .ended }
  | .receiving, .received .error => some d.loopHead
  | .receiving, .received .pulse => some d.loopHead
  | .receiving, .received (.message msg) =>
      some ({ d with received := d.received ++ [msg] }.showAlert msg)
  | _, .stop => some { d with running := false }
  | _, _ => none

/-- Every step but the handling of a message keeps what is shown. -/
theorem step_cases {d d' : CollisionListener} {input : ListenerInput}
    (h : d.step input = some d') :
    (∃ msg, input = .received (.message msg) ∧
      d' = { d with received := d.received ++ [msg] }.showAlert msg) ∨
    (d'.collisionWarnings = d.collisionWarnings ∧ d'.received = d.received ∧
      ∀ fault, d'.phase = .crashed fault → d.phase = .crashed fault) := by
  unfold step at h
  split at h
  case h_1 | h_3 | h_4 =>
    cases h
    refine .inr ⟨rfl, rfl, ?_⟩
    intro fault crashed
    simp only [loopHead] at crashed
    split at crashed <;> cases crashed
  case h_2 =>
    cases h
    refine .inr ⟨rfl, rfl, ?_⟩
    intro fault crashed
    simp only at crashed
    split at crashed <;> cases crashed
  case h_5 msg _ => cases h; exact .inl ⟨msg, rfl, rfl⟩
  case h_6 => cases h; exact .inr ⟨rfl, rfl, fun _ crashed => crashed⟩
  case h_7 => cases h

end CollisionListener

/-! ## The copy back -/

theorem pairsOfBytes_pairsBytes (pairs : List (Int32 × Int32)) (rest : List Byte) :
    pairsOfBytes pairs.length (pairsBytes pairs ++ rest) = pairs := by
  induction pairs with
  | nil => rfl
  | cons pair pairs ih =>
      have layout : pairsBytes (pair :: pairs) ++ rest =
          intBytes pair.1 ++ (intBytes pair.2 ++ (pairsBytes pairs ++ rest)) := by
        simp only [pairsBytes, List.flatMap_cons, pairBytes, List.append_assoc]
      have second : (intBytes pair.1 ++ (intBytes pair.2 ++ (pairsBytes pairs ++ rest))).drop
          sizeofInt = intBytes pair.2 ++ (pairsBytes pairs ++ rest) :=
        List.drop_left' (intBytes_length _)
      have later : (intBytes pair.1 ++ (intBytes pair.2 ++ (pairsBytes pairs ++ rest))).drop
          sizeofPairIntInt = pairsBytes pairs ++ rest := by
        rw [← List.append_assoc]
        exact List.drop_left' (by simp [sizeofPairIntInt])
      rw [layout, List.length_cons, pairsOfBytes, second, later, ih, loadInt_intBytes_append,
        loadInt_intBytes_append]

/-- The listener gets back the pair list the alert was made of. -/
theorem receivedPairs_alertMessage {pairs : List (Int32 × Int32)} {msg : MessageInterProcess}
    (sent : alertMessage pairs = .ok msg) (few : pairs.length ≤ alertCapacity) :
    receivedPairs msg = .ok pairs := by
  have fits := (pairsBytes_fit_iff pairs).mpr few
  obtain ⟨_, same, _, size, bytes⟩ := alertMessage_of_fits fits
  cases Except.ok.inj (sent.symm.trans same)
  have count : (pairsBytes pairs).length / sizeofPairIntInt = pairs.length := by
    rw [pairsBytes_length]
    exact Nat.mul_div_cancel _ (by decide)
  have whole : (pairsBytes pairs).length ≤ pairs.length * sizeofPairIntInt :=
    le_of_eq (pairsBytes_length pairs)
  have content : msg.data.toList = pairsBytes pairs ++ msg.data.toList.drop msg.dataSize.toNat := by
    rw [← bytes, List.take_append_drop]
  unfold receivedPairs
  rw [size, count, if_pos ⟨fits, whole⟩, content, pairsOfBytes_pairsBytes]

/-! ## The text of a warning -/

theorem decimal_injective {m n : Int32} (h : decimal m = decimal n) : m = n :=
  Int32.toInt_inj.mp (Int.repr_injective h)

theorem mem_decimal {n : Int32} {c : Char} (h : c ∈ (decimal n).toList) :
    c ∈ "-".toList ∨ c.isDigit = true := by
  unfold decimal at h
  rw [Int.repr_eq_if] at h
  split at h
  · rw [Nat.toList_repr] at h
    exact .inr (Nat.isDigit_of_mem_toDigits (by decide) (by decide) h)
  · rw [String.toList_append, List.mem_append, Nat.toList_repr] at h
    rcases h with sign | digits
    · exact .inl sign
    · exact .inr (Nat.isDigit_of_mem_toDigits (by decide) (by decide) digits)

theorem space_not_mem_decimal (n : Int32) : ' ' ∉ (decimal n).toList := by
  intro h
  rcases mem_decimal h with sign | digit
  · exact absurd sign (by decide)
  · exact absurd digit (by decide)

theorem split_at_space {xs ys xs' ys' : List Char} (hx : ' ' ∉ xs) (hx' : ' ' ∉ xs')
    (h : xs ++ ' ' :: ys = xs' ++ ' ' :: ys') : xs = xs' ∧ ys = ys' := by
  induction xs generalizing xs' with
  | nil =>
      cases xs' with
      | nil => exact ⟨rfl, (List.cons.inj h).2⟩
      | cons c cs =>
          have first : ' ' = c := (List.cons.inj h).1
          exact absurd (first ▸ List.mem_cons_self) hx'
  | cons c cs ih =>
      cases xs' with
      | nil =>
          have first : c = ' ' := (List.cons.inj h).1
          exact absurd (first ▸ List.mem_cons_self) hx
      | cons c' cs' =>
          obtain ⟨head, tail⟩ := List.cons.inj h
          have rest := ih (fun hc => hx (List.mem_cons_of_mem c hc))
            (fun hc => hx' (List.mem_cons_of_mem c' hc)) tail
          exact ⟨by rw [head, rest.1], rest.2⟩

theorem toList_append_append (a b c d e : String) : (a ++ b ++ c ++ d ++ e).toList =
    a.toList ++ (b.toList ++ (c.toList ++ (d.toList ++ e.toList))) := by
  simp only [String.toList_append, List.append_assoc]

theorem collisionWarning_toList (p : Int32 × Int32) : (collisionWarning p).toList =
    "*** COLLISION WARNING: Plane ".toList ++ ((decimal p.1).toList ++
      (" <-> Plane ".toList ++ ((decimal p.2).toList ++ " ***".toList))) :=
  toList_append_append _ _ _ _ _

/-- A warning tells both IDs. -/
theorem collisionWarning_injective : Function.Injective collisionWarning := by
  intro p q h
  have chars := congrArg String.toList h
  have middle : " <-> Plane ".toList = ' ' :: "<-> Plane ".toList := by simp
  have last : " ***".toList = ' ' :: "***".toList := by simp
  rw [collisionWarning_toList, collisionWarning_toList, middle, last] at chars
  -- each number ends at the first space after it
  obtain ⟨first, rest⟩ := split_at_space (space_not_mem_decimal _) (space_not_mem_decimal _)
    (List.append_cancel_left chars)
  obtain ⟨second, _⟩ := split_at_space (space_not_mem_decimal _) (space_not_mem_decimal _)
    (List.append_cancel_left rest)
  exact Prod.ext (decimal_injective (String.toList_injective first))
    (decimal_injective (String.toList_injective second))

/-! ## What is shown -/

/-- The most recent collision alert among the messages received. -/
def latestAlert (received : List MessageInterProcess) : Option MessageInterProcess :=
  received.reverse.find? fun msg => msg.type = .collisionDetected

theorem latestAlert_concat (received : List MessageInterProcess) (msg : MessageInterProcess) :
    latestAlert (received ++ [msg]) =
      if msg.type = .collisionDetected then some msg else latestAlert received := by
  simp only [latestAlert, List.reverse_append, List.reverse_cons, List.reverse_nil,
    List.nil_append, List.singleton_append, List.find?_cons]
  split <;> simp_all

/-- Every alert among these messages was made by the encoding of `checkCollision`. -/
def AlertsEncoded (received : List MessageInterProcess) : Prop :=
  ∀ msg ∈ received, msg.type = .collisionDetected →
    ∃ pairs, pairs.length ≤ alertCapacity ∧ alertMessage pairs = .ok msg

/-- The warnings on the screen are those of the most recent alert. -/
structure ShowsLatest (d : CollisionListener) : Prop where
  alive : ∀ fault, d.phase ≠ .crashed fault
  nothing : latestAlert d.received = none → d.collisionWarnings = []
  shown : ∀ msg pairs, latestAlert d.received = some msg → pairs.length ≤ alertCapacity →
    alertMessage pairs = .ok msg → d.collisionWarnings = pairs.map collisionWarning

namespace CollisionListener

@[simp] theorem loopHead_collisionWarnings (d : CollisionListener) :
    d.loopHead.collisionWarnings = d.collisionWarnings := rfl

@[simp] theorem loopHead_received (d : CollisionListener) : d.loopHead.received = d.received := rfl

theorem loopHead_not_crashed (d : CollisionListener) (fault : Fault) :
    d.loopHead.phase ≠ .crashed fault := by
  unfold loopHead
  split <;> simp

theorem step_showsLatest {d d' : CollisionListener} {input : ListenerInput}
    (h : d.step input = some d') (encoded : AlertsEncoded d'.received)
    (shows : AlertsEncoded d.received → ShowsLatest d) : ShowsLatest d' := by
  rcases step_cases h with ⟨msg, rfl, rfl⟩ | ⟨warnings, received, crashes⟩
  · -- the history grows by this message, whatever becomes of it
    have history : ({ d with received := d.received ++ [msg] }.showAlert msg).received =
        d.received ++ [msg] := by
      unfold showAlert
      split
      · split <;> rfl
      · rfl
    rw [history] at encoded
    have before := shows fun m hm => encoded m (List.mem_append_left _ hm)
    by_cases alert : msg.type = .collisionDetected
    · obtain ⟨pairs, few, sent⟩ :=
        encoded msg (List.mem_append_right _ List.mem_cons_self) alert
      have decoded := receivedPairs_alertMessage sent few
      have after : { d with received := d.received ++ [msg] }.showAlert msg =
          { d with
            received := d.received ++ [msg]
            collisionWarnings := pairs.map collisionWarning }.loopHead := by
        simp only [showAlert, if_pos alert, decoded]
      rw [after]
      refine ⟨loopHead_not_crashed _, ?_, ?_⟩
      · intro none_
        rw [loopHead_received, latestAlert_concat, if_pos alert] at none_
        cases none_
      · intro msg' pairs' latest few' sent'
        rw [loopHead_received, latestAlert_concat, if_pos alert, Option.some.injEq] at latest
        subst latest
        have same := Except.ok.inj ((receivedPairs_alertMessage sent' few').symm.trans decoded)
        rw [same, loopHead_collisionWarnings]
    · have after : { d with received := d.received ++ [msg] }.showAlert msg =
          { d with received := d.received ++ [msg] }.loopHead := if_neg alert
      have latest : latestAlert (d.received ++ [msg]) = latestAlert d.received := by
        rw [latestAlert_concat, if_neg alert]
      rw [after]
      refine ⟨loopHead_not_crashed _, ?_, ?_⟩
      · rw [loopHead_received, latest]
        exact before.nothing
      · rw [loopHead_received, latest]
        exact before.shown
  · rw [received] at encoded
    have before := shows encoded
    refine ⟨fun fault crashed => before.alive fault (crashes fault crashed), ?_, ?_⟩
    · rw [received, warnings]
      exact before.nothing
    · rw [received, warnings]
      exact before.shown

end CollisionListener

end QnxAtc
