import QnxAtc.Display.CollisionListener

/-! # The copy in the alert decoder

The one `memcpy` of `collisionListener` takes its length from the message. The array it
reads has a fixed length and the vector it fills holds a whole number of pairs, so both
bounds rest on a field that any sender chooses.
-/

namespace QnxAtc

open FixedArray

/-- The length of the vector `pairs`. -/
def MessageInterProcess.numPairs (msg : MessageInterProcess) : Nat :=
  msg.dataSize.toNat / sizeofPairIntInt

/-- What decoding a message reads of `msg.data` and writes into `pairs`. The constructor of
the vector throws when it gets no memory; then nothing is copied. -/
def decoderAccesses (allocated : Bool) (msg : MessageInterProcess) : List Access :=
  if msg.type = .collisionDetected then
    if allocated then blockCopy msg.dataSize.toNat else []
  else []

/-- A whole number of pairs that fits into a message. -/
def MessageInterProcess.WellSized (msg : MessageInterProcess) : Prop :=
  msg.dataSize.toNat ≤ dataCapacity ∧ sizeofPairIntInt ∣ msg.dataSize.toNat

instance : DecidablePred MessageInterProcess.WellSized := fun msg =>
  inferInstanceAs (Decidable (msg.dataSize.toNat ≤ dataCapacity ∧
    sizeofPairIntInt ∣ msg.dataSize.toNat))

namespace MessageInterProcess

/-- The quotient is truncated, so the vector has room for the copied bytes exactly when
nothing is cut off. -/
theorem dataSize_le_numPairs_iff (msg : MessageInterProcess) :
    msg.dataSize.toNat ≤ msg.numPairs * sizeofPairIntInt ↔
      sizeofPairIntInt ∣ msg.dataSize.toNat := by
  unfold numPairs sizeofPairIntInt
  omega

theorem wellSized_iff (msg : MessageInterProcess) : msg.WellSized ↔
    msg.dataSize.toNat ≤ dataCapacity ∧
      msg.dataSize.toNat ≤ msg.numPairs * sizeofPairIntInt := by
  rw [WellSized, dataSize_le_numPairs_iff]

/-- The alerts of the Computer system are well sized. -/
theorem wellSized_of_alertMessage {pairs : List (Int32 × Int32)} {msg : MessageInterProcess}
    (sent : alertMessage pairs = .ok msg) (few : pairs.length ≤ alertCapacity) :
    msg.WellSized := by
  have fits := (pairsBytes_fit_iff pairs).mpr few
  obtain ⟨_, same, _, size, -⟩ := alertMessage_of_fits fits
  cases Except.ok.inj (sent.symm.trans same)
  refine ⟨size ▸ fits, ?_⟩
  rw [size, pairsBytes_length]
  exact Nat.dvd_mul_left _ _

end MessageInterProcess

/-- The copy of the decoder is the one that `receivedPairs` has a result for. -/
theorem receivedPairs_ok_iff (msg : MessageInterProcess) :
    (∃ pairs, receivedPairs msg = .ok pairs) ↔ msg.WellSized := by
  rw [msg.wellSized_iff]
  unfold receivedPairs MessageInterProcess.numPairs
  dsimp only
  split
  · rename_i fits
    exact ⟨fun _ => fits, fun _ => ⟨_, rfl⟩⟩
  · rename_i overflows
    constructor
    · rintro ⟨pairs, ok⟩
      cases ok
    · exact fun fits => absurd fits overflows

/-- No byte beyond the 1024 of the message is read, and none beyond the `numPairs` pairs of
the vector is written. -/
def DecodesWithin (allocated : Bool) (msg : MessageInterProcess) : Prop :=
  ∀ access ∈ decoderAccesses allocated msg,
    access.Within dataCapacity (msg.numPairs * sizeofPairIntInt)

/-- Decoding an alert stays inside both arrays exactly when the sender's size is a multiple
of eight up to 1024, or the vector could not be allocated at all. -/
theorem decoder_within_iff (msg : MessageInterProcess) (alert : msg.type = .collisionDetected)
    (allocated : Bool) :
    DecodesWithin allocated msg ↔
      allocated = false ∨
        (msg.dataSize.toNat ≤ dataCapacity ∧ sizeofPairIntInt ∣ msg.dataSize.toNat) := by
  unfold DecodesWithin decoderAccesses
  rw [if_pos alert]
  cases allocated with
  | false => simp
  | true =>
      rw [if_pos rfl, blockCopy_within_iff, msg.dataSize_le_numPairs_iff]
      simp

/-- An alert of half a pair: four bytes are written into a vector of no pairs. -/
theorem decoder_overflows :
    ¬ ∀ (msg : MessageInterProcess) (allocated : Bool), msg.type = .collisionDetected →
        DecodesWithin allocated msg := by
  intro claim
  have within := claim { MessageInterProcess.zero with type := .collisionDetected, dataSize := 4 }
    true rfl (.write 0) (by decide)
  exact absurd within (by unfold Access.Within; decide)

theorem decoder_within_two_pairs :
    DecodesWithin true
      { MessageInterProcess.zero with type := .collisionDetected, dataSize := 16 } :=
  (decoder_within_iff
    { MessageInterProcess.zero with type := .collisionDetected, dataSize := 16 } rfl true).mpr
    (.inr (by decide))

namespace CollisionListener

/-- Well-sized alerts never bring the listener down. -/
theorem step_not_crashed {d d' : CollisionListener} {input : ListenerInput}
    (h : d.step input = some d') (alive : ∀ fault, d.phase ≠ .crashed fault)
    (sized : ∀ msg, input = .received (.message msg) → msg.type = .collisionDetected →
      msg.WellSized) : ∀ fault, d'.phase ≠ .crashed fault := by
  intro fault
  rcases step_cases h with ⟨msg, rfl, rfl⟩ | ⟨-, -, crashes⟩
  · unfold showAlert
    split
    · rename_i alert
      obtain ⟨pairs, decoded⟩ := (receivedPairs_ok_iff msg).mpr (sized msg rfl alert)
      rw [decoded]
      exact loopHead_not_crashed _ fault
    · exact loopHead_not_crashed _ fault
  · exact fun crashed => alive fault (crashes fault crashed)

/-- Over a whole run: as long as every alert that arrives is well sized, the listener
goes on. -/
theorem run_not_crashed {inputs : List ListenerInput} {d : CollisionListener}
    (run : Machine.run step start inputs = some d)
    (sized : ∀ msg, .received (.message msg) ∈ inputs → msg.type = .collisionDetected →
      msg.WellSized) : ∀ fault, d.phase ≠ .crashed fault :=
  Machine.run_invariant_of_mem (P := fun d => ∀ fault, d.phase ≠ .crashed fault)
    (fun _ _ _ alive mem hstep =>
      step_not_crashed hstep alive fun msg heq => sized msg (heq ▸ mem))
    (by simp [start]) run

end CollisionListener

end QnxAtc
