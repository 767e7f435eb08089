import Mathlib.Data.Rat.Defs
import Mathlib.Algebra.Order.Field.Rat
import Mathlib.Tactic.Ring

/-! # Object representations

Messages travel as bytes. An `int` is four little-endian bytes. A `double` is
idealised as a rational number, so its eight bytes are kept as fragments of that
number; eight concrete bytes still read as the binary64 value they denote.
-/

namespace QnxAtc

/-- What a C++ execution can run into that has no defined continuation. -/
inductive Fault where
  | counterOverflow
  | bufferOverflow
  | indexOutOfBounds
deriving DecidableEq, Repr

/-- A computation of two parts succeeds when both do. -/
theorem Except.bind_eq_ok {ε α β : Type} {x : Except ε α} {f : α → Except ε β} {b : β} :
    (x >>= f) = .ok b ↔ ∃ a, x = .ok a ∧ f a = .ok b := by
  cases x with
  | error e => simp [bind, Except.bind]
  | ok a => simp [bind, Except.bind]

/-- One byte of an object in memory. -/
inductive Byte where
  | raw (b : UInt8)
  | ofDouble (x : ℚ) (i : Fin 8)
deriving DecidableEq

instance : Inhabited Byte := ⟨.raw 0⟩

/-- The concrete value of a byte. No code under study reads a `double` as an
integer, so a fragment has none of its own. -/
def Byte.toNat : Byte → Nat
  | .raw b => b.toNat
  | .ofDouble _ _ => 0

/-! ## Integers -/

def littleEndian : Nat → Nat → List Byte
  | 0, _ => []
  | width + 1, n => .raw (UInt8.ofNat (n % 256)) :: littleEndian width (n / 256)

def ofLittleEndian : List Byte → Nat
  | [] => 0
  | b :: bs => b.toNat + 256 * ofLittleEndian bs

def intBytes (n : Int32) : List Byte := littleEndian 4 n.toUInt32.toNat

def loadInt (bs : List Byte) : Int32 := Int32.ofNat (ofLittleEndian (bs.take 4))

/-- An `int` as a stream prints it. -/
def decimal (n : Int32) : String := n.toInt.repr

@[simp] theorem littleEndian_length (width n : Nat) : (littleEndian width n).length = width := by
  induction width generalizing n with
  | zero => rfl
  | succ width ih => simp [littleEndian, ih]

theorem ofLittleEndian_littleEndian (width n : Nat) :
    ofLittleEndian (littleEndian width n) = n % 256 ^ width := by
  induction width generalizing n with
  | zero => simp [littleEndian, ofLittleEndian, Nat.mod_one]
  | succ width ih =>
      have hbyte : (UInt8.ofNat (n % 256)).toNat = n % 256 := by simp
      rw [littleEndian, ofLittleEndian, ih, Byte.toNat, hbyte, Nat.pow_succ,
        Nat.mul_comm (256 ^ width) 256, Nat.mod_mul]

@[simp] theorem intBytes_length (n : Int32) : (intBytes n).length = 4 := by
  simp [intBytes]

@[simp] theorem loadInt_intBytes_append (n : Int32) (rest : List Byte) :
    loadInt (intBytes n ++ rest) = n := by
  have hn : n.toUInt32.toNat % 256 ^ 4 = n.toUInt32.toNat :=
    Nat.mod_eq_of_lt n.toUInt32.toNat_lt
  rw [loadInt, List.take_left' (intBytes_length n), intBytes, ofLittleEndian_littleEndian, hn]
  exact Int32.ofNat_bitVecToNat n.toBitVec

/-! ## Doubles -/

/-- The value of a finite binary64 pattern. -/
def binary64 (bits : Nat) : ℚ :=
  let exponent : Nat := bits / 2 ^ 52 % 2 ^ 11
  let fraction : Nat := bits % 2 ^ 52
  let magnitude : ℚ :=
    if exponent = 0 then fraction / 2 ^ 1074
    else ((2 ^ 52 + fraction : Nat) : ℚ) * 2 ^ exponent / 2 ^ 1075
  if bits / 2 ^ 63 % 2 = 1 then -magnitude else magnitude

def doubleBytes (x : ℚ) : List Byte :=
  [.ofDouble x 0, .ofDouble x 1, .ofDouble x 2, .ofDouble x 3,
    .ofDouble x 4, .ofDouble x 5, .ofDouble x 6, .ofDouble x 7]

def loadDouble (bs : List Byte) : ℚ :=
  match bs.head? with
  | some (.ofDouble x _) =>
      if bs.take 8 = doubleBytes x then x else binary64 (ofLittleEndian (bs.take 8))
  | _ => binary64 (ofLittleEndian (bs.take 8))

@[simp] theorem doubleBytes_length (x : ℚ) : (doubleBytes x).length = 8 := by
  simp [doubleBytes]

@[simp] theorem loadDouble_doubleBytes_append (x : ℚ) (rest : List Byte) :
    loadDouble (doubleBytes x ++ rest) = x := by
  have htake : (doubleBytes x ++ rest).take 8 = doubleBytes x :=
    List.take_left' (doubleBytes_length x)
  have hhead : (doubleBytes x ++ rest).head? = some (.ofDouble x 0) := rfl
  simp only [loadDouble, hhead, htake, if_true]

/-! A load looks at the bytes of its object only. -/

theorem loadInt_take {n : Nat} (h : 4 ≤ n) (bs : List Byte) : loadInt (bs.take n) = loadInt bs := by
  rw [loadInt, loadInt, List.take_take, Nat.min_eq_left h]

theorem loadDouble_take {n : Nat} (h : 8 ≤ n) (bs : List Byte) :
    loadDouble (bs.take n) = loadDouble bs := by
  have first : (bs.take n).head? = bs.head? := by
    rw [List.head?_take, if_neg (by omega)]
  rw [loadDouble, loadDouble, first, List.take_take, Nat.min_eq_left h]

/-! ## Padding -/

/-- Alignment bytes, which the zero-initialising declarations of the source clear. -/
def padding (n : Nat) : List Byte := List.replicate n (.raw 0)

@[simp] theorem padding_length (n : Nat) : (padding n).length = n := by simp [padding]

end QnxAtc
