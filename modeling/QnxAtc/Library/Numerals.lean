import QnxAtc.Library.Extraction
import Mathlib.Data.Rat.Defs
import Mathlib.Algebra.Order.Field.Rat

/-! # Decimal numerals

The spellings of an `int` and of a `double` in the classic locale, with their values. The
value of a `double` is the number that is spelled; it is out of range when it would be
rounded past the largest finite one.
-/

namespace Extraction

/-! ## Signs and digits -/

def negative : List Char → Bool
  | '-' :: _ => true
  | _ => false

def unsigned : List Char → List Char
  | '+' :: cs => cs
  | '-' :: cs => cs
  | cs => cs

def isDigits (cs : List Char) : Bool := !cs.isEmpty && cs.all Char.isDigit

def digitsValue (ds : List Char) : Nat := Nat.ofDigitChars 10 ds 0

theorem not_digit {c : Char} (space : isSpace c = true) : c.isDigit = false := by
  simp only [isSpace, Bool.or_eq_true, Bool.and_eq_true, decide_eq_true_eq] at space
  have small : c.toNat < 48 := by omega
  simp only [Char.isDigit, Bool.and_eq_false_iff, decide_eq_false_iff_not]
  left
  intro ge
  have : 48 ≤ c.toNat := UInt32.le_iff_toNat_le.mp ge
  omega

theorem mem_unsigned {c : Char} (space : isSpace c = true) {cs : List Char} (h : c ∈ cs) :
    c ∈ unsigned cs := by
  unfold unsigned
  split
  · exact (List.mem_cons.mp h).resolve_left (by rintro rfl; exact absurd space (by decide))
  · exact (List.mem_cons.mp h).resolve_left (by rintro rfl; exact absurd space (by decide))
  · exact h

theorem mem_dropDigits {c : Char} (space : isSpace c = true) {cs : List Char} (h : c ∈ cs) :
    c ∈ cs.dropWhile Char.isDigit := by
  rw [← List.takeWhile_append_dropWhile (p := Char.isDigit) (l := cs)] at h
  refine (List.mem_append.mp h).resolve_left fun digit => ?_
  simpa [not_digit space] using List.mem_takeWhile_imp digit

/-! ## Integers -/

def isInteger (cs : List Char) : Bool := isDigits (unsigned cs)

def integerValue (cs : List Char) : Int :=
  if negative cs then -(digitsValue (unsigned cs) : Int) else digitsValue (unsigned cs)

theorem isInteger_free {w : List Char} (h : isInteger w = true) :
    ∀ c ∈ w, isSpace c = false := by
  intro c member
  by_contra blank
  have space : isSpace c = true := Bool.eq_true_of_not_eq_false blank
  simp only [isInteger, isDigits, Bool.and_eq_true, List.all_eq_true] at h
  have digit : c.isDigit = true := h.2 c (mem_unsigned space member)
  rw [not_digit space] at digit
  cases digit

def int : Format Int32 where
  valid := isInteger
  value w :=
    let n := integerValue w
    if -2 ^ 31 ≤ n ∧ n < 2 ^ 31 then some (Int32.ofInt n) else none
  ne_nil := by
    rintro w h rfl
    cases h
  free := isInteger_free

/-! ## Decimal fractions -/

/-- The digits before the point. -/
def wholeDigits (cs : List Char) : List Char := (unsigned cs).takeWhile Char.isDigit

def afterWhole (cs : List Char) : List Char := (unsigned cs).dropWhile Char.isDigit

/-- The digits after the point, if there is one. -/
def fractionDigits (cs : List Char) : List Char :=
  match afterWhole cs with
  | '.' :: cs => cs.takeWhile Char.isDigit
  | _ => []

def afterFraction (cs : List Char) : List Char :=
  match afterWhole cs with
  | '.' :: cs => cs.dropWhile Char.isDigit
  | cs => cs

def isExponent : List Char → Bool
  | [] => true
  | c :: cs => (c = 'e' || c = 'E') && isInteger cs

def exponentValue : List Char → Int
  | [] => 0
  | _ :: cs => integerValue cs

def isDecimal (cs : List Char) : Bool :=
  !(wholeDigits cs ++ fractionDigits cs).isEmpty && isExponent (afterFraction cs)

theorem mem_afterFraction {c : Char} (space : isSpace c = true) {cs : List Char} (h : c ∈ cs) :
    c ∈ afterFraction cs := by
  have past : c ∈ afterWhole cs := mem_dropDigits space (mem_unsigned space h)
  unfold afterFraction
  split
  · rename_i ds point
    rw [point] at past
    have behind : c ∈ ds :=
      (List.mem_cons.mp past).resolve_left (by rintro rfl; exact absurd space (by decide))
    exact mem_dropDigits space behind
  · exact past

theorem isDecimal_free {w : List Char} (h : isDecimal w = true) :
    ∀ c ∈ w, isSpace c = false := by
  intro c member
  by_contra blank
  have space : isSpace c = true := Bool.eq_true_of_not_eq_false blank
  have inside : c ∈ afterFraction w := mem_afterFraction space member
  have exponent : isExponent (afterFraction w) = true := (Bool.and_eq_true_iff.mp h).2
  generalize afterFraction w = ds at inside exponent
  cases ds with
  | nil => cases inside
  | cons d ds =>
      simp only [isExponent, Bool.and_eq_true, Bool.or_eq_true, decide_eq_true_eq] at exponent
      obtain rfl | behind := List.mem_cons.mp inside
      · obtain rfl | rfl := exponent.1 <;> cases space
      · exact blank (isInteger_free exponent.2 c behind)

def decimalValue (cs : List Char) : ℚ :=
  let magnitude : ℚ := digitsValue (wholeDigits cs ++ fractionDigits cs)
  let exponent := exponentValue (afterFraction cs) - (fractionDigits cs).length
  (if negative cs then -1 else 1) * magnitude * 10 ^ exponent

def double : Format ℚ where
  valid := isDecimal
  value w := if |decimalValue w| < 2 ^ 1024 - 2 ^ 970 then some (decimalValue w) else none
  ne_nil := by
    rintro w h rfl
    cases h
  free := isDecimal_free

end Extraction
