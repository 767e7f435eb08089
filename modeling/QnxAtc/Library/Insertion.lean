import QnxAtc.Library.Numerals
import Mathlib.Data.Rat.Floor
import Mathlib.Algebra.Order.Floor.Semiring
import Mathlib.Tactic.Linarith
import Mathlib.Tactic.FieldSimp

/-! # Formatted insertion

What the inserters of an output stream write. A field is filled up with blanks to the
width that was set; a `double` in fixed notation is rounded to the nearest decimal
fraction with so many places, a tie to the even one. A formatted extraction reads a
number back up to that rounding, and a field that is too wide is never cut.
-/

namespace Insertion

open Extraction

/-! ## Fields -/

/-- A field after `std::left` and `std::setw`. -/
def setwLeft (width : Nat) (cs : List Char) : List Char :=
  cs ++ List.replicate (width - cs.length) ' '

/-- A field after `std::right` and `std::setw`. -/
def setwRight (width : Nat) (cs : List Char) : List Char :=
  List.replicate (width - cs.length) ' ' ++ cs

@[simp] theorem setwLeft_length (width : Nat) (cs : List Char) :
    (setwLeft width cs).length = max width cs.length := by
  simp only [setwLeft, List.length_append, List.length_replicate]
  omega

@[simp] theorem setwRight_length (width : Nat) (cs : List Char) :
    (setwRight width cs).length = max width cs.length := by
  simp only [setwRight, List.length_append, List.length_replicate]
  omega

theorem length_le_setwRight (width : Nat) (cs : List Char) :
    cs.length ≤ (setwRight width cs).length := by
  rw [setwRight_length]
  exact le_max_right width cs.length

theorem setwRight_length_of_le {width : Nat} {cs : List Char} (fits : cs.length ≤ width) :
    (setwRight width cs).length = width := by
  rw [setwRight_length, max_eq_left fits]

theorem mem_setwLeft {width : Nat} {cs : List Char} {c : Char} (h : c ∈ setwLeft width cs) :
    c ∈ cs ∨ c = ' ' := by
  rcases List.mem_append.mp h with text | blank
  · exact .inl text
  · exact .inr (List.eq_of_mem_replicate blank)

theorem mem_setwRight {width : Nat} {cs : List Char} {c : Char} (h : c ∈ setwRight width cs) :
    c ∈ cs ∨ c = ' ' := by
  rcases List.mem_append.mp h with blank | text
  · exact .inr (List.eq_of_mem_replicate blank)
  · exact .inl text

/-! ## The words of a field -/

theorem words_blanks_append (n : Nat) (cs : List Char) :
    words (List.replicate n ' ' ++ cs) = words cs := by
  induction n with
  | zero => rfl
  | succ n ih => rw [List.replicate_succ, List.cons_append, words_cons_space (by decide), ih]

theorem words_append_blanks (cs : List Char) (n : Nat) :
    words (cs ++ List.replicate n ' ') = words cs := by
  cases n with
  | zero => rw [List.replicate_zero, List.append_nil]
  | succ n =>
      have blank : words (List.replicate n ' ') = [] := by
        have all := words_blanks_append n []
        rwa [List.append_nil] at all
      rw [List.replicate_succ, words_append_space (by decide), blank, List.append_nil]

/-- One word: no white space, and something to see. -/
def IsWord (w : List Char) : Prop := w ≠ [] ∧ ∀ c ∈ w, isSpace c = false

instance (w : List Char) : Decidable (IsWord w) :=
  @instDecidableAnd _ _ _ (List.decidableBAll _ w)

theorem words_blank (cs : List Char) : words (' ' :: cs) = words cs :=
  words_cons_space (by decide) cs

theorem words_word_blank {w : List Char} (word : IsWord w) (rest : List Char) :
    words (w ++ ' ' :: rest) = w :: words rest := by
  rw [words_append word.1 word.2 rfl, words_blank]

theorem words_append_break {cs rest : List Char} (ends : atBreak rest = true) :
    words (cs ++ rest) = words cs ++ words rest := by
  cases rest with
  | nil => rw [List.append_nil, show words [] = [] from rfl, List.append_nil]
  | cons c rest =>
      have space : isSpace c = true := ends
      rw [words_append_space space, words_cons_space space]

/-- A label that ends with a blank. -/
theorem words_label {label : List Char} (ends : label.getLast? = some ' ') (rest : List Char) :
    words (label ++ rest) = words label ++ words rest := by
  obtain ⟨front, rfl⟩ := List.getLast?_eq_some_iff.mp ends
  rw [List.append_assoc, List.singleton_append, words_append_space (by decide),
    words_append_space (by decide), show words [] = [] from rfl, List.append_nil]

/-- A field before a break is one word, in whatever width it stands. -/
theorem words_setwLeft {width : Nat} {w rest : List Char} (word : IsWord w)
    (ends : atBreak rest = true) : words (setwLeft width w ++ rest) = w :: words rest := by
  rw [words_append_break ends, setwLeft, words_append_blanks, words_of_free word.1 word.2]
  rfl

theorem words_setwRight {width : Nat} {w rest : List Char} (word : IsWord w)
    (ends : atBreak rest = true) : words (setwRight width w ++ rest) = w :: words rest := by
  rw [setwRight, List.append_assoc, words_blanks_append, words_append word.1 word.2 ends]

/-! ## Integers -/

theorem not_space_of_digit {c : Char} (digit : c.isDigit = true) : isSpace c = false := by
  by_contra blank
  have space := not_digit (Bool.eq_true_of_not_eq_false blank)
  rw [digit] at space
  cases space

theorem digit_of_mem_toDigits {n : Nat} {c : Char} (h : c ∈ Nat.toDigits 10 n) :
    c.isDigit = true := Nat.isDigit_of_mem_toDigits (by decide) (by decide) h

/-- A numeral that begins with a digit has no sign. -/
theorem unsigned_of_digit {c : Char} (digit : c.isDigit = true) (cs : List Char) :
    unsigned (c :: cs) = c :: cs ∧ negative (c :: cs) = false := by
  have plus : c ≠ '+' := by
    rintro rfl
    exact absurd digit (by decide)
  have minus : c ≠ '-' := by
    rintro rfl
    exact absurd digit (by decide)
  constructor
  · unfold unsigned
    split
    · exact absurd (List.cons.inj ‹_›).1 plus
    · exact absurd (List.cons.inj ‹_›).1 minus
    · rfl
  · unfold negative
    split
    · exact absurd (List.cons.inj ‹_›).1 minus
    · rfl

theorem toDigits_cons (n : Nat) :
    ∃ c cs, Nat.toDigits 10 n = c :: cs ∧ c.isDigit = true := by
  cases h : Nat.toDigits 10 n with
  | nil => exact absurd h Nat.toDigits_ne_nil
  | cons c cs => exact ⟨c, cs, rfl, digit_of_mem_toDigits (h ▸ List.mem_cons_self)⟩

theorem isDigits_toDigits (n : Nat) : isDigits (Nat.toDigits 10 n) = true := by
  obtain ⟨c, cs, start, _⟩ := toDigits_cons n
  have digits : (Nat.toDigits 10 n).all Char.isDigit = true :=
    List.all_eq_true.mpr fun c h => digit_of_mem_toDigits h
  rw [start] at digits ⊢
  simpa [isDigits] using digits

theorem toList_intRepr (n : Int) : n.repr.toList =
    if 0 ≤ n then Nat.toDigits 10 n.toNat else '-' :: Nat.toDigits 10 (-n).toNat := by
  rw [Int.repr_eq_if]
  split
  · rw [Nat.toList_repr]
  · rw [String.toList_append, Nat.toList_repr]
    rfl

/-- An integer is read back as it was printed. -/
theorem integer_repr (n : Int) :
    isInteger n.repr.toList = true ∧ integerValue n.repr.toList = n := by
  rw [toList_intRepr]
  split
  · rename_i nonneg
    obtain ⟨c, cs, start, digit⟩ := toDigits_cons n.toNat
    obtain ⟨plain, positive⟩ := unsigned_of_digit digit cs
    rw [← start] at plain positive
    refine ⟨by rw [isInteger, plain, isDigits_toDigits], ?_⟩
    rw [integerValue, positive, plain, digitsValue, Nat.ofDigitChars_ten_toDigits]
    simpa using nonneg
  · rename_i neg
    have sign : unsigned ('-' :: Nat.toDigits 10 (-n).toNat) = Nat.toDigits 10 (-n).toNat := rfl
    refine ⟨by rw [isInteger, sign, isDigits_toDigits], ?_⟩
    rw [integerValue, sign, digitsValue, Nat.ofDigitChars_ten_toDigits]
    simp only [negative, if_true]
    omega

theorem integer_word (n : Int) : IsWord n.repr.toList :=
  ⟨int.ne_nil (integer_repr n).1, isInteger_free (integer_repr n).1⟩

theorem natural_word (n : Nat) : IsWord n.repr.toList := by
  rw [Nat.toList_repr]
  exact ⟨Nat.toDigits_ne_nil, fun c h => not_space_of_digit (digit_of_mem_toDigits h)⟩

theorem natural_value (n : Nat) : digitsValue n.repr.toList = n := by
  rw [Nat.toList_repr]
  exact Nat.ofDigitChars_ten_toDigits

/-! ## Rounding -/

/-- The integer nearest to a number that is not negative, of two the even one. -/
def nearestEven (x : ℚ) : Nat :=
  if x - ⌊x⌋₊ < 1 / 2 then ⌊x⌋₊ else if 1 / 2 < x - ⌊x⌋₊ then ⌊x⌋₊ + 1 else ⌊x⌋₊ + ⌊x⌋₊ % 2

theorem abs_nearestEven_sub_le {x : ℚ} (nonneg : 0 ≤ x) : |(nearestEven x : ℚ) - x| ≤ 1 / 2 := by
  have below : (⌊x⌋₊ : ℚ) ≤ x := Nat.floor_le nonneg
  have above : x < ⌊x⌋₊ + 1 := Nat.lt_floor_add_one x
  rw [abs_le]
  unfold nearestEven
  split
  · constructor <;> linarith
  · split
    · push_cast
      constructor <;> linarith
    · -- a tie: either neighbour is half away
      have half : x - ⌊x⌋₊ = 1 / 2 := by linarith
      have parity : ((⌊x⌋₊ % 2 : Nat) : ℚ) ≤ 1 := by
        exact_mod_cast Nat.le_of_lt_succ (Nat.mod_lt _ (by decide))
      have sign : (0 : ℚ) ≤ ((⌊x⌋₊ % 2 : Nat) : ℚ) := Nat.cast_nonneg _
      rw [Nat.cast_add]
      constructor <;> linarith

/-- The tie below an even integer rounds up to it. -/
theorem nearestEven_lt_iff {x : ℚ} (nonneg : 0 ≤ x) {n : Nat} (even : n % 2 = 0) :
    nearestEven x < n ↔ x < n - 1 / 2 := by
  have near := abs_le.mp (abs_nearestEven_sub_le nonneg)
  constructor
  · intro less
    by_contra far
    have least : (nearestEven x : ℚ) + 1 ≤ n := by exact_mod_cast less
    have tie : x = n - 1 / 2 := le_antisymm (by linarith [near.1]) (not_lt.mp far)
    have one : (1 : ℚ) ≤ n := by linarith [Nat.cast_nonneg (α := ℚ) (nearestEven x)]
    obtain ⟨m, rfl⟩ : ∃ m, n = m + 1 := ⟨n - 1, by
      have : 1 ≤ n := by exact_mod_cast one
      omega⟩
    have value : x = m + 1 / 2 := by
      rw [tie]
      push_cast
      ring
    have floor : ⌊x⌋₊ = m := by
      rw [Nat.floor_eq_iff nonneg, value]
      constructor <;> linarith
    have half : x - ⌊x⌋₊ = 1 / 2 := by
      rw [floor, value]
      ring
    have rounds : nearestEven x = m + m % 2 := by
      rw [nearestEven, half, floor, if_neg (lt_irrefl _), if_neg (lt_irrefl _)]
    omega
  · intro less
    have small : (nearestEven x : ℚ) < n := by linarith [near.2]
    exact_mod_cast small

/-! ## Fixed notation -/

/-- The last `places` digits of `n`. -/
def lastDigits : Nat → Nat → List Char
  | 0, _ => []
  | places + 1, n => lastDigits places (n / 10) ++ [Nat.digitChar (n % 10)]

/-- The point and the places after it. -/
def fraction (places n : Nat) : List Char :=
  if places = 0 then [] else '.' :: lastDigits places n

/-- A number after `std::fixed` and `std::setprecision(places)`. -/
def fixed (places : Nat) (x : ℚ) : List Char :=
  let n := nearestEven (|x| * 10 ^ places)
  (if x < 0 then ['-'] else []) ++ (Nat.toDigits 10 (n / 10 ^ places) ++ fraction places n)

def signOf (x : ℚ) : ℚ := if x < 0 then -1 else 1

/-- The number that is printed for `x`. -/
def rounded (places : Nat) (x : ℚ) : ℚ :=
  signOf x * nearestEven (|x| * 10 ^ places) / 10 ^ places

theorem signOf_mul_abs (x : ℚ) : signOf x * |x| = x := by
  unfold signOf
  split
  · rename_i neg
    rw [abs_of_neg neg]
    ring
  · rename_i nonneg
    rw [abs_of_nonneg (not_lt.mp nonneg), one_mul]

@[simp] theorem abs_signOf (x : ℚ) : |signOf x| = 1 := by
  unfold signOf
  split <;> simp

theorem lastDigits_length (places n : Nat) : (lastDigits places n).length = places := by
  induction places generalizing n with
  | zero => rfl
  | succ places ih => rw [lastDigits, List.length_append, ih, List.length_singleton]

theorem digit_of_mem_lastDigits {places n : Nat} {c : Char} (h : c ∈ lastDigits places n) :
    c.isDigit = true := by
  induction places generalizing n with
  | zero => cases h
  | succ places ih =>
      rcases List.mem_append.mp h with front | last
      · exact ih front
      · have small : n % 10 < 10 := Nat.mod_lt n (by decide)
        have digits : c ∈ Nat.toDigits 10 (n % 10) := by
          rw [Nat.toDigits_of_lt_base small]
          exact last
        exact digit_of_mem_toDigits digits

theorem mem_fixed {places : Nat} {x : ℚ} {c : Char} (h : c ∈ fixed places x) :
    c = '-' ∨ c = '.' ∨ c.isDigit = true := by
  rcases List.mem_append.mp h with sign | number
  · split at sign
    · exact .inl (List.mem_singleton.mp sign)
    · cases sign
  · rcases List.mem_append.mp number with whole | places_
    · exact .inr (.inr (digit_of_mem_toDigits whole))
    · unfold fraction at places_
      split at places_
      · cases places_
      · rcases List.mem_cons.mp places_ with point | digit
        · exact .inr (.inl point)
        · exact .inr (.inr (digit_of_mem_lastDigits digit))

theorem digitsValue_append_lastDigits (ds : List Char) (places n : Nat) :
    digitsValue (ds ++ lastDigits places n) = digitsValue ds * 10 ^ places + n % 10 ^ places := by
  induction places generalizing n with
  | zero => simp [lastDigits, Nat.mod_one]
  | succ places ih =>
      have digit : n % 10 < 10 := Nat.mod_lt n (by decide)
      have front := ih (n / 10)
      unfold digitsValue at front ⊢
      rw [lastDigits, ← List.append_assoc, Nat.ofDigitChars_append, front,
        Nat.ofDigitChars_cons_digitChar_of_lt_ten digit, Nat.ofDigitChars_nil, Nat.pow_succ',
        Nat.mod_mul]
      ring

/-- Nothing is lost between the whole part and the places. -/
theorem digitsValue_fixed (places n : Nat) :
    digitsValue (Nat.toDigits 10 (n / 10 ^ places) ++ lastDigits places n) = n := by
  have whole : digitsValue (Nat.toDigits 10 (n / 10 ^ places)) = n / 10 ^ places :=
    Nat.ofDigitChars_ten_toDigits
  rw [digitsValue_append_lastDigits, whole]
  exact Nat.div_add_mod' n (10 ^ places)

theorem abs_rounded_sub_le (places : Nat) (x : ℚ) :
    |rounded places x - x| ≤ 1 / (2 * 10 ^ places) := by
  have pos : (0 : ℚ) < 10 ^ places := by positivity
  have near := abs_nearestEven_sub_le (show 0 ≤ |x| * 10 ^ places by positivity)
  have scaled : rounded places x - x =
      signOf x * ((nearestEven (|x| * 10 ^ places) : ℚ) - |x| * 10 ^ places) / 10 ^ places := by
    rw [rounded, mul_sub, ← mul_assoc, signOf_mul_abs, sub_div, mul_div_cancel_right₀ x pos.ne']
  rw [scaled, abs_div, abs_mul, abs_signOf, one_mul, abs_of_pos pos,
    div_le_div_iff₀ pos (by positivity)]
  calc |(nearestEven (|x| * 10 ^ places) : ℚ) - |x| * 10 ^ places| * (2 * 10 ^ places)
      ≤ 1 / 2 * (2 * 10 ^ places) := by gcongr
    _ = 1 * 10 ^ places := by ring

/-! ## What is read back -/

theorem takeWhile_digits {ds : List Char} (digits : ∀ c ∈ ds, c.isDigit = true)
    {rest : List Char} (ends : rest.head?.all fun c => !c.isDigit) :
    (ds ++ rest).takeWhile Char.isDigit = ds ∧ (ds ++ rest).dropWhile Char.isDigit = rest := by
  have stops : rest.takeWhile Char.isDigit = [] ∧ rest.dropWhile Char.isDigit = rest := by
    cases rest with
    | nil => exact ⟨rfl, rfl⟩
    | cons c rest =>
        have other : c.isDigit = false := by simpa using ends
        simp [other]
  rw [List.takeWhile_append_of_pos digits, List.dropWhile_append_of_pos digits, stops.1, stops.2,
    List.append_nil]
  exact ⟨rfl, rfl⟩

theorem fraction_head (places n : Nat) : (fraction places n).head?.all fun c => !c.isDigit := by
  unfold fraction
  split <;> rfl

/-- The parts of a printed number, with or without a sign before it. -/
theorem parts_of_unsigned {cs : List Char} {places n : Nat}
    (h : unsigned cs = Nat.toDigits 10 (n / 10 ^ places) ++ fraction places n) :
    wholeDigits cs = Nat.toDigits 10 (n / 10 ^ places) ∧
      fractionDigits cs = lastDigits places n ∧ afterFraction cs = [] := by
  obtain ⟨whole, after⟩ := takeWhile_digits (fun c => digit_of_mem_toDigits)
    (fraction_head places n)
  have behind : afterWhole cs = fraction places n := by rw [afterWhole, h, after]
  refine ⟨by rw [wholeDigits, h, whole], ?_⟩
  rw [fractionDigits, afterFraction, behind]
  obtain ⟨digits, nothing⟩ : (lastDigits places n ++ []).takeWhile Char.isDigit = _ ∧
      (lastDigits places n ++ []).dropWhile Char.isDigit = [] :=
    takeWhile_digits (fun c => digit_of_mem_lastDigits) rfl
  rw [List.append_nil] at digits nothing
  by_cases none_ : places = 0
  · subst none_
    exact ⟨rfl, rfl⟩
  · simp only [fraction, if_neg none_]
    exact ⟨digits, nothing⟩

theorem fixed_parts (places : Nat) (x : ℚ) :
    unsigned (fixed places x) =
        Nat.toDigits 10 (nearestEven (|x| * 10 ^ places) / 10 ^ places) ++
          fraction places (nearestEven (|x| * 10 ^ places)) ∧
      (negative (fixed places x) = true ↔ x < 0) := by
  obtain ⟨c, cs, start, digit⟩ := toDigits_cons (nearestEven (|x| * 10 ^ places) / 10 ^ places)
  unfold fixed
  by_cases neg : x < 0
  · simp only [neg, if_true, List.singleton_append]
    exact ⟨rfl, iff_of_true rfl trivial⟩
  · simp only [neg, if_false, List.nil_append, start, List.cons_append]
    obtain ⟨plain, positive⟩ := unsigned_of_digit digit
      (cs ++ fraction places (nearestEven (|x| * 10 ^ places)))
    exact ⟨plain, by simp [positive]⟩

theorem isDecimal_fixed (places : Nat) (x : ℚ) : isDecimal (fixed places x) = true := by
  obtain ⟨whole, _, rest⟩ := parts_of_unsigned (fixed_parts places x).1
  obtain ⟨c, cs, start, _⟩ := toDigits_cons (nearestEven (|x| * 10 ^ places) / 10 ^ places)
  rw [isDecimal, whole, rest, start]
  rfl

theorem decimalValue_fixed (places : Nat) (x : ℚ) :
    decimalValue (fixed places x) = rounded places x := by
  obtain ⟨plain, sign⟩ := fixed_parts places x
  obtain ⟨whole, places_, rest⟩ := parts_of_unsigned plain
  have signed : (if negative (fixed places x) = true then -1 else 1 : ℚ) = signOf x := by
    simp only [sign, signOf]
  have exponent : (10 : ℚ) ^ (exponentValue [] - (places : Int)) = (10 ^ places)⁻¹ := by
    simp [exponentValue]
  simp only [decimalValue, signed, whole, places_, rest, digitsValue_fixed, lastDigits_length]
  rw [exponent, rounded, div_eq_mul_inv]

/-- A number in fixed notation is read back as the number that was printed. -/
theorem read_fixed (places : Nat) (x : ℚ) (range : |rounded places x| < 2 ^ 1024 - 2 ^ 970) :
    double.read (fixed places x) = some (rounded places x) := by
  refine Format.read_eq_some.mpr ⟨isDecimal_fixed places x, ?_⟩
  simp only [double, decimalValue_fixed, if_pos range]

theorem fixed_word (places : Nat) (x : ℚ) : IsWord (fixed places x) :=
  ⟨double.ne_nil (isDecimal_fixed places x), isDecimal_free (isDecimal_fixed places x)⟩

/-! ## Widths -/

theorem fixed_length (places : Nat) (x : ℚ) :
    (fixed places x).length = (if x < 0 then 1 else 0) +
      ((Nat.toDigits 10 (nearestEven (|x| * 10 ^ places) / 10 ^ places)).length +
        (if places = 0 then 0 else places + 1)) := by
  have point (n : Nat) : (fraction places n).length = if places = 0 then 0 else places + 1 := by
    unfold fraction
    split
    · rfl
    · rw [List.length_cons, lastDigits_length]
  unfold fixed
  simp only [List.length_append, point]
  split <;> rfl

/-- The whole part takes at most `width` digits exactly when rounding stays below the next
power of ten. -/
theorem whole_length_le_iff {places width : Nat} (pos : 0 < places) (wide : 0 < width) (x : ℚ) :
    (Nat.toDigits 10 (nearestEven (|x| * 10 ^ places) / 10 ^ places)).length ≤ width ↔
      |x| < 10 ^ width - 1 / (2 * 10 ^ places) := by
  have scale : (0 : ℚ) < 10 ^ places := by positivity
  have even : 10 ^ (width + places) % 2 = 0 :=
    Nat.mod_eq_zero_of_dvd (dvd_pow (by decide) (by omega))
  rw [Nat.length_toDigits_le_iff (by decide) wide, Nat.div_lt_iff_lt_mul (by positivity),
    ← Nat.pow_add, nearestEven_lt_iff (by positivity) even]
  have unscaled : (10 : ℚ) ^ width - 1 / (2 * 10 ^ places) =
      (((10 ^ (width + places) : Nat) : ℚ) - 1 / 2) / 10 ^ places := by
    rw [eq_div_iff scale.ne', Nat.cast_pow, pow_add]
    field_simp
    push_cast
    ring
  rw [unscaled, lt_div_iff₀ scale]

end Insertion
