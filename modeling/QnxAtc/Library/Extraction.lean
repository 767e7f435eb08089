import Mathlib.Data.List.TakeWhile

/-! # Formatted extraction

A formatted extraction skips white space and takes the longest prefix that spells a
value; the characters after it are left for the next one. A reader by words would cut
the text at white space first. Where every extraction of a sequence ends at white space
the two agree, and nowhere else.
-/

namespace Extraction

/-! ## White space and words -/

/-- White space of the classic locale: the blank and the five control characters. -/
def isSpace (c : Char) : Bool := c.toNat = 32 || (9 ≤ c.toNat && c.toNat ≤ 13)

def skip (cs : List Char) : List Char := cs.dropWhile isSpace

/-- White space or the end of the text comes next. -/
def atBreak : List Char → Bool
  | [] => true
  | c :: _ => isSpace c

def words (cs : List Char) : List (List Char) := (cs.splitOnP isSpace).filter fun w => w ≠ []

/-- The lines of a text; a newline at the end opens no further line. -/
def lines (text : List Char) : List (List Char) :=
  let pieces := text.splitOn '\n'
  if pieces.getLast? = some [] then pieces.dropLast else pieces

theorem words_append_space {c : Char} (space : isSpace c = true) (xs ys : List Char) :
    words (xs ++ c :: ys) = words xs ++ words ys := by
  rw [words, List.splitOnP_append_cons xs ys space, List.filter_append]
  rfl

theorem words_cons_space {c : Char} (space : isSpace c = true) (cs : List Char) :
    words (c :: cs) = words cs := words_append_space space [] cs

theorem words_skip (cs : List Char) : words (skip cs) = words cs := by
  induction cs with
  | nil => rfl
  | cons c cs ih =>
      cases h : isSpace c with
      | true =>
          rw [words_cons_space h, ← ih]
          simp [skip, h]
      | false => simp [skip, h]

theorem words_of_free {w : List Char} (ne : w ≠ []) (free : ∀ c ∈ w, isSpace c = false) :
    words w = [w] := by
  rw [words, List.splitOnP_eq_singleton free]
  simp [ne]

/-- A word is cut off at the break after it. -/
theorem words_append {w rest : List Char} (ne : w ≠ []) (free : ∀ c ∈ w, isSpace c = false)
    (ends : atBreak rest = true) : words (w ++ rest) = w :: words rest := by
  cases rest with
  | nil =>
      rw [List.append_nil]
      exact words_of_free ne free
  | cons c rest =>
      have space : isSpace c = true := ends
      rw [words_append_space space, words_cons_space space, words_of_free ne free]
      rfl

theorem atBreak_dropWhile (cs : List Char) :
    atBreak (cs.dropWhile fun c => !isSpace c) = true := by
  induction cs with
  | nil => rfl
  | cons c cs ih =>
      cases h : isSpace c with
      | true => simp [h, atBreak]
      | false => simpa [h] using ih

theorem skip_head {cs rest : List Char} {c : Char} (h : skip cs = c :: rest) :
    isSpace c = false := by
  have ne : cs.dropWhile isSpace ≠ [] := by
    rw [show cs.dropWhile isSpace = c :: rest from h]
    exact List.cons_ne_nil c rest
  have head := List.head_dropWhile_not isSpace ne
  simpa [show cs.dropWhile isSpace = c :: rest from h] using head

/-- A text is blank, or it begins with its first word. -/
theorem words_cases (cs : List Char) :
    (skip cs = [] ∧ words cs = []) ∨
      ∃ w rest, skip cs = w ++ rest ∧ w ≠ [] ∧ (∀ c ∈ w, isSpace c = false) ∧
        atBreak rest = true ∧ words cs = w :: words rest := by
  cases h : skip cs with
  | nil =>
      refine .inl ⟨rfl, ?_⟩
      rw [← words_skip, h]
      rfl
  | cons c rest =>
      have start : isSpace c = false := skip_head h
      let w := (c :: rest).takeWhile fun d => !isSpace d
      have split : c :: rest = w ++ (c :: rest).dropWhile fun d => !isSpace d :=
        List.takeWhile_append_dropWhile.symm
      have ne : w ≠ [] := by simp [w, start]
      have free : ∀ d ∈ w, isSpace d = false := by
        intro d member
        simpa using List.mem_takeWhile_imp member
      refine .inr ⟨w, _, split, ne, free, atBreak_dropWhile _, ?_⟩
      rw [← words_skip, h]
      exact (congrArg words split).trans (words_append ne free (atBreak_dropWhile _))

/-! ## The longest prefix -/

/-- The longest prefix that `valid` accepts, and what comes after it. -/
def longestPrefix (valid : List Char → Bool) : List Char → Option (List Char × List Char)
  | [] => if valid [] then some ([], []) else none
  | c :: cs =>
      match longestPrefix (fun w => valid (c :: w)) cs with
      | some (w, rest) => some (c :: w, rest)
      | none => if valid [] then some ([], c :: cs) else none

theorem longestPrefix_spec {valid : List Char → Bool} {cs w rest : List Char}
    (h : longestPrefix valid cs = some (w, rest)) : w ++ rest = cs ∧ valid w = true := by
  induction cs generalizing valid w with
  | nil =>
      simp only [longestPrefix, Option.ite_none_right_eq_some, Option.some.injEq,
        Prod.mk.injEq] at h
      obtain ⟨accepts, rfl, rfl⟩ := h
      exact ⟨rfl, accepts⟩
  | cons c cs ih =>
      rw [longestPrefix] at h
      split at h
      · rename_i v rest' longer
        cases h
        obtain ⟨split, accepts⟩ := ih longer
        exact ⟨congrArg (c :: ·) split, accepts⟩
      · simp only [Option.ite_none_right_eq_some, Option.some.injEq, Prod.mk.injEq] at h
        obtain ⟨accepts, rfl, rfl⟩ := h
        exact ⟨rfl, accepts⟩

/-- No accepted prefix is longer. -/
theorem longestPrefix_maximal {valid : List Char → Bool} {v : List Char}
    (accepts : valid v = true) (cs : List Char) :
    ∃ w rest, longestPrefix valid (v ++ cs) = some (w, rest) ∧ v.length ≤ w.length := by
  induction v generalizing valid with
  | nil =>
      cases cs with
      | nil => exact ⟨[], [], by simp [longestPrefix, accepts], Nat.le_refl _⟩
      | cons c cs =>
          cases h : longestPrefix (fun w => valid (c :: w)) cs with
          | some found => exact ⟨c :: found.1, found.2, by simp [longestPrefix, h], Nat.zero_le _⟩
          | none => exact ⟨[], c :: cs, by simp [longestPrefix, h, accepts], Nat.zero_le _⟩
  | cons c v ih =>
      obtain ⟨w, rest, found, le⟩ := @ih (fun w => valid (c :: w)) accepts
      exact ⟨c :: w, rest, by simp [longestPrefix, found], Nat.succ_le_succ le⟩

/-! ## Formats -/

/-- How values of a type are spelled; a spelling out of range has no value. -/
structure Format (α : Type) where
  valid : List Char → Bool
  value : List Char → Option α
  ne_nil : ∀ {w}, valid w = true → w ≠ []
  free : ∀ {w}, valid w = true → ∀ c ∈ w, isSpace c = false

namespace Format

variable {α β : Type}

/-- One extraction: the value and what is left, `none` when nothing fits or the value
is out of range. -/
def extract (f : Format α) (cs : List Char) : Option (α × List Char) :=
  match longestPrefix f.valid (skip cs) with
  | some (w, rest) => (f.value w).map fun a => (a, rest)
  | none => none

/-- The value of a whole word. -/
def read (f : Format α) (w : List Char) : Option α := if f.valid w then f.value w else none

/-- The extraction takes the word at the start if and only if all of the word is valid. -/
theorem longestPrefix_word (f : Format α) {w rest : List Char}
    (free : ∀ c ∈ w, isSpace c = false) (ends : atBreak rest = true) :
    longestPrefix f.valid (w ++ rest) = some (w, rest) ↔ f.valid w = true := by
  constructor
  · intro h
    exact (longestPrefix_spec h).2
  · intro accepts
    obtain ⟨v, rest', found, le⟩ := longestPrefix_maximal accepts rest
    obtain ⟨split, valid⟩ := longestPrefix_spec found
    have stops : v = w ∧ rest' = rest := by
      obtain ⟨more, rfl, tail⟩ | ⟨more, rfl, tail⟩ := List.append_eq_append_iff.mp split
      · have none_left : more = [] := by
          rw [List.length_append] at le
          exact List.eq_nil_of_length_eq_zero (by omega)
        subst none_left
        exact ⟨(List.append_nil v).symm, tail⟩
      · cases more with
        | nil => exact ⟨List.append_nil w, tail.symm⟩
        | cons c more =>
            -- the character after the word would be white space inside a valid prefix
            have inside : isSpace c = false := f.free valid c (by simp)
            subst tail
            exact absurd ends (by simpa [atBreak] using inside)
    rw [found, stops.1, stops.2]

theorem extract_eq_some {f : Format α} {cs rest : List Char} {a : α} :
    f.extract cs = some (a, rest) ↔
      ∃ w, longestPrefix f.valid (skip cs) = some (w, rest) ∧ f.value w = some a := by
  unfold extract
  split
  · rename_i w rest' found
    simp only [found, Option.map_eq_some_iff, Option.some.injEq, Prod.mk.injEq]
    constructor
    · rintro ⟨b, value, rfl, rfl⟩
      exact ⟨w, ⟨rfl, rfl⟩, value⟩
    · rintro ⟨v, ⟨rfl, rfl⟩, value⟩
      exact ⟨a, value, rfl, rfl⟩
  · rename_i none_fits
    simp [none_fits]

theorem read_eq_some {f : Format α} {w : List Char} {a : α} :
    f.read w = some a ↔ f.valid w = true ∧ f.value w = some a :=
  Option.ite_none_right_eq_some

end Format

/-! ## Sequences of extractions -/

/-- The operands of a chain of extractions, in order. -/
inductive Fields : Type → Type 1 where
  | nil : Fields Unit
  | cons {α β : Type} (f : Format α) (fs : Fields β) : Fields (α × β)

namespace Fields

variable {α : Type}

/-- The chain itself: it fails as a whole when one extraction fails, and takes no notice
of what is left behind the last. -/
def extractAll : {α : Type} → Fields α → List Char → Option (α × List Char)
  | _, .nil, cs => some ((), cs)
  | _, .cons f fs, cs =>
      (f.extract cs).bind fun (a, rest) =>
        (fs.extractAll rest).map fun (as, rest) => ((a, as), rest)

/-- The values of a list of words, as many as there are fields. -/
def readAll : {α : Type} → Fields α → List (List Char) → Option α
  | _, .nil, [] => some ()
  | _, .nil, _ :: _ => none
  | _, .cons _ _, [] => none
  | _, .cons f fs, w :: ws => (f.read w).bind fun a => (fs.readAll ws).map fun as => (a, as)

/-- Every longest prefix in turn is followed by a break, and the last one by white space
only. -/
def wholeWords : {α : Type} → Fields α → List Char → Bool
  | _, .nil, cs => (skip cs).isEmpty
  | _, .cons f fs, cs =>
      match longestPrefix f.valid (skip cs) with
      | some (_, rest) => atBreak rest && fs.wholeWords rest
      | none => false

variable {β : Type} {f : Format α} {fs : Fields β}

theorem extractAll_cons {cs rest : List Char} {values : α × β} :
    (cons f fs).extractAll cs = some (values, rest) ↔
      ∃ next, f.extract cs = some (values.1, next) ∧
        fs.extractAll next = some (values.2, rest) := by
  obtain ⟨a, as⟩ := values
  simp only [extractAll, Option.bind_eq_some_iff, Option.map_eq_some_iff, Prod.mk.injEq]
  constructor
  · rintro ⟨⟨b, next⟩, first, ⟨bs, rest'⟩, others, ⟨rfl, rfl⟩, rfl⟩
    exact ⟨next, first, others⟩
  · rintro ⟨next, first, others⟩
    exact ⟨(a, next), first, (as, rest), others, ⟨rfl, rfl⟩, rfl⟩

theorem readAll_cons {ws : List (List Char)} {values : α × β} :
    (cons f fs).readAll ws = some values ↔
      ∃ w ws', ws = w :: ws' ∧ f.read w = some values.1 ∧ fs.readAll ws' = some values.2 := by
  obtain ⟨a, as⟩ := values
  cases ws with
  | nil => simp [readAll]
  | cons w ws =>
      simp only [readAll, Option.bind_eq_some_iff, Option.map_eq_some_iff, Prod.mk.injEq]
      constructor
      · rintro ⟨b, first, bs, others, rfl, rfl⟩
        exact ⟨w, ws, rfl, first, others⟩
      · rintro ⟨v, vs, same, first, others⟩
        cases same
        exact ⟨a, first, as, others, rfl, rfl⟩

theorem wholeWords_cons {cs : List Char} :
    (cons f fs).wholeWords cs = true ↔
      ∃ w rest, longestPrefix f.valid (skip cs) = some (w, rest) ∧ atBreak rest = true ∧
        fs.wholeWords rest = true := by
  rw [wholeWords]
  split
  · rename_i v rest' found
    simp only [found, Option.some.injEq, Prod.mk.injEq, Bool.and_eq_true]
    constructor
    · intro h
      exact ⟨v, rest', ⟨rfl, rfl⟩, h⟩
    · rintro ⟨w, rest, ⟨rfl, rfl⟩, h⟩
      exact h
  · rename_i none_fits
    simp [none_fits]

/-- Words and extractions read the same values where every extraction ends at a break. -/
theorem readAll_words {fs : Fields α} {cs : List Char} {values : α} :
    fs.readAll (words cs) = some values ↔
      (∃ rest, fs.extractAll cs = some (values, rest)) ∧ fs.wholeWords cs = true := by
  induction fs generalizing cs with
  | nil =>
      obtain ⟨blank, none_left⟩ | ⟨w, rest, start, _, _, _, first⟩ := words_cases cs
      · simp [none_left, readAll, extractAll, wholeWords, blank]
      · have unread : skip cs ≠ [] := by simp_all
        simp [first, readAll, wholeWords, unread]
  | cons f fs ih =>
      rw [readAll_cons, wholeWords_cons]
      simp only [extractAll_cons]
      constructor
      · rintro ⟨w, ws, first, read, others⟩
        obtain ⟨valid, value⟩ := Format.read_eq_some.mp read
        obtain ⟨_, none_left⟩ | ⟨v, next, start, _, free, ends, cut⟩ := words_cases cs
        · rw [none_left] at first
          cases first
        · rw [cut] at first
          cases first
          have taken : longestPrefix f.valid (skip cs) = some (w, next) := by
            rw [start]
            exact (f.longestPrefix_word free ends).mpr valid
          obtain ⟨⟨rest, extracted⟩, whole⟩ := ih.mp others
          have extract : f.extract cs = some (values.1, next) :=
            Format.extract_eq_some.mpr ⟨w, taken, value⟩
          exact ⟨⟨rest, next, extract, extracted⟩, w, next, taken, ends, whole⟩
      · rintro ⟨⟨rest, next, extract, extracted⟩, w, next', taken, ends, whole⟩
        obtain ⟨v, taken', value⟩ := Format.extract_eq_some.mp extract
        rw [taken] at taken'
        cases taken'
        obtain ⟨start, valid⟩ := longestPrefix_spec taken
        have cut : words cs = w :: words next := by
          rw [← words_skip, ← start]
          exact words_append (f.ne_nil valid) (f.free valid) ends
        exact ⟨w, words next, cut, Format.read_eq_some.mpr ⟨valid, value⟩,
          ih.mpr ⟨⟨rest, extracted⟩, whole⟩⟩

end Fields

/-! ## Line by line -/

section Lines

variable {α β : Type*} {f g : α → Option β}

theorem length_filterMap_le (le : ∀ a b, g a = some b → f a = some b) (l : List α) :
    (l.filterMap g).length ≤ (l.filterMap f).length := by
  induction l with
  | nil => exact Nat.le_refl 0
  | cons a l ih =>
      cases hg : g a with
      | none =>
          cases hf : f a with
          | none => simpa [hg, hf] using ih
          | some b => simpa [hg, hf] using Nat.le_succ_of_le ih
      | some b => simpa [hg, le a b hg] using ih

/-- A reader that takes more lines than another has the same result only where it takes
the same lines. -/
theorem filterMap_eq_iff (le : ∀ a b, g a = some b → f a = some b) (l : List α) :
    l.filterMap f = l.filterMap g ↔ ∀ a ∈ l, f a = g a := by
  induction l with
  | nil => simp
  | cons a l ih =>
      cases hg : g a with
      | some b => simp [hg, le a b hg, ih]
      | none =>
          cases hf : f a with
          | none => simp [hg, hf, ih]
          | some b =>
              have longer : b :: l.filterMap f ≠ l.filterMap g := by
                intro same
                have counted := congrArg List.length same
                have := length_filterMap_le le l
                rw [List.length_cons] at counted
                omega
              simp [hg, hf, longer]

end Lines

end Extraction
