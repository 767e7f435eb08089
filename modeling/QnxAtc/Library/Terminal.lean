import QnxAtc.Library.Extraction

/-! # What a terminal shows

A control sequence, from ESC and `[` to its final byte, moves the cursor or sets a
colour and takes no cell; every other character takes one. A text is described by the
lines it draws, and texts drawn one after the other draw their lines one after the
other.
-/

namespace Terminal

open Extraction

/-- Where in a control sequence the terminal is. -/
inductive Mode where
  | text
  | escape
  | sequence

def escape : Char := '\x1b'

/-- The final bytes of a control sequence. -/
def isFinal (c : Char) : Bool := 64 ≤ c.toNat && c.toNat ≤ 126

def visibleFrom : Mode → List Char → List Char
  | _, [] => []
  | .text, c :: cs => if c = escape then visibleFrom .escape cs else c :: visibleFrom .text cs
  | .escape, c :: cs => visibleFrom (if c = '[' then .sequence else .text) cs
  | .sequence, c :: cs => visibleFrom (if isFinal c then .text else .sequence) cs

def visible (cs : List Char) : List Char := visibleFrom .text cs

/-- The lines on the screen. -/
def screen (cs : List Char) : List (List Char) := lines (visible cs)

/-- Without control characters. -/
def Printable (cs : List Char) : Prop := ∀ c ∈ cs, 32 ≤ c.toNat

instance (cs : List Char) : Decidable (Printable cs) := List.decidableBAll _ cs

theorem Printable.append {cs ds : List Char} (h : Printable cs) (h' : Printable ds) :
    Printable (cs ++ ds) := by
  intro c member
  exact (List.mem_append.mp member).elim (h c) (h' c)

theorem Printable.free {cs : List Char} (h : Printable cs) : '\n' ∉ cs := by
  intro member
  exact absurd (h '\n' member) (by decide)

/-- Characters of one byte and one cell. -/
def Ascii (cs : List Char) : Prop := ∀ c ∈ cs, 32 ≤ c.toNat ∧ c.toNat < 127

instance (cs : List Char) : Decidable (Ascii cs) := List.decidableBAll _ cs

theorem Ascii.append {cs ds : List Char} (h : Ascii cs) (h' : Ascii ds) : Ascii (cs ++ ds) := by
  intro c member
  exact (List.mem_append.mp member).elim (h c) (h' c)

theorem Ascii.printable {cs : List Char} (h : Ascii cs) : Printable cs :=
  fun c member => (h c member).1

theorem Ascii.take {cs : List Char} (h : Ascii cs) (n : Nat) : Ascii (cs.take n) :=
  fun c member => h c (List.mem_of_mem_take member)

theorem ascii_blanks (n : Nat) : Ascii (List.replicate n ' ') := by
  intro c member
  rw [List.eq_of_mem_replicate member]
  decide

/-- For a literal: its characters need not be decoded from its bytes. -/
theorem ascii_ofList {cs : List Char} (h : Ascii cs) : Ascii (String.ofList cs).toList := by
  rwa [String.toList_ofList]

theorem ascii_of_digit {c : Char} (digit : c.isDigit = true) : 32 ≤ c.toNat ∧ c.toNat < 127 := by
  simp only [Char.isDigit, Bool.and_eq_true, decide_eq_true_eq] at digit
  have low : 48 ≤ c.toNat := UInt32.le_iff_toNat_le.mp digit.1
  have high : c.toNat ≤ 57 := UInt32.le_iff_toNat_le.mp digit.2
  omega

theorem visible_append {cs : List Char} (plain : Printable cs) (rest : List Char) :
    visible (cs ++ rest) = cs ++ visible rest := by
  induction cs with
  | nil => rfl
  | cons c cs ih =>
      have head : c ≠ escape := by
        rintro rfl
        exact absurd (plain escape List.mem_cons_self) (by decide)
      have tail := ih fun d h => plain d (List.mem_cons_of_mem c h)
      rw [List.cons_append, visible, visibleFrom, if_neg head]
      exact congrArg (c :: ·) tail

/-- A text that shows nothing. -/
def Control (cs : List Char) : Prop := ∀ rest, visible (cs ++ rest) = visible rest

theorem lines_joined {ls : List (List Char)} (free : ∀ l ∈ ls, '\n' ∉ l) :
    lines (ls.flatMap fun l => l ++ ['\n']) = ls := by
  have pieces : (ls.flatMap fun l => l ++ ['\n']).splitOn '\n' = ls ++ [[]] := by
    induction ls with
    | nil => rfl
    | cons l ls ih =>
        have tail := ih fun m h => free m (List.mem_cons_of_mem l h)
        have whole : ∀ c ∈ l, (c == '\n') = false := by
          rintro c member
          simp only [beq_eq_false_iff_ne]
          rintro rfl
          exact free l List.mem_cons_self member
        rw [List.flatMap_cons, List.append_assoc, List.singleton_append, List.splitOn,
          List.splitOnP_append_cons _ _ (by decide), List.splitOnP_eq_singleton whole]
        exact congrArg (l :: ·) tail
  simp only [lines, pieces, List.getLast?_concat, if_true, List.dropLast_concat]

/-! ## Drawn lines -/

/-- The text draws these lines, whatever comes after it. -/
structure Draws (text : List Char) (shown : List (List Char)) : Prop where
  free : ∀ l ∈ shown, '\n' ∉ l
  drawn : ∀ rest, visible (text ++ rest) = (shown.flatMap fun l => l ++ ['\n']) ++ visible rest

namespace Draws

variable {a b : List Char} {shown shown' : List (List Char)}

theorem screen_eq (h : Draws a shown) : screen a = shown := by
  have all := h.drawn []
  rw [List.append_nil, show visible [] = [] from rfl, List.append_nil] at all
  rw [screen, all, lines_joined h.free]

theorem nil : Draws [] [] := ⟨by simp, fun _ => rfl⟩

theorem append (h : Draws a shown) (h' : Draws b shown') : Draws (a ++ b) (shown ++ shown') := by
  refine ⟨?_, fun rest => ?_⟩
  · intro l member
    exact (List.mem_append.mp member).elim (h.free l) (h'.free l)
  · rw [List.append_assoc, h.drawn, h'.drawn, List.flatMap_append, List.append_assoc]

theorem flatMap {α : Type} {f : α → List Char} {g : α → List Char} {items : List α}
    (each : ∀ x ∈ items, Draws (f x) [g x]) : Draws (items.flatMap f) (items.map g) := by
  induction items with
  | nil => exact .nil
  | cons x items ih =>
      have first := each x List.mem_cons_self
      have others := ih fun y h => each y (List.mem_cons_of_mem x h)
      exact first.append others

theorem control (h : Control a) : Draws a [] := ⟨by simp, h⟩

theorem newline (rest : List Char) : visible ('\n' :: rest) = '\n' :: visible rest := rfl

/-- A line without control sequences. -/
theorem line {l : List Char} (plain : Printable l) : Draws (l ++ ['\n']) [l] := by
  refine ⟨by simpa using plain.free, fun rest => ?_⟩
  rw [List.append_assoc, visible_append plain]
  simp [newline]

/-- A line with one stretch of it in a colour. -/
theorem coloured {l m r set reset : List Char} (left : Printable l) (middle : Printable m)
    (right : Printable r) (on : Control set) (off : Control reset) :
    Draws (l ++ (set ++ (m ++ (reset ++ (r ++ ['\n']))))) [l ++ (m ++ r)] := by
  refine ⟨by simpa using ⟨left.free, middle.free, right.free⟩, fun rest => ?_⟩
  simp only [List.append_assoc]
  rw [visible_append left, on, visible_append middle, off, visible_append right]
  simp [newline]

end Draws

end Terminal
