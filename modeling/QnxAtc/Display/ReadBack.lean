import QnxAtc.Display.Render

/-! # What can be read off the picture

The reverse of `render`: an observer who sees the lines of a frame only, and reads them
by words. The box cuts every text at its width, so a number can lose digits; the
columns that come before the cut are read back as they were printed.
-/

namespace QnxAtc

open Extraction Insertion Terminal

/-! ## The observer -/

/-- The text between the sides of the box. -/
def interior (line : List Char) : List Char := line.tail.dropLast

/-- The cells of a table row. -/
def cells (line : List Char) : List (List Char) :=
  (words (interior line)).filter fun w => w ≠ ['|']

def positionFields : Fields (Int32 × ℚ × ℚ × ℚ × Unit) :=
  .cons int (.cons double (.cons double (.cons double .nil)))

def planeFields : Fields (Int32 × ℚ × ℚ × ℚ × ℚ × ℚ × ℚ × Unit) :=
  .cons int (.cons double (.cons double (.cons double (.cons double (.cons double
    (.cons double .nil))))))

/-- The ID and the position in a row. -/
def readPosition (line : List Char) : Option (Int32 × ℚ × ℚ × ℚ × Unit) :=
  positionFields.readAll ((cells line).take 4)

/-- All of a row. -/
def readPlane (line : List Char) : Option MsgPlaneInfo :=
  (planeFields.readAll (cells line)).map fun (id, x, y, z, vx, vy, vz, ()) =>
    ⟨id, x, y, z, vx, vy, vz⟩

/-- The timestamp and the number of aircraft. -/
def readHead (line : List Char) : Option (Nat × Nat) :=
  match words (interior line) with
  | [_, timestamp, _, _, _, count] => some (digitsValue timestamp, digitsValue count)
  | _ => none

/-- The two aircraft of a warning. -/
def readWarning (line : List Char) : Option (Int32 × Int32) :=
  match words (interior line) with
  | [_, _, _, _, first, _, _, second, _] =>
      (int.read first).bind fun i => (int.read second).map fun j => (i, j)
  | _ => none

structure Picture where
  head : Option (Nat × Nat)
  positions : List (Int32 × ℚ × ℚ × ℚ × Unit)
  warned : List (Int32 × Int32)

/-- The table goes from the fourth horizontal line to the next one. -/
def readPicture (lines : List (List Char)) : Picture where
  head := (lines[3]?).bind readHead
  positions := ((lines.drop 7).takeWhile fun line => line.head? = some '║').filterMap readPosition
  warned := ((lines.drop 7).dropWhile fun line => line.head? = some '║').filterMap readWarning

/-! ## The cut -/

@[simp] theorem interior_boxed (inner : List Char) : interior (boxed inner) = padInner inner := by
  rw [interior, boxed, List.tail_cons, List.dropLast_concat]

/-- A text that begins in the box goes on with blanks, or breaks off further right. -/
theorem padInner_append {a b : List Char} (room : a.length ≤ kBoxInnerWidth)
    (ends : atBreak b = true) :
    ∃ rest, padInner (a ++ b) = a ++ rest ∧ atBreak rest = true := by
  unfold padInner
  split
  · refine ⟨b.take (kBoxInnerWidth - a.length), ?_, ?_⟩
    · rw [List.take_append, List.take_of_length_le room]
    · cases b with
      | nil => simp [atBreak]
      | cons c b =>
          cases kBoxInnerWidth - a.length with
          | zero => rfl
          | succ n => exact ends
  · refine ⟨b ++ List.replicate (kBoxInnerWidth - (a ++ b).length) ' ', by simp, ?_⟩
    cases b with
    | nil =>
        cases kBoxInnerWidth - (a ++ []).length with
        | zero => rfl
        | succ n => rfl
    | cons c b => exact ends

theorem words_padInner {inner : List Char} (fits : inner.length ≤ kBoxInnerWidth) :
    words (padInner inner) = words inner := by
  rw [padInner, if_neg (by omega), words_append_blanks]

/-! ## Rows -/

theorem atBreak_columns (row : List (List Char)) : atBreak (columns row) = true := by
  cases row with
  | nil => rfl
  | cons cell row => simp [columns, atBreak, isSpace]

theorem words_columns {row : List (List Char)} (h : ∀ cell ∈ row, IsWord cell) :
    words (columns row) = row.flatMap fun cell => [['|'], cell] := by
  induction row with
  | nil => rfl
  | cons cell row ih =>
      have first := h cell List.mem_cons_self
      have others := ih fun c member => h c (List.mem_cons_of_mem cell member)
      have text : columns (cell :: row) =
          ' ' :: (['|'] ++ ' ' :: (setwRight 8 cell ++ columns row)) := by
        simp [columns]
      rw [text, words_blank, words_word_blank (by decide),
        words_setwRight first (atBreak_columns row), others]
      rfl

theorem words_tableRow {id : List Char} {row : List (List Char)} (word : IsWord id)
    (h : ∀ cell ∈ row, IsWord cell) :
    words (tableRow id row) = id :: row.flatMap fun cell => [['|'], cell] := by
  rw [tableRow, words_blank, words_setwLeft word (atBreak_columns row),
    words_columns h]

theorem tableRow_append (id : List Char) (row more : List (List Char)) :
    tableRow id (row ++ more) = tableRow id row ++ columns more := by
  simp [tableRow, columns]

/-- Without the separators. -/
theorem filter_cells {row : List (List Char)} (h : ∀ cell ∈ row, cell ≠ ['|']) :
    (row.flatMap fun cell => [['|'], cell]).filter (fun w => w ≠ ['|']) = row := by
  induction row with
  | nil => rfl
  | cons cell row ih =>
      have first := h cell List.mem_cons_self
      have others := ih fun c member => h c (List.mem_cons_of_mem cell member)
      simpa [first] using others

/-- The cells that stand in the box are read whatever is cut off behind them. -/
theorem cells_boxed {id : List Char} {row : List (List Char)} (more : List (List Char))
    (word : IsWord id) (h : ∀ cell ∈ row, IsWord cell) (noBar : ∀ cell ∈ id :: row, cell ≠ ['|'])
    (room : (tableRow id row).length ≤ kBoxInnerWidth) :
    ∃ rest, cells (boxed (tableRow id (row ++ more))) = id :: row ++ rest := by
  obtain ⟨rest, text, ends⟩ := padInner_append room (atBreak_columns more)
  refine ⟨(words rest).filter fun w => w ≠ ['|'], ?_⟩
  have seen := filter_cells fun cell member => noBar cell (List.mem_cons_of_mem id member)
  have bar := noBar id List.mem_cons_self
  rw [cells, interior_boxed, tableRow_append, text, words_append_break ends,
    words_tableRow word h, List.filter_append, List.filter_cons_of_pos (by simpa using bar), seen]

theorem cells_boxed_of_fits {id : List Char} {row : List (List Char)} (word : IsWord id)
    (h : ∀ cell ∈ row, IsWord cell) (noBar : ∀ cell ∈ id :: row, cell ≠ ['|'])
    (fits : (tableRow id row).length ≤ kBoxInnerWidth) :
    cells (boxed (tableRow id row)) = id :: row := by
  have seen := filter_cells fun cell member => noBar cell (List.mem_cons_of_mem id member)
  have bar := noBar id List.mem_cons_self
  rw [cells, interior_boxed, words_padInner fits, words_tableRow word h,
    List.filter_cons_of_pos (by simpa using bar), seen]

/-! ## Numbers -/

theorem decimal_word (n : Int32) : IsWord (decimal n).toList := integer_word n.toInt

theorem decimal_ne_bar (n : Int32) : (decimal n).toList ≠ ['|'] := by
  intro same
  have numeral := (integer_repr n.toInt).1
  rw [show n.toInt.repr.toList = ['|'] from same] at numeral
  cases numeral

theorem fixed_ne_bar (places : Nat) (x : ℚ) : fixed places x ≠ ['|'] := by
  intro same
  have numeral := isDecimal_fixed places x
  rw [same] at numeral
  cases numeral

theorem read_decimal (n : Int32) : int.read (decimal n).toList = some n := by
  obtain ⟨valid, value⟩ := integer_repr n.toInt
  have range : -2 ^ 31 ≤ n.toInt ∧ n.toInt < 2 ^ 31 := ⟨n.le_toInt, n.toInt_lt⟩
  refine Format.read_eq_some.mpr ⟨valid, ?_⟩
  simp only [decimal, int, value, if_pos range, Int32.ofInt_toInt]

theorem decimal_length_le (n : Int32) : (decimal n).toList.length ≤ 11 := by
  have low := n.le_toInt
  have high := n.toInt_lt
  have digits (m : Nat) (small : m < 10 ^ 10) : (Nat.toDigits 10 m).length ≤ 10 :=
    (Nat.length_toDigits_le_iff (by decide) (by decide)).mpr small
  rw [decimal, toList_intRepr]
  split
  · have := digits n.toInt.toNat (by omega)
    omega
  · have := digits (-n.toInt).toNat (by omega)
    rw [List.length_cons]
    omega

/-- A number fits its column exactly when it is rounded to at most six digits before the
point, five with a sign. -/
theorem fixed_one_length_le_iff {width : Nat} (wide : 0 < width) (x : ℚ) :
    (fixed 1 x).length ≤ width + 3 ↔
      -(10 ^ width - 1 / 20 : ℚ) < x ∧ x < 10 ^ (width + 1) - 1 / 20 := by
  have grows : (10 : ℚ) ^ width ≤ 10 ^ (width + 1) := by
    gcongr <;> norm_num
  have large : (1 : ℚ) ≤ 10 ^ width := one_le_pow₀ (by norm_num)
  have half : (1 / (2 * 10 ^ 1) : ℚ) = 1 / 20 := by norm_num
  rw [fixed_length]
  by_cases neg : x < 0
  · have digits := whole_length_le_iff Nat.one_pos wide x
    have narrow : ∀ d : Nat, (if x < 0 then 1 else 0) + (d + if 1 = 0 then 0 else 1 + 1) ≤
        width + 3 ↔ d ≤ width := by
      intro d
      rw [if_pos neg, if_neg (by decide)]
      omega
    rw [narrow, digits, abs_of_neg neg, half]
    constructor
    · intro small
      exact ⟨by linarith, by linarith⟩
    · intro small
      linarith [small.1]
  · have digits := whole_length_le_iff Nat.one_pos (Nat.succ_pos width) x
    have narrow : ∀ d : Nat, (if x < 0 then 1 else 0) + (d + if 1 = 0 then 0 else 1 + 1) ≤
        width + 3 ↔ d ≤ width + 1 := by
      intro d
      rw [if_neg neg, if_neg (by decide)]
      omega
    rw [narrow, digits, abs_of_nonneg (not_lt.mp neg), half]
    constructor
    · intro small
      exact ⟨by linarith [not_lt.mp neg], small⟩
    · intro small
      exact small.2

theorem largest_double : (10 ^ 17 : ℚ) ≤ 2 ^ 1024 - 2 ^ 970 := by
  have split : (2 ^ 1024 : ℚ) = 2 ^ 54 * 2 ^ 970 := by rw [← pow_add]
  have tens : (10 ^ 17 : ℚ) ≤ 2 ^ 970 :=
    calc (10 ^ 17 : ℚ) ≤ 2 ^ 200 := by norm_num
      _ ≤ 2 ^ 970 := pow_le_pow_right₀ (by norm_num) (by decide)
  rw [split]
  generalize (2 ^ 970 : ℚ) = unit at tens
  linarith

/-- What fits in the box is far from the largest `double`. -/
theorem rounded_range {x : ℚ} (short : (fixed 1 x).length ≤ 19) :
    |rounded 1 x| < 2 ^ 1024 - 2 ^ 970 := by
  have bound := (fixed_one_length_le_iff (show 0 < 16 by decide) x).mp short
  have near := abs_le.mp (abs_rounded_sub_le 1 x)
  norm_num at bound near
  refine lt_of_lt_of_le (abs_lt.mpr ⟨?_, ?_⟩) largest_double
  · linarith [near.1, bound.1]
  · linarith [near.2, bound.2]

/-! ## A row read back -/

/-- The numbers a row shows for an aircraft. -/
def MsgPlaneInfo.shown (p : MsgPlaneInfo) : MsgPlaneInfo where
  id := p.id
  positionX := rounded 1 p.positionX
  positionY := rounded 1 p.positionY
  positionZ := rounded 1 p.positionZ
  velocityX := rounded 1 p.velocityX
  velocityY := rounded 1 p.velocityY
  velocityZ := rounded 1 p.velocityZ

/-- The ID and the position as a row shows them. -/
def MsgPlaneInfo.shownPosition (p : MsgPlaneInfo) : Int32 × ℚ × ℚ × ℚ × Unit :=
  (p.id, p.shown.positionX, p.shown.positionY, p.shown.positionZ, ())

/-- The position of an aircraft in the airspace fits its columns. -/
theorem MsgPlaneInfo.InAirspace.columns_fit {p : MsgPlaneInfo} (h : p.InAirspace) :
    (fixed 1 p.positionX).length ≤ 8 ∧ (fixed 1 p.positionY).length ≤ 8 ∧
      (fixed 1 p.positionZ).length ≤ 8 := by
  have column (x : ℚ) (low : 0 ≤ x) (high : x ≤ 100000) : (fixed 1 x).length ≤ 8 :=
    (fixed_one_length_le_iff (show 0 < 5 by decide) x).mpr
      ⟨by norm_num; linarith, by norm_num; linarith⟩
  exact ⟨column _ h.x.1 h.x.2, column _ h.y.1 h.y.2,
    column _ (by linarith [h.z.1]) (by linarith [h.z.2])⟩

theorem readPosition_planeRow {p : MsgPlaneInfo} (inside : p.InAirspace) :
    readPosition (boxed (planeRow p)) = some p.shownPosition := by
  obtain ⟨x, y, z⟩ := inside.columns_fit
  have id := decimal_length_le p.id
  have room : (tableRow (decimal p.id).toList
      [fixed 1 p.positionX, fixed 1 p.positionY, fixed 1 p.positionZ]).length ≤
        kBoxInnerWidth := by
    simp only [tableRow, columns, List.flatMap_cons, List.flatMap_nil, List.length_cons,
      List.length_append, setwLeft_length, setwRight_length_of_le x, setwRight_length_of_le y,
      setwRight_length_of_le z, List.length_nil, kBoxInnerWidth,
      show " | ".toList.length = 3 from rfl]
    omega
  obtain ⟨rest, seen⟩ := cells_boxed
    [fixed 1 p.velocityX, fixed 1 p.velocityY, fixed 1 p.velocityZ] (decimal_word p.id)
    (by simp [fixed_word]) (by simp [decimal_ne_bar, fixed_ne_bar]) room
  rw [readPosition, planeRow]
  rw [List.cons_append, List.cons_append, List.cons_append, List.nil_append] at seen
  simp only [seen, List.cons_append, List.nil_append, List.take_succ_cons, List.take_zero,
    positionFields, Fields.readAll, read_decimal, Option.bind_some, Option.map_some,
    read_fixed 1 p.positionX (rounded_range (by omega)),
    read_fixed 1 p.positionY (rounded_range (by omega)),
    read_fixed 1 p.positionZ (rounded_range (by omega))]
  rfl

/-- A row in the box says all there is to say about an aircraft, to within a twentieth. -/
theorem readPlane_planeRow {p : MsgPlaneInfo} (fits : (planeRow p).length ≤ kBoxInnerWidth) :
    readPlane (boxed (planeRow p)) = some p.shown := by
  have seen : cells (boxed (planeRow p)) = (decimal p.id).toList ::
      [fixed 1 p.positionX, fixed 1 p.positionY, fixed 1 p.positionZ, fixed 1 p.velocityX,
        fixed 1 p.velocityY, fixed 1 p.velocityZ] :=
    cells_boxed_of_fits (decimal_word p.id) (by simp [fixed_word])
      (by simp [decimal_ne_bar, fixed_ne_bar]) fits
  simp only [planeRow, tableRow, columns, List.flatMap_cons, List.flatMap_nil, List.length_cons,
    List.length_append, setwLeft_length, List.length_nil, kBoxInnerWidth,
    show " | ".toList.length = 3 from rfl] at fits
  -- Each column takes at least its 8 cells, so no number has more than the rest of the box.
  have column := le_max_left 4 (decimal p.id).toList.length
  generalize max 4 (decimal p.id).toList.length = idWidth at fits column
  have width (x : ℚ) : 8 ≤ (setwRight 8 (fixed 1 x)).length := by
    rw [setwRight_length]
    exact le_max_left 8 _
  have x := width p.positionX
  have y := width p.positionY
  have z := width p.positionZ
  have vx := width p.velocityX
  have vy := width p.velocityY
  have vz := width p.velocityZ
  have readable (v : ℚ) (short : (setwRight 8 (fixed 1 v)).length ≤ 19) :
      double.read (fixed 1 v) = some (rounded 1 v) :=
    read_fixed 1 v (rounded_range ((length_le_setwRight 8 _).trans short))
  simp only [readPlane, seen, planeFields, Fields.readAll, read_decimal, Option.bind_some,
    Option.map_some, readable p.positionX (by omega), readable p.positionY (by omega),
    readable p.positionZ (by omega), readable p.velocityX (by omega),
    readable p.velocityY (by omega), readable p.velocityZ (by omega)]
  rfl

/-- The same aircraft, with every number off by at most `ε`. -/
structure MsgPlaneInfo.Within (ε : ℚ) (q p : MsgPlaneInfo) : Prop where
  id : q.id = p.id
  x : |q.positionX - p.positionX| ≤ ε
  y : |q.positionY - p.positionY| ≤ ε
  z : |q.positionZ - p.positionZ| ≤ ε
  vx : |q.velocityX - p.velocityX| ≤ ε
  vy : |q.velocityY - p.velocityY| ≤ ε
  vz : |q.velocityZ - p.velocityZ| ≤ ε

theorem MsgPlaneInfo.shown_within (p : MsgPlaneInfo) : Within (1 / 20) p.shown p := by
  have close (x : ℚ) : |rounded 1 x - x| ≤ 1 / 20 := by
    have bound := abs_rounded_sub_le 1 x
    norm_num at bound ⊢
    exact bound
  exact ⟨rfl, close _, close _, close _, close _, close _, close _⟩

/-- A speed fits its column. -/
def ColumnFits (x : ℚ) : Prop := -(10 ^ 5 - 1 / 20 : ℚ) < x ∧ x < 10 ^ 6 - 1 / 20

theorem planeRow_fits {p : MsgPlaneInfo} (inside : p.InAirspace) (vx : ColumnFits p.velocityX)
    (vy : ColumnFits p.velocityY) (vz : ColumnFits p.velocityZ) :
    (planeRow p).length ≤ kBoxInnerWidth := by
  obtain ⟨x, y, z⟩ := inside.columns_fit
  have id := decimal_length_le p.id
  have column {v : ℚ} (fits : ColumnFits v) : (fixed 1 v).length ≤ 8 :=
    (fixed_one_length_le_iff (show 0 < 5 by decide) v).mpr fits
  have vx := column vx
  have vy := column vy
  have vz := column vz
  simp only [planeRow, tableRow, columns, List.flatMap_cons, List.flatMap_nil, List.length_cons,
    List.length_append, setwLeft_length, setwRight_length_of_le x, setwRight_length_of_le y,
    setwRight_length_of_le z, setwRight_length_of_le vx, setwRight_length_of_le vy,
    setwRight_length_of_le vz, List.length_nil, kBoxInnerWidth,
    show " | ".toList.length = 3 from rfl]
  omega

theorem readHead_timestampRow {timestamp : UInt64} {count : Nat}
    (fits : (timestampRow timestamp count).length ≤ kBoxInnerWidth) :
    readHead (boxed (timestampRow timestamp count)) = some (timestamp.toNat, count) := by
  have label : words "  Timestamp: ".toList = ["Timestamp:".toList] := by rfl
  have label' : words "  Aircraft in airspace: ".toList =
      ["Aircraft".toList, "in".toList, "airspace:".toList] := by rfl
  have count_ : words (setwRight 3 count.repr.toList) = [count.repr.toList] := by
    rw [setwRight, words_blanks_append, words_of_free (natural_word count).1 (natural_word count).2]
  have seen : words (interior (boxed (timestampRow timestamp count))) =
      words "  Timestamp: ".toList ++ (timestamp.toNat.repr.toList ::
        (words "  Aircraft in airspace: ".toList ++ [count.repr.toList])) := by
    rw [interior_boxed, words_padInner fits]
    unfold timestampRow
    rw [words_label (by decide), words_setwLeft (natural_word _) (by rfl), words_label (by decide),
      count_]
  rw [readHead, seen, label, label']
  simp only [List.cons_append, List.nil_append, natural_value]

theorem natural_length_le {n width : Nat} (pos : 0 < width) (small : n < 10 ^ width) :
    n.repr.toList.length ≤ width := by
  rw [Nat.toList_repr]
  exact (Nat.length_toDigits_le_iff (by decide) pos).mpr small

/-- No timestamp and no count of type `int` is too long for the box. -/
theorem timestampRow_fits (timestamp : UInt64) {count : Nat} (small : count < 2 ^ 31) :
    (timestampRow timestamp count).length ≤ kBoxInnerWidth := by
  have time : timestamp.toNat.repr.toList.length ≤ 20 :=
    natural_length_le (by decide) (lt_trans timestamp.toNat_lt (by norm_num))
  have number : count.repr.toList.length ≤ 10 :=
    natural_length_le (by decide) (lt_trans small (by norm_num))
  have label : "  Timestamp: ".toList.length = 13 := by rfl
  have label' : "  Aircraft in airspace: ".toList.length = 24 := by rfl
  unfold timestampRow
  rw [List.length_append, List.length_append, List.length_append, setwLeft_length,
    setwRight_length, label, label', kBoxInnerWidth]
  omega

theorem collisionWarning_length_le (p : Int32 × Int32) :
    (collisionWarning p).toList.length ≤ 80 := by
  have first := decimal_length_le p.1
  have second := decimal_length_le p.2
  have start : "*** COLLISION WARNING: Plane ".toList.length = 29 := by rfl
  have middle : " <-> Plane ".toList.length = 11 := by rfl
  have last : " ***".toList.length = 4 := by rfl
  simp only [collisionWarning_toList, List.length_append, start, middle, last]
  omega

theorem interior_alerted (text : List Char) :
    interior (alerted text) = ' ' :: ' ' :: setwLeft 80 text := by
  have line : alerted text = '║' :: (' ' :: ' ' :: setwLeft 80 text ++ ['║']) := rfl
  rw [interior, line, List.tail_cons, List.dropLast_concat]

/-- No warning is too long for its line, and the line tells the pair. -/
theorem readWarning_collisionWarning (p : Int32 × Int32) :
    readWarning (alerted (resized (collisionWarning p).toList)) = some p := by
  have whole : resized (collisionWarning p).toList = (collisionWarning p).toList := by
    have := collisionWarning_length_le p
    rw [resized, if_neg (by omega)]
  have first := decimal_word p.1
  have second := decimal_word p.2
  have start : words "*** COLLISION WARNING: Plane ".toList =
      ["***".toList, "COLLISION".toList, "WARNING:".toList, "Plane".toList] := by rfl
  have middle : words " <-> Plane ".toList = ["<->".toList, "Plane".toList] := by rfl
  have last : words " ***".toList = ["***".toList] := by rfl
  have seen : words (interior (alerted (resized (collisionWarning p).toList))) =
      words "*** COLLISION WARNING: Plane ".toList ++ ((decimal p.1).toList ::
        (words " <-> Plane ".toList ++ ((decimal p.2).toList :: words " ***".toList))) := by
    rw [interior_alerted, whole, words_blank, words_blank, setwLeft, words_append_blanks,
      collisionWarning_toList, words_label (by decide), words_append first.1 first.2 (by rfl),
      words_label (by decide), words_append second.1 second.2 (by rfl)]
  rw [readWarning, seen, start, middle, last]
  simp only [List.cons_append, List.nil_append, read_decimal, Option.bind_some, Option.map_some]

/-! ## The whole picture -/

theorem filterMap_map_eq {α β γ : Type} {f : α → β} {g : β → Option γ} {h : α → γ} {l : List α}
    (each : ∀ a ∈ l, g (f a) = some (h a)) : (l.map f).filterMap g = l.map h := by
  induction l with
  | nil => rfl
  | cons a l ih =>
      rw [List.map_cons, List.filterMap_cons_some (each a List.mem_cons_self),
        ih fun b member => each b (List.mem_cons_of_mem a member), List.map_cons]

theorem positions_tableLines {planes : List MsgPlaneInfo} (inside : ∀ p ∈ planes, p.InAirspace) :
    (tableLines planes).filterMap readPosition = planes.map MsgPlaneInfo.shownPosition := by
  rw [tableLines, List.filterMap_append,
    filterMap_map_eq fun p member => readPosition_planeRow (inside p member)]
  split
  · have none_ : readPosition (boxed noAircraftData) = none := by rfl
    rw [List.filterMap_cons_none none_, List.filterMap_nil, List.append_nil]
  · rw [List.filterMap_nil, List.append_nil]

theorem warned_statusLines (pairs : List (Int32 × Int32)) :
    (statusLines (pairs.map collisionWarning)).filterMap readWarning = pairs := by
  unfold statusLines
  cases pairs with
  | nil =>
      have text : allClear = _ := String.toList_ofList
      have none_ : readWarning (boxed allClear) = none := by
        rw [text]
        rfl
      exact List.filterMap_cons_none none_
  | cons pair pairs =>
      have heading : readWarning (alerted collisionAlerts) = none := by rfl
      have rows := filterMap_map_eq (l := pair :: pairs)
        (f := fun p => alerted (resized (collisionWarning p).toList)) (g := readWarning) (h := id)
        fun p _ => readWarning_collisionWarning p
      rw [if_neg (by simp), List.filterMap_cons_none heading, List.map_map]
      rw [List.map_id] at rows
      exact rows

/-- Whatever is drawn can be read off the screen again: the timestamp and the count exactly,
each aircraft with its ID and its position to one decimal, and exactly the warned pairs. -/
theorem readPicture_render (planes : List MsgPlaneInfo) (count : Nat) (timestamp : UInt64)
    (pairs : List (Int32 × Int32)) (inside : ∀ p ∈ planes, p.InAirspace)
    (small : count < 2 ^ 31) :
    readPicture (screen (render planes count timestamp (pairs.map collisionWarning))) =
      ⟨some (timestamp.toNat, count), planes.map MsgPlaneInfo.shownPosition, pairs⟩ := by
  have ascii : ∀ w ∈ pairs.map collisionWarning, Ascii w.toList := by
    intro w member
    obtain ⟨pair, _, rfl⟩ := List.mem_map.mp member
    exact ascii_collisionWarning pair
  have inBox : ∀ line ∈ tableLines planes, decide (line.head? = some '║') = true := by
    intro line member
    rcases List.mem_append.mp member with row | none_
    · obtain ⟨p, _, rfl⟩ := List.mem_map.mp row
      rfl
    · split at none_
      · rw [List.mem_singleton.mp none_]
        rfl
      · cases none_
  have noWarning : ∀ left right, readWarning (ruled left right) = none := by
    intro left right
    have bar : IsWord (List.replicate kBoxInnerWidth '═') := by decide
    have seen : words (interior (ruled left right)) = [List.replicate kBoxInnerWidth '═'] := by
      rw [interior, ruled, List.tail_cons, List.dropLast_concat, words_of_free bar.1 bar.2]
    rw [readWarning, seen]
  have head : (frame planes count timestamp (pairs.map collisionWarning))[3]? =
      some (boxed (timestampRow timestamp count)) := rfl
  have rest : (frame planes count timestamp (pairs.map collisionWarning)).drop 7 =
      tableLines planes ++ (ruled '╠' '╣' ::
        (statusLines (pairs.map collisionWarning) ++ [ruled '╚' '╝'])) := rfl
  rw [(draws_render planes count timestamp ascii).screen_eq]
  rw [readPicture, rest, List.takeWhile_append_of_pos inBox, List.dropWhile_append_of_pos inBox,
    List.takeWhile_cons_of_neg (by decide), List.append_nil, positions_tableLines inside,
    List.dropWhile_cons_of_neg (by decide), List.filterMap_cons_none (noWarning _ _),
    List.filterMap_append, warned_statusLines, List.filterMap_cons_none (noWarning _ _),
    List.filterMap_nil, List.append_nil, head, Option.bind_some,
    readHead_timestampRow (timestampRow_fits timestamp small)]

/-- Two aircraft, one of them too fast for its column, and the warning about them. -/
theorem readPicture_render_fast :
    readPicture (screen (render [⟨1, 0, 50000, 15000, 600, 0, 0⟩,
        ⟨2, 250 / 3, 50000, 40000, 123456789012345678, 0, 0⟩] 2 7 ([(1, 2)].map collisionWarning))) =
      ⟨some ((7 : UInt64).toNat, 2),
        [⟨1, 0, 50000, 15000, 600, 0, 0⟩,
          ⟨2, 250 / 3, 50000, 40000, 123456789012345678, 0, 0⟩].map MsgPlaneInfo.shownPosition,
        [(1, 2)]⟩ := by
  refine readPicture_render _ 2 7 [(1, 2)] ?_ (by decide)
  intro p member
  rcases List.mem_cons.mp member with rfl | other
  · exact ⟨by norm_num, by norm_num, by norm_num⟩
  · rw [List.mem_singleton.mp other]
    exact ⟨by norm_num, by norm_num, by norm_num⟩

end QnxAtc
