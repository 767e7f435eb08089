import QnxAtc.Display.CollisionListener
import QnxAtc.Library.Insertion
import QnxAtc.Library.Terminal

/-! # The picture the Display draws

`render` of `Display.cpp` with its two helpers. A frame clears the screen and prints a
box of fixed width: a title, the timestamp, one row for each aircraft and the collision
warnings in red. The inner texts are ASCII, so a character is a byte and a cell.
-/

namespace QnxAtc

open Extraction Insertion Terminal

/-! ## The text -/

def kBoxInnerWidth : Nat := 82

def padInner (s : List Char) : List Char :=
  if s.length > kBoxInnerWidth then s.take kBoxInnerWidth
  else s ++ List.replicate (kBoxInnerWidth - s.length) ' '

def printBoxLine (inner : List Char) : List Char := '║' :: (padInner inner ++ ['║', '\n'])

/-- One of the horizontal lines of the box, between its two corners. -/
def rule (left right : Char) : List Char :=
  left :: (List.replicate kBoxInnerWidth '═' ++ [right, '\n'])

def title : List Char :=
  "                         AIR TRAFFIC CONTROL - DISPLAY                            ".toList

def timestampRow (timestamp : UInt64) (count : Nat) : List Char :=
  "  Timestamp: ".toList ++ (setwLeft 12 timestamp.toNat.repr.toList ++
    ("  Aircraft in airspace: ".toList ++ setwRight 3 count.repr.toList))

/-- The cells of a row after the first, each with its separator. -/
def columns (cells : List (List Char)) : List Char :=
  cells.flatMap fun cell => " | ".toList ++ setwRight 8 cell

def tableRow (id : List Char) (cells : List (List Char)) : List Char :=
  ' ' :: (setwLeft 4 id ++ columns cells)

def columnHeader : List Char :=
  tableRow "ID".toList ["Pos X".toList, "Pos Y".toList, "Pos Z".toList,
    "Vel X".toList, "Vel Y".toList, "Vel Z".toList]

def planeRow (p : MsgPlaneInfo) : List Char :=
  tableRow (decimal p.id).toList [fixed 1 p.positionX, fixed 1 p.positionY, fixed 1 p.positionZ,
    fixed 1 p.velocityX, fixed 1 p.velocityY, fixed 1 p.velocityZ]

def noAircraftData : List Char := "  (no aircraft data)".toList

def allClear : List Char := "  Status: ALL CLEAR - No collision warnings".toList

def collisionAlerts : List Char := "!!! COLLISION ALERTS !!!".toList

def red : List Char := "\x1b[1;31m".toList

def normal : List Char := "\x1b[0m".toList

def clearScreen : List Char := "\x1b[2J\x1b[H".toList

/-- A red line; its colour codes keep it out of `printBoxLine`. -/
def printAlertLine (text : List Char) : List Char :=
  "║  ".toList ++ (red ++ (setwLeft 80 text ++ (normal ++ ("║".toList ++ ['\n']))))

/-- A warning cut to the room there is. -/
def resized (w : List Char) : List Char := if w.length > 80 then w.take 80 else w

def statusSection (warnings : List String) : List Char :=
  if warnings.isEmpty then printBoxLine allClear
  else printAlertLine collisionAlerts ++
    warnings.flatMap fun warning => printAlertLine (resized warning.toList)

def render (planes : List MsgPlaneInfo) (count : Nat) (timestamp : UInt64)
    (collisionWarnings : List String) : List Char :=
  clearScreen ++ (rule '╔' '╗' ++ (printBoxLine title ++ (rule '╠' '╣' ++
    (printBoxLine (timestampRow timestamp count) ++ (rule '╠' '╣' ++
      (printBoxLine columnHeader ++ (rule '╠' '╣' ++
        (planes.flatMap (fun p => printBoxLine (planeRow p)) ++
          ((if planes.isEmpty then printBoxLine noAircraftData else []) ++
            (rule '╠' '╣' ++ (statusSection collisionWarnings ++ rule '╚' '╝')))))))))))

/-! ## The lines -/

/-- What one `printBoxLine` shows. -/
def boxed (inner : List Char) : List Char := '║' :: (padInner inner ++ ['║'])

def ruled (left right : Char) : List Char :=
  left :: (List.replicate kBoxInnerWidth '═' ++ [right])

/-- What one alert line shows, in red or not. -/
def alerted (text : List Char) : List Char := "║  ".toList ++ (setwLeft 80 text ++ "║".toList)

def tableLines (planes : List MsgPlaneInfo) : List (List Char) :=
  planes.map (fun p => boxed (planeRow p)) ++ if planes.isEmpty then [boxed noAircraftData] else []

def statusLines (warnings : List String) : List (List Char) :=
  if warnings.isEmpty then [boxed allClear]
  else alerted collisionAlerts :: warnings.map fun warning => alerted (resized warning.toList)

def headLines (count : Nat) (timestamp : UInt64) : List (List Char) :=
  [ruled '╔' '╗', boxed title, ruled '╠' '╣', boxed (timestampRow timestamp count),
    ruled '╠' '╣', boxed columnHeader, ruled '╠' '╣']

/-- The lines of a frame. -/
def frame (planes : List MsgPlaneInfo) (count : Nat) (timestamp : UInt64)
    (collisionWarnings : List String) : List (List Char) :=
  headLines count timestamp ++ (tableLines planes ++ (ruled '╠' '╣' ::
    (statusLines collisionWarnings ++ [ruled '╚' '╝'])))

/-! ## The texts in the box -/

theorem padInner_length (s : List Char) : (padInner s).length = kBoxInnerWidth := by
  unfold padInner
  split
  · rw [List.length_take]
    omega
  · rw [List.length_append, List.length_replicate]
    omega

theorem ascii_setwLeft {cs : List Char} (h : Ascii cs) (width : Nat) :
    Ascii (setwLeft width cs) := h.append (ascii_blanks _)

theorem ascii_setwRight {cs : List Char} (h : Ascii cs) (width : Nat) :
    Ascii (setwRight width cs) := (ascii_blanks _).append h

theorem ascii_padInner {cs : List Char} (h : Ascii cs) : Ascii (padInner cs) := by
  unfold padInner
  split
  · exact h.take _
  · exact h.append (ascii_blanks _)

theorem ascii_decimal (n : Int32) : Ascii (decimal n).toList := by
  intro c member
  rcases mem_decimal member with sign | digit
  · exact (show Ascii "-".toList by decide) c sign
  · exact ascii_of_digit digit

theorem ascii_natural (n : Nat) : Ascii n.repr.toList := by
  intro c member
  rw [Nat.toList_repr] at member
  exact ascii_of_digit (digit_of_mem_toDigits member)

theorem ascii_fixed (places : Nat) (x : ℚ) : Ascii (fixed places x) := by
  intro c member
  rcases mem_fixed member with rfl | rfl | digit
  · decide
  · decide
  · exact ascii_of_digit digit

theorem ascii_columns {cells : List (List Char)} (h : ∀ cell ∈ cells, Ascii cell) :
    Ascii (columns cells) := by
  intro c member
  obtain ⟨cell, here, inside⟩ := List.mem_flatMap.mp member
  have separator : Ascii " | ".toList := by decide
  exact separator.append (ascii_setwRight (h cell here) 8) c inside

theorem ascii_tableRow {id : List Char} {cells : List (List Char)} (h : Ascii id)
    (h' : ∀ cell ∈ cells, Ascii cell) : Ascii (tableRow id cells) :=
  (show Ascii [' '] by decide).append ((ascii_setwLeft h 4).append (ascii_columns h'))

theorem ascii_planeRow (p : MsgPlaneInfo) : Ascii (planeRow p) := by
  refine ascii_tableRow (ascii_decimal p.id) ?_
  intro cell member
  simp only [List.mem_cons, List.not_mem_nil, or_false] at member
  rcases member with rfl | rfl | rfl | rfl | rfl | rfl <;> exact ascii_fixed 1 _

theorem ascii_timestampRow (timestamp : UInt64) (count : Nat) :
    Ascii (timestampRow timestamp count) :=
  (show Ascii "  Timestamp: ".toList by decide).append
    ((ascii_setwLeft (ascii_natural _) 12).append
      ((show Ascii "  Aircraft in airspace: ".toList by decide).append
        (ascii_setwRight (ascii_natural _) 3)))

theorem ascii_collisionWarning (p : Int32 × Int32) : Ascii (collisionWarning p).toList := by
  rw [collisionWarning_toList]
  exact (show Ascii "*** COLLISION WARNING: Plane ".toList by decide).append
    ((ascii_decimal p.1).append ((show Ascii " <-> Plane ".toList by decide).append
      ((ascii_decimal p.2).append (show Ascii " ***".toList by decide))))

/-! ## Drawing -/

theorem draws_printBoxLine {inner : List Char} (h : Ascii inner) :
    Draws (printBoxLine inner) [boxed inner] := by
  have text : printBoxLine inner = boxed inner ++ ['\n'] := by
    simp [printBoxLine, boxed]
  have plain : Printable (boxed inner) :=
    (show Printable ['║'] by decide).append
      ((ascii_padInner h).printable.append (show Printable ['║'] by decide))
  rw [text]
  exact .line plain

theorem draws_rule {left right : Char} (hl : Printable [left]) (hr : Printable [right]) :
    Draws (rule left right) [ruled left right] := by
  have text : rule left right = ruled left right ++ ['\n'] := by
    simp [rule, ruled]
  have bar : Printable (List.replicate kBoxInnerWidth '═') := by decide
  rw [text]
  exact .line (hl.append (bar.append hr))

theorem control_red : Control red := fun _ => rfl

theorem control_normal : Control normal := fun _ => rfl

theorem control_clearScreen : Control clearScreen := fun _ => rfl

theorem draws_printAlertLine {text : List Char} (h : Ascii text) :
    Draws (printAlertLine text) [alerted text] :=
  .coloured (by decide) (ascii_setwLeft h 80).printable (by decide) control_red control_normal

theorem ascii_resized {w : List Char} (h : Ascii w) : Ascii (resized w) := by
  unfold resized
  split
  · exact h.take 80
  · exact h

theorem draws_statusSection {warnings : List String} (h : ∀ w ∈ warnings, Ascii w.toList) :
    Draws (statusSection warnings) (statusLines warnings) := by
  unfold statusSection statusLines
  split
  · exact draws_printBoxLine (by decide)
  · exact (draws_printAlertLine (by decide)).append
      (.flatMap fun w member => draws_printAlertLine (ascii_resized (h w member)))

theorem draws_render (planes : List MsgPlaneInfo) (count : Nat) (timestamp : UInt64)
    {warnings : List String} (h : ∀ w ∈ warnings, Ascii w.toList) :
    Draws (render planes count timestamp warnings) (frame planes count timestamp warnings) := by
  have separator : Draws (rule '╠' '╣') [ruled '╠' '╣'] := draws_rule (by decide) (by decide)
  have rows : Draws (planes.flatMap fun p => printBoxLine (planeRow p))
      (planes.map fun p => boxed (planeRow p)) :=
    .flatMap fun p _ => draws_printBoxLine (ascii_planeRow p)
  have noRows : Draws (if planes.isEmpty then printBoxLine noAircraftData else [])
      (if planes.isEmpty then [boxed noAircraftData] else []) := by
    split
    · exact draws_printBoxLine (by decide)
    · exact .nil
  have heading : Draws (printBoxLine title) [boxed title] :=
    draws_printBoxLine (ascii_ofList (by decide))
  have times := draws_printBoxLine (ascii_timestampRow timestamp count)
  have header : Draws (printBoxLine columnHeader) [boxed columnHeader] :=
    draws_printBoxLine (by decide)
  have top : Draws (rule '╔' '╗') [ruled '╔' '╗'] := draws_rule (by decide) (by decide)
  have bottom : Draws (rule '╚' '╝') [ruled '╚' '╝'] := draws_rule (by decide) (by decide)
  have all := (Draws.control control_clearScreen).append (top.append (heading.append
    (separator.append (times.append (separator.append (header.append (separator.append
      (rows.append (noRows.append (separator.append
        ((draws_statusSection h).append bottom)))))))))))
  simpa only [render, frame, headLines, tableLines, List.nil_append, List.cons_append,
    List.append_assoc, List.singleton_append] using all

/-! ## The box -/

theorem boxed_length (inner : List Char) : (boxed inner).length = kBoxInnerWidth + 2 := by
  simp [boxed, padInner_length]

theorem ruled_length (left right : Char) : (ruled left right).length = kBoxInnerWidth + 2 := by
  simp [ruled]

theorem resized_length (w : List Char) : (resized w).length ≤ 80 := by
  unfold resized
  split
  · exact List.length_take_le 80 w
  · omega

theorem alerted_length {text : List Char} (fits : text.length ≤ 80) :
    (alerted text).length = kBoxInnerWidth + 2 := by
  rw [alerted, List.length_append, List.length_append, setwLeft_length, max_eq_left fits]
  rfl

theorem statusLines_length (warnings : List String) : ∀ line ∈ statusLines warnings,
    line.length = kBoxInnerWidth + 2 := by
  intro line member
  unfold statusLines at member
  split at member
  · rw [List.mem_singleton.mp member, boxed_length]
  · rcases List.mem_cons.mp member with heading | warning
    · rw [heading, alerted_length (by decide)]
    · obtain ⟨w, _, rfl⟩ := List.mem_map.mp warning
      exact alerted_length (resized_length _)

theorem frame_line_length (planes : List MsgPlaneInfo) (count : Nat) (timestamp : UInt64)
    (warnings : List String) : ∀ line ∈ frame planes count timestamp warnings,
      line.length = kBoxInnerWidth + 2 := by
  intro line member
  simp only [frame, headLines, tableLines, List.mem_append, List.mem_cons, List.not_mem_nil,
    or_false, List.mem_map] at member
  rcases member with (rfl | rfl | rfl | rfl | rfl | rfl | rfl) | (⟨p, _, rfl⟩ | none_) | rfl |
    status | rfl
  case inr.inl.inr =>
      split at none_
      · rw [List.mem_singleton.mp none_, boxed_length]
      · cases none_
  case inr.inr.inr.inl => exact statusLines_length warnings line status
  all_goals first | exact boxed_length _ | exact ruled_length _ _

/-- Whatever the data, a frame draws a box: all of its lines are 84 cells wide, there is one for
each aircraft and one for each warning, and every text inside the box is ASCII. -/
theorem render_draws_box (planes : List MsgPlaneInfo) (count : Nat) (timestamp : UInt64)
    (pairs : List (Int32 × Int32)) :
    (∀ line ∈ screen (render planes count timestamp (pairs.map collisionWarning)),
        line.length = kBoxInnerWidth + 2) ∧
    (screen (render planes count timestamp (pairs.map collisionWarning))).length =
        max 1 planes.length + pairs.length + 10 ∧
    Ascii (timestampRow timestamp count) ∧ (∀ p ∈ planes, Ascii (planeRow p)) ∧
    ∀ pair ∈ pairs, Ascii (collisionWarning pair).toList := by
  have ascii : ∀ w ∈ pairs.map collisionWarning, Ascii w.toList := by
    intro w member
    obtain ⟨pair, _, rfl⟩ := List.mem_map.mp member
    exact ascii_collisionWarning pair
  rw [(draws_render planes count timestamp ascii).screen_eq]
  refine ⟨frame_line_length planes count timestamp _, ?_, ascii_timestampRow timestamp count,
    fun p _ => ascii_planeRow p, fun pair _ => ascii_collisionWarning pair⟩
  have table : (tableLines planes).length = max 1 planes.length := by
    cases planes with
    | nil => rfl
    | cons p planes => simp [tableLines]
  have status : (statusLines (pairs.map collisionWarning)).length = pairs.length + 1 := by
    cases pairs with
    | nil => rfl
    | cons pair pairs => simp [statusLines]
  simp only [frame, headLines, List.length_append, List.length_cons, List.length_nil, table, status]
  omega

end QnxAtc
