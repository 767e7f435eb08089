import QnxAtc.Library.Numerals
import QnxAtc.AirTrafficControl.System

/-! # The planes file

`readPlanesFromFile` takes eight formatted extractions from every line and looks at the
failure flag once, after the last. A line that goes on behind the eighth integer does not
set the flag.
-/

namespace QnxAtc

open Extraction

namespace PlaneData

/-- The fields of a line: arrival time, ID, position and velocity. -/
abbrev Columns : Type :=
  Int32 × Int32 × Int32 × Int32 × Int32 × Int32 × Int32 × Int32 × Unit

def columns : Fields Columns :=
  .cons int (.cons int (.cons int (.cons int (.cons int (.cons int (.cons int (.cons int
    .nil)))))))

def ofColumns : Columns → PlaneData
  | (arrivaTime, id, posX, posY, posZ, speedX, speedY, speedZ, _) =>
      ⟨arrivaTime, id, posX, posY, posZ, speedX, speedY, speedZ⟩

/-- The record that is extracted from a line. -/
def extract (line : List Char) : Option PlaneData :=
  (columns.extractAll line).map fun (data, _) => ofColumns data

/-- The record of a line that consists of eight integers. -/
def ofLine (line : List Char) : Option PlaneData := (columns.readAll (words line)).map ofColumns

/-- If eight integers can be extracted from the line, each ends at white space or at the
end of the line, and only white space follows the last. -/
def PlainlySpaced (line : List Char) : Prop :=
  (columns.extractAll line).isSome = true → columns.wholeWords line = true

theorem extract_of_ofLine {line : List Char} {data : PlaneData} (h : ofLine line = some data) :
    extract line = some data := by
  obtain ⟨values, read, rfl⟩ := Option.map_eq_some_iff.mp h
  obtain ⟨⟨rest, extracted⟩, _⟩ := Fields.readAll_words.mp read
  simp [extract, extracted]

theorem extract_eq_ofLine_iff (line : List Char) :
    extract line = ofLine line ↔ PlainlySpaced line := by
  constructor
  · intro same extracted
    obtain ⟨⟨values, rest⟩, extracted⟩ := Option.isSome_iff_exists.mp extracted
    have read : ofLine line = some (ofColumns values) := by
      rw [← same, extract, extracted]
      rfl
    obtain ⟨_, read, _⟩ := Option.map_eq_some_iff.mp read
    exact (Fields.readAll_words.mp read).2
  · intro spaced
    cases h : extract line with
    | none =>
        cases unread : ofLine line with
        | none => rfl
        | some data =>
            rw [extract_of_ofLine unread] at h
            cases h
    | some data =>
        obtain ⟨⟨values, rest⟩, extracted, rfl⟩ := Option.map_eq_some_iff.mp h
        have whole : columns.wholeWords line = true := spaced (by rw [extracted]; rfl)
        have read := Fields.readAll_words.mpr ⟨⟨rest, extracted⟩, whole⟩
        rw [ofLine, read]
        rfl

theorem filterMap_extract_eq_iff (text : List (List Char)) :
    text.filterMap extract = text.filterMap ofLine ↔ ∀ line ∈ text, PlainlySpaced line := by
  rw [filterMap_eq_iff (fun line data => extract_of_ofLine) text]
  exact forall₂_congr fun line _ => extract_eq_ofLine_iff line

end PlaneData

/-! ## The loop over the lines -/

/-- What `readPlanesFromFile` has stored, and what it has written to `std::cerr`. -/
structure PlaneReader where
  planeData : List PlaneData
  cerr : List String

namespace PlaneReader

def readLine (r : PlaneReader) (line : List Char) : PlaneReader :=
  match PlaneData.extract line with
  | some data => { r with planeData := r.planeData ++ [data] }
  | none => { r with cerr := r.cerr ++ ["Error parsing line: " ++ String.ofList line] }

/-- `file` is the content of the file, if it can be opened. -/
def readPlanesFromFile (r : PlaneReader) (fileName : String) (file : Option (List Char)) :
    PlaneReader :=
  match file with
  | none => { r with cerr := r.cerr ++ ["Error opening file: " ++ fileName] }
  | some text => (lines text).foldl readLine r

theorem planeData_foldl (r : PlaneReader) (text : List (List Char)) :
    (text.foldl readLine r).planeData = r.planeData ++ text.filterMap PlaneData.extract := by
  induction text generalizing r with
  | nil => simp
  | cons line text ih =>
      rw [List.foldl_cons, ih, readLine]
      cases h : PlaneData.extract line <;> simp [h]

end PlaneReader

/-- `planeData` after the constructor and the call for a file that can be opened. -/
def planesOf (fileName : String) (text : List Char) : List PlaneData :=
  (PlaneReader.readPlanesFromFile ⟨[], []⟩ fileName (some text)).planeData

theorem planesOf_eq (fileName : String) (text : List Char) :
    planesOf fileName text = (lines text).filterMap PlaneData.extract :=
  PlaneReader.planeData_foldl ⟨[], []⟩ (lines text)

/-- The records are those of the lines of eight integers if and only if every line from
which eight integers can be extracted is plainly spaced. -/
theorem planes_read_exactly_iff (fileName : String) (text : List Char) :
    planesOf fileName text = (lines text).filterMap PlaneData.ofLine ↔
      ∀ line ∈ lines text, PlaneData.PlainlySpaced line := by
  rw [planesOf_eq]
  exact PlaneData.filterMap_extract_eq_iff (lines text)

/-- The fraction of the last field is dropped from the record of the second line. -/
theorem fraction_dropped :
    ¬ ∀ (fileName : String) (text : List Char),
        planesOf fileName text = (lines text).filterMap PlaneData.ofLine := by
  intro claim
  have same := claim "planes.txt"
    "0 1 95750 59850 29950 250 150 50 \n5 2 75000 45000 35000 500 100 -75.9".toList
  revert same
  decide +kernel

/-- Whatever the interleaving, each thread flies from a line of eight integers, where all
lines are plainly spaced. -/
theorem threads_from_lines {fileName : String} {text : List Char}
    {labels : List AirTrafficControl.Label} {s : AirTrafficControl}
    (h : Machine.run AirTrafficControl.step (.start (planesOf fileName text)) labels = some s)
    (spaced : ∀ line ∈ lines text, PlaneData.PlainlySpaced line) {t : AircraftThread}
    (thread : t ∈ s.threads) :
    ∃ line ∈ lines text, ∃ data inputs, PlaneData.ofLine line = some data ∧
      Machine.run AircraftThread.step (.start (.ofPlaneData data)) inputs = some t := by
  obtain ⟨i, place⟩ := List.mem_iff_getElem?.mp thread
  obtain ⟨data, inputs, here, ran⟩ := AirTrafficControl.threads_run h i t place
  have recorded : data ∈ (lines text).filterMap PlaneData.extract := by
    rw [← planesOf_eq fileName text]
    exact List.mem_of_getElem? here
  obtain ⟨line, member, extracted⟩ := List.mem_filterMap.mp recorded
  rw [(PlaneData.extract_eq_ofLine_iff line).mpr (spaced line member)] at extracted
  exact ⟨line, member, data, inputs, extracted, ran⟩

end QnxAtc
