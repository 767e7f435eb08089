import QnxAtc.Library.Numerals
import QnxAtc.Operator.Delivery
import Mathlib.Data.List.Nodup

/-! # The console's lines

`HandleConsoleInputs` reads the number of a command off the line and then the operands of
that command, each with one formatted extraction. Only the failure of an extraction is
looked at: where the operands end on the line, and what comes after them, is not.
-/

namespace QnxAtc

open Extraction

/-! ## The documented forms -/

/-- A command that is sent: its number, its operands, and the text for a line that fails. -/
structure ConsoleForm where
  number : Int32
  digit : Char  -- how the number is documented
  Operands : Type
  operands : Fields Operands
  command : Operands → ConsoleCommand
  usage : String

namespace ConsoleForm

def changeHeading : ConsoleForm where
  number := 1
  digit := '1'
  Operands := Int32 × ℚ × ℚ × ℚ × Unit
  operands := .cons int (.cons double (.cons double (.cons double .nil)))
  command := fun (planeID, vx, vy, vz, _) => .changeHeading planeID vx vy vz
  usage := "Bad format. Use: 1 <planeID> <Vx> <Vy> <Vz>\n"

def changePosition : ConsoleForm where
  number := 2
  digit := '2'
  Operands := Int32 × ℚ × ℚ × ℚ × Unit
  operands := .cons int (.cons double (.cons double (.cons double .nil)))
  command := fun (planeID, x, y, z, _) => .changePosition planeID x y z
  usage := "Bad format. Use: 2 <planeID> <x> <y> <z>\n"

def changeAltitude : ConsoleForm where
  number := 3
  digit := '3'
  Operands := Int32 × ℚ × Unit
  operands := .cons int (.cons double .nil)
  command := fun (planeID, altitude, _) => .changeAltitude planeID altitude
  usage := "Bad format. Use: 3 <planeID> <altitude>\n"

def requestAugmentedInfo : ConsoleForm where
  number := 4
  digit := '4'
  Operands := Int32 × Unit
  operands := .cons int .nil
  command := fun (planeID, _) => .requestAugmentedInfo planeID
  usage := "Bad format. Use: 4 <planeID>\n"

def changeTimeConstraint : ConsoleForm where
  number := 5
  digit := '5'
  Operands := Int32 × Unit
  operands := .cons int .nil
  command := fun (seconds, _) => .changeTimeConstraint seconds
  usage := "Bad format. Use: 5 <seconds>\n"

def forms : List ConsoleForm :=
  [changeHeading, changePosition, changeAltitude, requestAugmentedInfo, changeTimeConstraint]

/-- Everything on a line of this form. -/
def fields (form : ConsoleForm) : Fields (Int32 × form.Operands) := .cons int form.operands

/-- Looking a form up by something that differs between the forms. -/
theorem find_iff {κ : Type} [DecidableEq κ] {key : ConsoleForm → κ}
    (distinct : (forms.map key).Nodup) {k : κ} {form : ConsoleForm} :
    forms.find? (fun other => key other = k) = some form ↔ form ∈ forms ∧ key form = k := by
  constructor
  · intro found
    exact ⟨List.mem_of_find?_eq_some found, by simpa using List.find?_some found⟩
  · rintro ⟨known, rfl⟩
    cases found : forms.find? fun other => key other = key form with
    | none => simpa using List.find?_eq_none.mp found form known
    | some other =>
        have same : key other = key form := by simpa using List.find?_some found
        rw [List.inj_on_of_nodup_map distinct (List.mem_of_find?_eq_some found) known same]

theorem numbers_distinct : (forms.map number).Nodup := by decide

theorem digits_distinct : (forms.map fun form => [form.digit]).Nodup := by decide

theorem number_injective {form form' : ConsoleForm} (h : form ∈ forms) (h' : form' ∈ forms)
    (same : form.number = form'.number) : form = form' :=
  List.inj_on_of_nodup_map numbers_distinct h h' same

theorem mem_forms {form : ConsoleForm} (h : form ∈ forms) :
    form = changeHeading ∨ form = changePosition ∨ form = changeAltitude ∨
      form = requestAugmentedInfo ∨ form = changeTimeConstraint := by
  simpa [forms] using h

theorem number_ne_zero {form : ConsoleForm} (h : form ∈ forms) : form.number ≠ 0 := by
  obtain rfl | rfl | rfl | rfl | rfl := mem_forms h <;> decide

theorem read_digit {form : ConsoleForm} (h : form ∈ forms) :
    int.read [form.digit] = some form.number := by
  obtain rfl | rfl | rfl | rfl | rfl := mem_forms h <;> decide

/-- No form asks for the end of the console: each of its commands is a message. -/
theorem command_request {form : ConsoleForm} (h : form ∈ forms) (operands : form.Operands) :
    ∃ sent, (form.command operands).request = some sent := by
  obtain rfl | rfl | rfl | rfl | rfl := mem_forms h <;> exact ⟨_, rfl⟩

end ConsoleForm

/-! ## One line -/

/-- How the console is done with a line, with the text it prints for it. -/
inductive LineResult where
  | skipped
  | rejected (text : String)
  | exits (text : String)
  | sends (cmd : ConsoleCommand)

/-- The branch of one command. -/
def ConsoleForm.parse (form : ConsoleForm) (iss : List Char) : LineResult :=
  match form.operands.extractAll iss with
  | some (operands, _) => .sends (form.command operands)
  | none => .rejected form.usage

/-- The body of the loop of `HandleConsoleInputs`, up to the sending. -/
def handleLine (line : List Char) : LineResult :=
  if line.isEmpty then .skipped
  else
    match int.extract line with
    | none => .rejected "Invalid input. Enter a number (0-5).\n"
    | some (cmd, iss) =>
        if cmd = 0 then .exits "Exiting operator console.\n"
        else
          match ConsoleForm.forms.find? fun form => form.number = cmd with
          | some form => form.parse iss
          | none => .rejected ("Unknown command '" ++ decimal cmd ++ "'. Use 0-5.\n")

def commandOf (line : List Char) : Option ConsoleCommand :=
  match handleLine line with
  | .sends cmd => some cmd
  | _ => none

/-- The message that is sent for a line, and to whom. -/
def sentFor (line : List Char) : Option (Server × MessageInterProcess) :=
  (commandOf line).bind ConsoleCommand.request

/-- The command that the words of a line spell in one of the documented forms. -/
def documented (line : List Char) : Option ConsoleCommand :=
  match words line with
  | [] => none
  | w :: ws =>
      (ConsoleForm.forms.find? fun form => [form.digit] = w).bind fun form =>
        (form.operands.readAll ws).map form.command

theorem ConsoleForm.parse_eq_sends {form : ConsoleForm} {iss : List Char} {cmd : ConsoleCommand} :
    form.parse iss = .sends cmd ↔
      ∃ operands rest, form.operands.extractAll iss = some (operands, rest) ∧
        form.command operands = cmd := by
  unfold parse
  split
  · rename_i operands rest extracted
    rw [LineResult.sends.injEq]
    constructor
    · intro spells
      exact ⟨operands, rest, extracted, spells⟩
    · rintro ⟨operands', rest', extracted', spells⟩
      rw [extracted] at extracted'
      cases extracted'
      exact spells
  · rename_i failed
    simp [failed]

theorem handleLine_eq_sends {line : List Char} {cmd : ConsoleCommand} :
    handleLine line = .sends cmd ↔
      ∃ form ∈ ConsoleForm.forms, ∃ iss, int.extract line = some (form.number, iss) ∧
        form.parse iss = .sends cmd := by
  unfold handleLine
  by_cases empty : line.isEmpty = true
  · have none_fits : int.extract line = none := by
      rw [List.isEmpty_iff.mp empty]
      rfl
    simp [empty, none_fits]
  · rw [if_neg empty]
    cases extracted : int.extract line with
    | none => simp
    | some found =>
        obtain ⟨n, iss⟩ := found
        simp only [Option.some.injEq, Prod.mk.injEq]
        constructor
        · intro h
          split at h
          · cases h
          · split at h
            · rename_i form looked_up
              obtain ⟨known, number⟩ :=
                (ConsoleForm.find_iff ConsoleForm.numbers_distinct).mp looked_up
              exact ⟨form, known, iss, ⟨number.symm, rfl⟩, h⟩
            · cases h
        · rintro ⟨form, known, _, ⟨rfl, rfl⟩, parsed⟩
          have looked_up := (ConsoleForm.find_iff ConsoleForm.numbers_distinct).mpr ⟨known, rfl⟩
          rw [if_neg (ConsoleForm.number_ne_zero known), looked_up]
          exact parsed

theorem commandOf_eq_some {line : List Char} {cmd : ConsoleCommand} :
    commandOf line = some cmd ↔
      ∃ form ∈ ConsoleForm.forms, ∃ operands rest,
        form.fields.extractAll line = some ((form.number, operands), rest) ∧
          form.command operands = cmd := by
  have branch : commandOf line = some cmd ↔ handleLine line = .sends cmd := by
    unfold commandOf
    split <;> simp_all
  rw [branch, handleLine_eq_sends]
  constructor
  · rintro ⟨form, known, iss, number, parsed⟩
    obtain ⟨operands, rest, extracted, spells⟩ := ConsoleForm.parse_eq_sends.mp parsed
    exact ⟨form, known, operands, rest, Fields.extractAll_cons.mpr ⟨iss, number, extracted⟩, spells⟩
  · rintro ⟨form, known, operands, rest, extracted, spells⟩
    obtain ⟨iss, number, extracted⟩ := Fields.extractAll_cons.mp extracted
    exact ⟨form, known, iss, number,
      ConsoleForm.parse_eq_sends.mpr ⟨operands, rest, extracted, spells⟩⟩

theorem documented_eq_some {line : List Char} {cmd : ConsoleCommand} :
    documented line = some cmd ↔
      ∃ form ∈ ConsoleForm.forms, ∃ operands, (words line).head? = some [form.digit] ∧
        form.fields.readAll (words line) = some (form.number, operands) ∧
          form.command operands = cmd := by
  unfold documented
  split
  · rename_i none_left
    simp [none_left]
  · rename_i w ws cut
    simp only [Option.bind_eq_some_iff, Option.map_eq_some_iff, cut, List.head?_cons,
      Option.some.injEq, ConsoleForm.find_iff ConsoleForm.digits_distinct]
    constructor
    · rintro ⟨form, ⟨known, rfl⟩, operands, read, spells⟩
      have number := ConsoleForm.read_digit known
      exact ⟨form, known, operands, rfl,
        Fields.readAll_cons.mpr ⟨_, ws, rfl, number, read⟩, spells⟩
    · rintro ⟨form, known, operands, rfl, read, spells⟩
      obtain ⟨_, _, same, _, read⟩ := Fields.readAll_cons.mp read
      cases same
      exact ⟨form, ⟨known, rfl⟩, operands, read, spells⟩

/-- The line begins with the number and the operands of this form, however they are spaced. -/
def ConsoleForm.Begins (form : ConsoleForm) (line : List Char) : Prop :=
  ∃ operands rest, form.fields.extractAll line = some ((form.number, operands), rest)

/-- Where a line begins with a command, the number of the command is written as the digit,
every number ends at white space or at the end of the line, and only white space follows
the last. -/
def PlainlySpaced (line : List Char) : Prop :=
  ∀ form ∈ ConsoleForm.forms, form.Begins line →
    (words line).head? = some [form.digit] ∧ form.fields.wholeWords line = true

/-- No documented line is refused. -/
theorem commandOf_of_documented {line : List Char} {cmd : ConsoleCommand}
    (h : documented line = some cmd) : commandOf line = some cmd := by
  obtain ⟨form, known, operands, _, read, spells⟩ := documented_eq_some.mp h
  obtain ⟨⟨rest, extracted⟩, _⟩ := Fields.readAll_words.mp read
  exact commandOf_eq_some.mpr ⟨form, known, operands, rest, extracted, spells⟩

theorem commandOf_of_plainlySpaced {line : List Char} (spaced : PlainlySpaced line) :
    commandOf line = documented line := by
  cases taken : commandOf line with
  | none =>
      cases spelled : documented line with
      | none => rfl
      | some cmd =>
          rw [commandOf_of_documented spelled] at taken
          cases taken
  | some cmd =>
      obtain ⟨form, known, operands, rest, extracted, rfl⟩ := commandOf_eq_some.mp taken
      obtain ⟨first, whole⟩ := spaced form known ⟨operands, rest, extracted⟩
      have read := Fields.readAll_words.mpr ⟨⟨rest, extracted⟩, whole⟩
      exact (documented_eq_some.mpr ⟨form, known, operands, first, read, rfl⟩).symm

/-- The console sends for a line what its words say, and nothing for a line that says
nothing, if and only if the line is plainly spaced. -/
theorem sends_documented_iff (line : List Char) :
    sentFor line = (documented line).bind ConsoleCommand.request ↔ PlainlySpaced line := by
  constructor
  · rintro same form known ⟨operands, rest, extracted⟩
    have taken : commandOf line = some (form.command operands) :=
      commandOf_eq_some.mpr ⟨form, known, operands, rest, extracted, rfl⟩
    obtain ⟨sent, request⟩ := ConsoleForm.command_request known operands
    have spelled : (documented line).bind ConsoleCommand.request = some sent := by
      rw [← same, sentFor, taken]
      exact request
    obtain ⟨cmd, spelled, _⟩ := Option.bind_eq_some_iff.mp spelled
    obtain ⟨form', known', operands', first, read, _⟩ := documented_eq_some.mp spelled
    obtain ⟨⟨rest', extracted'⟩, whole⟩ := Fields.readAll_words.mp read
    obtain ⟨_, number, _⟩ := Fields.extractAll_cons.mp extracted
    obtain ⟨_, number', _⟩ := Fields.extractAll_cons.mp extracted'
    have sameNumber : form'.number = form.number :=
      congrArg Prod.fst (Option.some.inj (number'.symm.trans number))
    obtain rfl := ConsoleForm.number_injective known' known sameNumber
    exact ⟨first, whole⟩
  · intro spaced
    rw [sentFor, commandOf_of_plainlySpaced spaced]

/-- On the line "1 2.5 3 4 5" the fraction of the plane's ID becomes the first velocity. -/
theorem fraction_becomes_operand :
    ¬ ∀ line, sentFor line = (documented line).bind ConsoleCommand.request := by
  intro claim
  have same := congrArg Option.isSome (claim "1 2.5 3 4 5".toList)
  have sent : (sentFor "1 2.5 3 4 5".toList).isSome = true := by decide +kernel
  have undocumented : ((documented "1 2.5 3 4 5".toList).bind ConsoleCommand.request).isSome =
      false := by decide +kernel
  rw [sent, undocumented] at same
  cases same

/-! ## All lines -/

/-- What the console makes of its input, up to the line that ends it. -/
def typedCommands : List (List Char) → List ConsoleCommand
  | [] => []
  | line :: text =>
      match handleLine line with
      | .sends cmd => cmd :: typedCommands text
      | .exits _ => [.exit]
      | .skipped | .rejected _ => typedCommands text

theorem mem_typedCommands {text : List (List Char)} {cmd : ConsoleCommand}
    (h : cmd ∈ typedCommands text) : cmd = .exit ∨ ∃ line ∈ text, commandOf line = some cmd := by
  induction text with
  | nil => cases h
  | cons line text ih =>
      have later (h : cmd ∈ typedCommands text) :
          cmd = .exit ∨ ∃ other ∈ line :: text, commandOf other = some cmd := by
        obtain exit | ⟨other, member, sent⟩ := ih h
        · exact .inl exit
        · exact .inr ⟨other, List.mem_cons_of_mem line member, sent⟩
      rw [typedCommands] at h
      split at h
      · rename_i first result
        obtain rfl | member := List.mem_cons.mp h
        · exact .inr ⟨line, List.mem_cons_self, by rw [commandOf, result]⟩
        · exact later member
      · exact .inl (List.mem_singleton.mp h)
      · exact later h
      · exact later h

/-- Whatever the interleaving, what the operator's side works on is documented by a line,
where all lines are plainly spaced. -/
theorem typed_documented {planeData : List PlaneData} {text : List (List Char)}
    {labels : List OperatorSystem.Label} {s : OperatorSystem}
    (h : Machine.run OperatorSystem.step (.start planeData (typedCommands text)) labels = some s)
    (spaced : ∀ line ∈ text, PlainlySpaced line) {cmd : ConsoleCommand}
    (typed : cmd ∈ s.console.typed) :
    cmd = .exit ∨ ∃ line ∈ text, documented line = some cmd := by
  have inv := Machine.run_invariant OperatorSystem.deliveryInvariant_step
    (OperatorSystem.deliveryInvariant_start planeData (typedCommands text)) h
  have read : cmd ∈ typedCommands text := by
    rw [← inv.typed]
    exact List.mem_append_left _ typed
  obtain exit | ⟨line, member, sent⟩ := mem_typedCommands read
  · exact .inl exit
  · rw [commandOf_of_plainlySpaced (spaced line member)] at sent
    exact .inr ⟨line, member, sent⟩

end QnxAtc
