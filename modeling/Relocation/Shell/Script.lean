import Relocation.Shell.Search

/-!
# Scripts

A script is a text that is given as a whole, or a file that is read piece by piece. It is
parsed line by line, and what was parsed is run before the next line is parsed.
-/

namespace Relocation.Shell

open Machine (Program)

/-- A script as far as it was read. -/
structure Script where
  reader : Reader
  /-- Where it is read from, unless it was given as a whole. -/
  descriptor? : Option Nat := none

namespace Script

/-- A script that is given as a text. -/
def ofText (text : Bytes) : Script := { reader := { input := text } }

/-- A script that is read from a descriptor. -/
def ofDescriptor (descriptor : Nat) : Script :=
  { reader := { input := [], isComplete := false }, descriptor? := some descriptor }

/-- How many bytes of a script are read at once. -/
def pieceSize : Nat := 8192

/-- The script with one more piece of it read. It ends where nothing can be read. -/
def extend (script : Script) : Run Script := do
  let reader := script.reader
  match script.descriptor? with
  | none => return { script with reader := { reader with isComplete := true } }
  | some descriptor =>
    match ← (Program.read descriptor pieceSize : Program _) with
    | .ok (byte :: piece) =>
      return { script with reader := { reader with
        input := reader.input ++ (byte :: piece).filter (· ≠ 0) } }
    | _ => return { script with reader := { reader with isComplete := true } }

/-- Show the lines that were parsed, if that is asked for. -/
def echo (before after : Script) : Run Unit := do
  if before.descriptor?.isSome && (← isOn 'v') then
    let count := before.reader.input.length - after.reader.input.length
    let _ ← (Program.write 2 (before.reader.input.take count) : Program _)

/-- Parse the next line, reading on as often as it is not complete. -/
def next : Nat → Script → Run (Option Command × Script)
  | 0, script => return (none, script)
  | fuel + 1, script => do
    let shell ← get
    let reader := { script.reader with
      aliases := shell.aliases, nextDocument := shell.nextDocument, documents := [] }
    match reader.next with
    | .ok (command?, reader) =>
      echo script { script with reader }
      modify fun shell => { shell with
        documents := reader.documents ++ shell.documents
        nextDocument := reader.nextDocument
        parsedLine := reader.line }
      return (command?, { script with reader := { reader with documents := [] } })
    | .error .starved => next fuel (← script.extend)
    | .error (.wrong line message) =>
      modify ({ · with line := line, parsedLine := line })
      faultOf ("Syntax error: " ++ message)

/-- Whether a line holds a command. -/
def isCommand : Command → Bool
  | .nothing => false
  | _ => true

/-- Do something while another script is parsed. -/
def nested {α : Type} (action : Run α) : Run α := do
  let line := (← get).parsedLine
  let result ← Run.observe action
  modify ({ · with parsedLine := line })
  Run.resume result

/-- Run the lines of a text. It gives the status of the last command. -/
def runLines (evaluator : Evaluator) (mode : Mode) : Nat → Script → Nat → Run Nat
  | 0, _, status => return status
  | fuel + 1, script, status => do
    match ← script.next Program.unbounded with
    | (none, _) => return status
    | (some command, script) =>
      let result ← evaluator.command command { isTested := mode.isTested }
      let status := if isCommand command then result else status
      if (← get).skip ≠ .nothing then return status
      runLines evaluator mode fuel script status

/-- Run a text. -/
def runText (evaluator : Evaluator) (text : Bytes) (mode : Mode) : Run Nat :=
  nested (runLines evaluator mode Program.unbounded (ofText text) 0)

/-- Run the lines of a file. It gives the status of the last command. A file can be left like a
function. -/
def runAll (evaluator : Evaluator) : Nat → Script → Nat → Run Nat
  | 0, _, status => return status
  | fuel + 1, script, status => do
    match ← script.next Program.unbounded with
    | (none, _) => return status
    | (some command, script) =>
      let result ← evaluator.command command {}
      let status := if isCommand command then result else status
      match (← get).skip with
      | .nothing => runAll evaluator fuel script status
      | .toReturn =>
        modify ({ · with skip := .nothing })
        return status
      | .toEnd =>
        modify ({ · with skip := .nothing })
        return status
      | _ => return status

/-- Run what is read from a descriptor. -/
def runDescriptor (evaluator : Evaluator) (descriptor : Nat) : Run Nat :=
  nested (runAll evaluator Program.unbounded (ofDescriptor descriptor) 0)

end Script

end Relocation.Shell
