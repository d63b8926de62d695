import Relocation.Shell.Evaluation
import Relocation.Shell.Start
import Relocation.Utility

/-!
# Becoming programs

A process becomes the program of a file. The file is that of a program itself, or a script:
a text whose first line may tell what reads it, and which the shell reads otherwise.
Commands are run by evaluators that form a tower, each of which relies on the one
below it, so that every command ends however deeply it is nested.
-/

namespace Relocation.Machine.Execution

open Shell (Evaluator)

/-! ### Programs -/

/-- The names under which the shell is a program. -/
def shellNames : List String := ["dash", "sh"]

/-- The names of all programs. -/
def programNames : List String := shellNames ++ Utility.table.map (·.1)

/-- What the program of a name does. -/
def programOf (evaluator : Evaluator) (name : Bytes) (arguments environment : List Bytes) :
    Program Unit :=
  if shellNames.any fun other => Bytes.ofString other = name then
    Shell.Start.program evaluator arguments environment
  else match Utility.find? name with
    | some (name, work) => do
      let status ← work {
        name := arguments.headD (Bytes.ofString name), arguments := arguments.drop 1, environment
        become := evaluator.become }
      Program.exit status
    | none => Program.exit 127

/-- Become the program of a name. -/
def start {α : Type} (evaluator : Evaluator) (name : Bytes) (arguments environment : List Bytes) :
    Program α := do
  Program.modify fun process kernel => kernel.become process arguments environment
  programOf evaluator name arguments environment
  Program.exit 0

/-! ### Scripts -/

/-- How many bytes of a file tell what reads it. -/
def headLength : Nat := 256

/-- How many scripts can be read by each other. -/
def maxInterpreters : Nat := 5

/-- Whether a byte stands between words. -/
def isBlank (byte : UInt8) : Bool := byte = 32 || byte = 9

/-- What reads a file: a program, with an argument that may stand behind it. -/
structure Interpreter where
  path : Bytes
  argument? : Option Bytes

/-- The interpreter that a line names, whose blanks at the end do not count. -/
def namedBy (line : Bytes) : Option Interpreter :=
  let line := (line.dropWhile isBlank).reverse.dropWhile isBlank |>.reverse
  let path := line.takeWhile fun byte => !isBlank byte
  let argument := (line.drop path.length).dropWhile isBlank
  if path.isEmpty then none
  else some { path, argument? := if argument.isEmpty then none else some argument }

/-- The interpreter that a text names which ends before its line does: all of it counts, and its
name may be empty. -/
def namedByAll (text : Bytes) : Interpreter :=
  let line := text.dropWhile isBlank
  let path := line.takeWhile fun byte => !isBlank byte
  let rest := line.drop path.length
  { path, argument? := if rest.isEmpty then none else some (rest.dropWhile isBlank) }

/-- What reads a file, if its first line tells that. Of a line that goes beyond the head of the
file, the name must not. -/
def interpreter? (bytes : Bytes) : Option Interpreter :=
  match bytes.take headLength with
  | 35 :: 33 :: rest =>
    let text := rest.takeWhile (· ≠ 0)
    if text.contains 10 then namedBy (text.takeWhile (· ≠ 10))
    else if text.length < headLength - 2 then some (namedByAll text)
    else
      let line := text.dropWhile isBlank
      if line.any isBlank then namedBy text.dropLast else none
  | _ => none

/-- How many bytes of a file tell whether it can be a script. -/
def sampleLength : Nat := 128

/-- Whether a byte does not stand in texts. -/
def isForeign (byte : UInt8) : Bool :=
  byte = 127 || (byte < 32 && byte ≠ 27 && !(9 ≤ byte && byte ≤ 15))

/-- Whether a file without an interpreter can be a script: its first line looks like text. -/
def isScript (bytes : Bytes) : Bool :=
  !((bytes.take sampleLength).takeWhile (· ≠ 10)).any isForeign

/-- The shell that reads scripts. -/
def scriptShell : Bytes := Bytes.ofString "/bin/sh"

/-! ### Files -/

/-- The longest argument or line of the environment. -/
def maxArgumentLength : Nat := 131071

/-- The memory for all arguments and lines of the environment. -/
def maxImageSize : Nat := 2 * 1024 * 1024

/-- Whether words are too long for a new program, or all of them are together. Each takes a zero
byte at its end and a pointer to it. -/
def isTooLong (path : Bytes) (words : List Bytes) : Bool :=
  words.any (fun word => decide (maxArgumentLength < word.length)) ||
    decide (maxImageSize < words.foldl (fun size word => size + word.length + 9) (path.length + 1))

/-- What there is to run in a file: the program of a name, or bytes. -/
def contentOf (kernel : Kernel) (process : Nat) (path : Bytes) : Except Errno Content := do
  let place ← kernel.find process path
  let facts := kernel.factsAt place
  if facts.kind ≠ .regular || !facts.isExecutable then .error .accessDenied
  else match kernel.contentAt? place with
    | some content => .ok content
    | none => .error .accessDenied

/-- Become the program of a file, of which at most so many scripts are read by each other. It gives
why that cannot be. -/
def becomeWithin (evaluator : Evaluator) (environment : List Bytes) : Nat → Bytes → List Bytes →
    Program Errno
  | 0, _, _ => return .tooManyLinks
  | fuel + 1, path, arguments => do
    if isTooLong path (arguments ++ environment) then return .argumentsTooLong
    match ← Program.ask fun kernel process => contentOf kernel process path with
    | .error errno => return errno
    | .ok (.program name) => start evaluator name arguments environment
    | .ok (.regular bytes) =>
      match interpreter? (bytes.extract 0 headLength).toList with
      | some interpreter =>
        if interpreter.path.isEmpty then return .accessDenied
        becomeWithin evaluator environment fuel interpreter.path
          (interpreter.path :: interpreter.argument?.toList ++ path :: arguments.drop 1)
      | none =>
        if isScript (bytes.extract 0 headLength).toList && path ≠ scriptShell then
          becomeWithin evaluator environment fuel scriptShell
            (scriptShell :: path :: arguments.drop 1)
        else return .noExecutable
    | .ok _ => return .accessDenied

/-- Become the program of a file. It gives why that cannot be. -/
def become (evaluator : Evaluator) (path : Bytes) (arguments environment : List Bytes) :
    Program Errno :=
  becomeWithin evaluator environment maxInterpreters path arguments

/-! ### Evaluators -/

/-- The signal of a process that has no memory for more nested commands. -/
def overflowSignal : Signal := 11

/-- The end of a process without memory for more nested commands. -/
def overflow {α : Type} : Program α := fun _ _ => .finish (.killed overflowSignal)

/-- The evaluator for commands that are nested so deeply at most. -/
def evaluatorWithin : Nat → Evaluator
  | 0 => {
    command := fun _ _ => (overflow : Program Nat)
    text := fun _ _ => (overflow : Program Nat)
    become := fun _ _ _ => overflow }
  | depth + 1 => {
    command := fun command mode => Shell.Evaluation.runCommand (evaluatorWithin depth) command mode
    text := fun text mode => Shell.Script.runText (evaluatorWithin depth) text mode
    become := fun path arguments environment =>
      become (evaluatorWithin depth) path arguments environment }

/-- How deeply commands can be nested. -/
def maxDepth : Nat := 200000

/-- The evaluator of a machine. -/
def evaluator : Evaluator := evaluatorWithin maxDepth

end Relocation.Machine.Execution
