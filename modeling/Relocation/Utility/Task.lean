import Relocation.Machine.Program

/-!
# Utilities

A utility is a small program that comes with the machine. It is given words, works
through the descriptors of its process, and ends with a status. What it cannot do is
reported on the standard error behind its name.
-/

namespace Relocation.Utility

open Machine (Program)

/-- What a utility is given. -/
structure Task where
  /-- The name under which the utility was called. -/
  name : Bytes
  arguments : List Bytes
  /-- The lines of the environment. -/
  environment : List Bytes
  /-- How the process becomes another program. It gives why it cannot. -/
  become : Bytes → List Bytes → List Bytes → Program Errno

/-- What a utility does with its task. It gives the status. -/
abbrev Work := Task → Program Nat

/-! ### Messages -/

/-- A text between single quotes. -/
def quoted (text : Bytes) : Bytes :=
  39 :: text.flatMap (fun byte => if byte = 39 then Bytes.ofString "'\\''" else [byte]) ++ [39]

/-- Whether a byte of a name would mean something to a shell. -/
def isTelling (byte : UInt8) : Bool :=
  byte ≤ 32 || 127 ≤ byte || (Bytes.ofString "!\"$&'()*;<>?[\\]^`{|}~:=").contains byte

/-- A name, in quotes if it could be taken for something else. -/
def quotedIfNeeded (name : Bytes) : Bytes :=
  if name.isEmpty || name.any isTelling then quoted name else name

namespace Task

/-- Report something. -/
def report (task : Task) (message : Bytes) : Program Unit := do
  let _ ← Program.write 2 (task.name ++ [58, 32] ++ message ++ [10])

/-- Report what went wrong with a file. -/
def reportFile (task : Task) (path : Bytes) (errno : Errno) : Program Unit :=
  task.report (quotedIfNeeded path ++ Bytes.ofString (": " ++ errno.libraryText))

/-- Report what could not be done with a file. -/
def reportAct (task : Task) (act : String) (path : Bytes) (errno : Errno) : Program Unit :=
  task.report (Bytes.ofString (act ++ " ") ++ quoted path ++
    Bytes.ofString (": " ++ errno.libraryText))

/-- Report something and end. -/
def fail {α : Type} (task : Task) (message : Bytes) (status : Nat := 1) : Program α := do
  task.report message
  Program.exit status

/-- Point to the help, as the arguments were wrong, and end. -/
def misuse {α : Type} (task : Task) (message : Bytes) (status : Nat := 1) : Program α := do
  if !message.isEmpty then task.report message
  let _ ← Program.write 2
    (Bytes.ofString "Try '" ++ task.name ++ Bytes.ofString " --help' for more information.\n")
  Program.exit status

/-! ### Output -/

/-- Write to the standard output. -/
def put (task : Task) (bytes : Bytes) : Program Unit := do
  match ← Program.write 1 bytes with
  | .ok () => return
  | .error errno => task.fail (Bytes.ofString ("write error: " ++ errno.libraryText))

/-- Write a line to the standard output. -/
def putLine (task : Task) (line : Bytes) : Program Unit := task.put (line ++ [10])

/-- Write a line that is given as text to the standard output. -/
def putText (task : Task) (line : String) : Program Unit := task.putLine (Bytes.ofString line)

end Task

/-! ### Input -/

/-- The name of the standard input among the names of files. -/
def standardInput : Bytes := [45]

namespace Task

/-- Do something with the descriptor of a file, or of the standard input, that may fail. What goes
wrong is reported. It gives whether nothing did. -/
def withFile (task : Task) (path : Bytes) (action : Nat → Program (Option Errno)) :
    Program Bool := do
  let problem? ← if path = standardInput then action 0
    else match ← Program.openPath path { reads := true } with
      | .error errno => pure (some errno)
      | .ok descriptor => do
        let problem? ← action descriptor
        Program.close descriptor
        pure problem?
  match problem? with
  | none => return true
  | some errno =>
    task.reportFile path errno
    return false

/-- Read a file, or the standard input. What goes wrong is reported. -/
def readFile? (task : Task) (path : Bytes) : Program (Option Bytes) := do
  let result ← if path = standardInput then Program.readAll 0
    else match ← Program.openPath path { reads := true } with
      | .error errno => pure (.error errno)
      | .ok descriptor => do
        let result ← Program.readAll descriptor
        Program.close descriptor
        pure result
  match result with
  | .ok bytes => return some bytes
  | .error errno =>
    task.reportFile path errno
    return none

/-- The files to be read: the standard input if none is named. -/
def inputs (paths : List Bytes) : List Bytes := if paths.isEmpty then [standardInput] else paths

/-- Do something with the contents of files one after the other. The status tells whether all could
be read. -/
def forFiles (task : Task) (paths : List Bytes) (action : Bytes → Bytes → Program Unit) :
    Program Nat := do
  let mut status := 0
  for path in inputs paths do
    match ← task.readFile? path with
    | some content => action path content
    | none => status := 1
  return status

/-- Everything that is in some files, and whether all could be read. -/
def readTogether (task : Task) (paths : List Bytes) : Program (Bytes × Bool) := do
  let mut contents : List Bytes := []
  let mut isWhole := true
  for path in inputs paths do
    match ← task.readFile? path with
    | some content => contents := content :: contents
    | none => isWhole := false
  return (contents.reverse.flatten, isWhole)

/-! ### The environment -/

/-- The value of a variable of the environment. -/
def valueOf? (task : Task) (name : String) : Option Bytes :=
  task.environment.findSome? fun line =>
    match Bytes.cut? (· = 61) line with
    | some (key, value) => if key = Bytes.ofString name then some value else none
    | none => none

end Task

/-! ### Lines -/

/-- The lines of a text without their ends. -/
def linesOf (text : Bytes) : List Bytes :=
  match text.splitOn (· = 10) with
  | [] => []
  | lines => if lines.getLast? = some [] then lines.dropLast else lines

/-- Lines with an end behind each of them. -/
def joinLines (lines : List Bytes) : Bytes := lines.flatMap (· ++ [10])

/-- A decimal number. -/
def number? (word : Bytes) : Option Nat :=
  Decimal.natural? (word.map fun byte => Char.ofNat byte.toNat)

/-- A number in decimal digits. -/
def numberText (number : Nat) : Bytes := Bytes.ofString (Decimal.ofNat number)

/-- A text moved to the right of a column. -/
def padLeft (width : Nat) (text : Bytes) : Bytes :=
  List.replicate (width - text.length) 32 ++ text

end Relocation.Utility
