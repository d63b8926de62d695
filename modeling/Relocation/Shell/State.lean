import Relocation.Machine.Program
import Relocation.Shell.Grammar

/-!
# The state of a shell

What a shell keeps for itself: variables, functions, traps, options, jobs, and how far the
commands are to be skipped that follow. Open descriptors, the directory and what is done
about signals belong to its process.
-/

namespace Relocation.Shell

/-- A variable of the shell. -/
structure Variable where
  /-- Nothing if the variable is unset. -/
  value? : Option Bytes
  isExported : Bool := false
  isReadOnly : Bool := false
  /-- Whether the variable keeps its place while it is unset. -/
  isFixed : Bool := false
  deriving Repr

/-- A function, with the line on which it was defined. -/
structure Function where
  line : Nat
  body : Command

/-- What is put back when a function ends. -/
inductive Outer where
  /-- A variable, or the absence of one. -/
  | variable (name : Bytes) (old? : Option Variable)
  /-- The options. -/
  | options (old : List Char)

/-- Which of the following commands are skipped. -/
inductive Skip where
  | nothing
  /-- Those up to the end of a loop. -/
  | toBreak
  /-- Those up to the end of the body of a loop. -/
  | toContinue
  /-- Those up to the end of a function, whose status was given. -/
  | toReturn
  /-- Those up to the end of a function. -/
  | toEnd
  deriving DecidableEq, Repr

/-- What was behind a descriptor before a redirection. -/
inductive Saved where
  /-- It was closed. -/
  | closed
  /-- It was closed, and is so still. -/
  | untouched
  /-- It was copied to another descriptor. -/
  | moved (descriptor : Nat)
  deriving DecidableEq, Repr

/-- A process of a job, with its end if that is known. -/
structure Member where
  process : Nat
  ending? : Option Machine.Ending := none
  deriving DecidableEq, Repr

/-- Processes that were started together. -/
structure Job where
  number : Nat
  members : List Member
  /-- Whether the job was waited for. -/
  isAwaited : Bool := false
  deriving Repr

/-- Where a program was found. -/
structure Tracked where
  /-- The position of its directory in the search path. -/
  index : Nat
  /-- Whether it has to be looked for again. -/
  isStale : Bool := false
  deriving Repr

/-- A shell. -/
structure State where
  /-- The ID of the process. -/
  process : Nat
  /-- The ID that `$$` shows, which subshells share. -/
  mainProcess : Nat
  name : Bytes
  parameters : List Bytes := []
  /-- The index of the next argument for `getopts`, and how far the one before was read. -/
  optionIndex : Nat := 1
  optionOffset? : Option Nat := none
  vars : List (Bytes × Variable) := []
  /-- What is put back at the ends of the commands and functions that are run. -/
  locals : List (List Outer) := []
  functions : List (Bytes × Function) := []
  aliases : List (Bytes × Bytes) := []
  tracked : List (Bytes × Tracked) := []
  documents : List (Nat × Word) := []
  nextDocument : Nat := 0
  /-- The options that are on, by their letters. -/
  options : List Char := []
  /-- What is done about signals; the number zero stands for the end of the shell. -/
  traps : List (Signal × Bytes) := []
  /-- The signals that were ignored when the shell started. -/
  ignoredAtStart : List Signal := []
  skip : Skip := .nothing
  skipCount : Nat := 0
  loopDepth : Nat := 0
  functionDepth : Nat := 0
  status : Nat := 0
  /-- The status that the shell or an action for a signal goes on with. -/
  savedStatus? : Option Nat := none
  /-- The status of the last command whose output was put into a word. -/
  captureStatus : Nat := 0
  lastBackground? : Option Nat := none
  jobs : List Job := []
  /-- What redirections have displaced, the innermost command first. -/
  displaced : List (List (Nat × Saved)) := []
  /-- What builtins have written, the last piece first. -/
  output : List Bytes := []
  /-- The path of the directory, with symbolic links in it, if it is known. -/
  directory? : Option Bytes := none
  /-- The path of the directory without symbolic links, if it is known. -/
  physical? : Option Bytes := none
  /-- The builtin that is run, for messages. -/
  builtin? : Option Bytes := none
  line : Nat := 1
  /-- The line up to which the script was parsed. -/
  parsedLine : Nat := 1
  /-- How many shells of the same program are around this one. -/
  depth : Nat := 0
  /-- Whether the prompt of a trace is being expanded. -/
  inTrace : Bool := false
  /-- The descriptor to which traces are written. -/
  traceDescriptor : Nat := 2

namespace State

/-- A variable by its name. -/
def lookup (shell : State) (name : Bytes) : Option Variable :=
  shell.vars.lookup name

/-- The value of a variable, if it is set. -/
def value? (shell : State) (name : Bytes) : Option Bytes :=
  (shell.lookup name).bind (·.value?)

/-- The value of a variable with a name given as text, if it is set. -/
def valueOf? (shell : State) (name : String) : Option Bytes :=
  shell.value? (Bytes.ofString name)

/-- Replace an entry of a list, or add it at the end. -/
def put {α : Type} (name : Bytes) (item : α) : List (Bytes × α) → List (Bytes × α)
  | [] => [(name, item)]
  | entry :: rest => if entry.1 = name then (name, item) :: rest else entry :: put name item rest

/-- The shell with a variable replaced, or added at the end. -/
def withVariable (shell : State) (name : Bytes) (var : Variable) : State :=
  { shell with vars := put name var shell.vars }

/-- The shell without a variable. -/
def withoutVariable (shell : State) (name : Bytes) : State :=
  match shell.lookup name with
  | some var =>
    if var.isFixed then shell.withVariable name { var with value? := none }
    else { shell with vars := shell.vars.filter (·.1 ≠ name) }
  | none => shell

/-- The row in which a name is kept in a table with so many rows. -/
def rowOf (rows : Nat) (name : Bytes) : Nat :=
  name.foldl (fun sum byte => sum + byte.toNat) (16 * (name.head?.getD 0).toNat) % rows

/-- The items of a table with so many rows, row by row. -/
def inRows {α : Type} (rows : Nat) (items : List (Bytes × α)) : List (Bytes × α) :=
  items.mergeSort fun a b => decide (rowOf rows a.1 ≤ rowOf rows b.1)

/-- The number of rows in which variables are kept. -/
def variableRows : Nat := 39

/-- The lines of the environment that the shell gives to programs, row by row. -/
def environment (shell : State) : List Bytes :=
  (inRows variableRows (shell.vars.filter (·.2.isExported))).filterMap fun (name, var) =>
    var.value?.map fun value => name ++ 61 :: value

/-- Whether an option is on. -/
def hasOption (shell : State) (letter : Char) : Bool :=
  shell.options.contains letter

/-- The bytes between which fields are split by default. -/
def defaultSeparators : Bytes := [32, 9, 10]

/-- The bytes between which fields are split. -/
def separators (shell : State) : Bytes :=
  (shell.valueOf? "IFS").getD defaultSeparators

/-- Whether an action for a signal or for the end of the shell is set that does something. -/
def hasTraps (shell : State) : Bool :=
  shell.traps.any fun entry => !entry.2.isEmpty

end State

end Relocation.Shell
