import Relocation.Shell.Job

/-!
# Searching for commands

A command name stands for a function, a builtin or a program. A name with a slash in it is
a path; any other program is looked for in the directories of the search path, and where
it was found is remembered until the path changes. After a change of the directory, what
was found by way of a relative directory is looked for again.
-/

namespace Relocation.Shell

open Machine (Kernel Program)

/-- The builtins whose errors do not end the shell. -/
def regularBuiltins : List String :=
  ["[", "alias", "bg", "cd", "chdir", "command", "echo", "false", "fg", "getopts", "hash", "jobs",
    "kill", "printf", "pwd", "read", "test", "true", "type", "ulimit", "umask", "unalias", "wait"]

/-- Whether a text is the name of a builtin. -/
def isBuiltin (name : Bytes) : Bool :=
  isSpecialBuiltin name || regularBuiltins.any fun other => Bytes.ofString other = name

/-- What a command name stands for. -/
inductive Meaning where
  | function (function : Function)
  | builtin
  /-- A program, with the position of its directory in the search path if it was looked for. -/
  | file (index? : Option Nat)
  | nothing

namespace Search

/-- The search path of a command for which the usual one is asked. -/
def usualPath : Bytes :=
  Bytes.ofString "/usr/sbin:/usr/bin:/sbin:/bin"

/-- The search path. -/
def path : Run Bytes := return ((← get).value? Variables.pathName).getD []

/-- The paths at which a program is looked for. -/
def candidates (path name : Bytes) : List Bytes :=
  (path.splitOn (· = 58)).map fun directory =>
    if directory.isEmpty then name else directory ++ Machine.slashByte :: name

/-- The text of an error about a program. -/
def problem (errno : Errno) : String :=
  if errno = .noEntry || errno = .notDirectory then "not found" else errno.libraryText

/-- Whether a program can be run, or why not. -/
def check (kernel : Kernel) (process : Nat) (path : Bytes) : Except Errno Unit := do
  let facts ← kernel.facts process path
  if facts.kind ≠ .regular || !facts.isExecutable then .error .accessDenied

/-- Look for a program, from the first candidate on, and give its position or what went wrong at
last. A program that was found before is still there if its path begins with a slash. -/
def locate (kernel : Kernel) (process : Nat) (known? : Option Nat) :
    Nat → Errno → List Bytes → Except Errno Nat
  | _, errno, [] => .error errno
  | index, errno, path :: rest =>
    let isKnown := path.head? = some Machine.slashByte &&
      known?.any fun known => decide (index ≤ known)
    if isKnown && known? = some index then .ok index
    else if isKnown then locate kernel process known? (index + 1) errno rest
    else match check kernel process path with
      | .ok () => .ok index
      | .error other =>
        locate kernel process known? (index + 1)
          (if other = .noEntry || other = .notDirectory then errno else other) rest

/-- Remember where a program was found, or forget about it. -/
def remember (name : Bytes) (index? : Option Nat) : Run Unit := modify fun shell =>
  { shell with tracked := match index? with
    | some index => State.put name { index } shell.tracked
    | none => shell.tracked.filter (·.1 ≠ name) }

/-- Look for a program in a search path. It gives why there is none. -/
def lookFor (path name : Bytes) (tracks : Bool) : Run (Except Errno Nat) := do
  let shell ← get
  let old? := if tracks then shell.tracked.lookup name else none
  match old?.filter fun old => !old.isStale with
  | some old => return .ok old.index
  | none =>
    let result ← (Program.look fun process kernel =>
      locate kernel process (old?.map (·.index)) 0 .noEntry (candidates path name) : Program _)
    if tracks then remember name result.toOption
    return result

/-- What a command name stands for. Functions do not count if `skipsFunctions` holds. -/
def meaningOf (name : Bytes) (skipsFunctions reports : Bool) (path? : Option Bytes := none) :
    Run Meaning := do
  if name.contains Machine.slashByte then return .file none
  else
    let shell ← get
    match if skipsFunctions then none else shell.functions.lookup name with
    | some function => return .function function
    | none =>
      if isBuiltin name then return .builtin
      else
        let tracks := path?.isNone && (shell.functions.lookup name).isNone
        match ← lookFor (path?.getD (← path)) name tracks with
        | .ok index => return .file (some index)
        | .error errno =>
          if reports then complain (name ++ Bytes.ofString (": " ++ problem errno))
          return .nothing

/-- The meaning of a command name as far as it is known without a search. -/
def knownMeaning (name : Bytes) (skipsFunctions : Bool) : Run Meaning := do
  if name.contains Machine.slashByte then return .file none
  else
    let shell ← get
    match if skipsFunctions then none else shell.functions.lookup name with
    | some function => return .function function
    | none => return if isBuiltin name then .builtin else .nothing

/-- The path under which a program was found. -/
def pathAt (path name : Bytes) (index? : Option Nat) : Bytes :=
  match index? with
  | none => name
  | some index => ((candidates path name)[index]?).getD name

/-! ### Becoming a program -/

/-- The statuses of a program that cannot be run, and of one that is not there. -/
def cannotRunStatus : Nat := 126

/-- The status of a program that is not there. -/
def notFoundStatus : Nat := 127

/-- The status for an error about a program. -/
def statusOf (errno : Errno) : Nat :=
  if [.noEntry, .notDirectory, .tooManyLinks, .nameTooLong].contains errno then notFoundStatus
  else cannotRunStatus

/-- Try paths one after the other. It gives the last error that does not say that there is no such
file. -/
def tryAll (attempt : Bytes → Program Errno) : Errno → List Bytes → Program Errno
  | errno, [] => return errno
  | errno, path :: rest => do
    let other ← attempt path
    tryAll attempt (if other = .noEntry || other = .notDirectory then errno else other) rest

/-- Become the program of a name, with words of which the first is the name. What went wrong is
reported, and the shell ends. -/
def become {α : Type} (evaluator : Evaluator) (path : Bytes) (index : Nat) (words : List Bytes) :
    Run α := do
  let name := words.headD []
  let environment := (← get).environment
  let attempt (path : Bytes) : Program Errno := evaluator.become path words environment
  let errno ← if name.contains Machine.slashByte then (attempt name : Program _)
    else (tryAll attempt .noEntry ((candidates path name).drop index) : Program _)
  setStatus (statusOf errno)
  complain (name ++ Bytes.ofString (": " ++ problem errno))
  throw .ended

end Search

end Relocation.Shell
