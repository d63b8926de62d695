import Relocation.Shell.Builtin.Options
import Relocation.Shell.Search

/-!
# Builtins on command names
-/

namespace Relocation.Shell.Builtin

open Machine (Program)

/-! ### Aliases -/

/-- The number of rows in which aliases are kept. -/
def aliasRows : Nat := 39

/-- Print an alias. -/
def printAlias (name text : Bytes) : Run Unit := printLine (name ++ 61 :: quote text)

/-- A name and a text behind an equals sign that is not the first byte. -/
def splitAlias? : Bytes → Option (Bytes × Bytes)
  | [] => none
  | first :: rest => (Bytes.cut? (· = 61) rest).map fun (name, text) => (first :: name, text)

/-- Define an alias, or print one. -/
def defineAlias (word : Bytes) : Run Nat := do
  match splitAlias? word with
  | some (name, text) =>
    modify fun shell => { shell with aliases := State.put name text shell.aliases }
    return 0
  | none =>
    match (← get).aliases.lookup word with
    | some text =>
      printAlias word text
      return 0
    | none =>
      remark (Bytes.ofString "alias: " ++ word ++ Bytes.ofString " not found")
      return 1

/-- Define or print aliases. -/
def defineAliases (arguments : List Bytes) : Run Nat := do
  if arguments.isEmpty then
    for (name, text) in State.inRows aliasRows (← get).aliases do
      printAlias name text
    return 0
  else forEach defineAlias arguments

/-- Remove aliases. -/
def removeAliases (arguments : List Bytes) : Run Nat := do
  let (options, names) ← readOptions "a" arguments
  if has 'a' options then
    modify ({ · with aliases := [] })
    return 0
  else
    forEach (fun name => do
      let shell ← get
      if (shell.aliases.lookup name).isSome then
        set { shell with aliases := shell.aliases.filter (·.1 ≠ name) }
        return 0
      else
        remark (Bytes.ofString "unalias: " ++ name ++ Bytes.ofString " not found")
        return 1) names

/-! ### Meanings -/

/-- What is known about a command name. -/
inductive Description where
  | word
  | alias (text : Bytes)
  | function
  | builtin
  | file (path : Bytes) (isTracked : Bool)
  | nothing

/-- The description of a program that was looked for. -/
def describeFile (path name : Bytes) (index? : Option Nat) : Run Description := do
  match index? with
  | some _ => return .file (Search.pathAt path name index?) false
  | none =>
    let exists? ← (Program.ask fun kernel process => kernel.find process name : Program _)
    return match exists? with
      | .ok _ => .file name false
      | .error _ => .nothing

/-- Find out about a command name. -/
def describe (name : Bytes) (path? : Option Bytes) : Run Description := do
  let shell ← get
  if (Keyword.ofText? name).isSome then return .word
  else match shell.aliases.lookup name with
    | some text => return .alias text
    | none =>
      let path ← match path? with
        | some path => pure path
        | none => Search.path
      match if path?.isSome then none else shell.tracked.lookup name with
      | some tracked => return .file (Search.pathAt path name (some tracked.index)) true
      | none =>
        match ← Search.meaningOf name false false path? with
        | .function _ => return .function
        | .builtin => return .builtin
        | .file index? => describeFile path name index?
        | .nothing => return .nothing

/-- The status for a command name that stands for nothing. -/
def unknownStatus : Nat := 127

/-- Print what a command name stands for in words. -/
def explain (path? : Option Bytes) (name : Bytes) : Run Nat := do
  let line (text : String) : Run Nat := do
    printLine (name ++ Bytes.ofString text)
    return 0
  match ← describe name path? with
  | .word => line " is a shell keyword"
  | .alias text =>
    printLine (name ++ Bytes.ofString " is an alias for " ++ text)
    return 0
  | .function => line " is a shell function"
  | .builtin =>
    line (if isSpecialBuiltin name then " is a special shell builtin" else " is a shell builtin")
  | .file path isTracked =>
    let text := if isTracked then " is a tracked alias for " else " is "
    printLine (name ++ Bytes.ofString text ++ path)
    return 0
  | .nothing =>
    let _ ← line ": not found"
    return unknownStatus

/-- Print what would be run for a command name. -/
def locate (path? : Option Bytes) (name : Bytes) : Run Nat := do
  match ← describe name path? with
  | .alias text =>
    print (Bytes.ofString "alias ")
    printAlias name text
  | .file path _ => printLine path
  | .nothing => return unknownStatus
  | _ => printLine name
  return 0

/-- Look a command name up without running it. -/
def lookUp (arguments : List Bytes) : Run Nat := do
  let (options, names) ← readOptions "pvV" arguments
  let path? := if has 'p' options then some Search.usualPath else none
  match names with
  | [] => return 0
  | name :: _ =>
    if has 'V' options then explain path? name
    else if has 'v' options then locate path? name
    else return 0

/-- Explain command names. There are no options. -/
def explainAll (arguments : List Bytes) : Run Nat := do
  forEach (explain none) arguments

/-! ### Programs that were found -/

/-- The number of rows in which programs are kept. -/
def programRows : Nat := 31

/-- Look for programs and remember them, forget them all, or print them. -/
def hash (arguments : List Bytes) : Run Nat := do
  let (options, names) ← readOptions "r" arguments
  if !options.isEmpty then
    modify ({ · with tracked := [] })
    return 0
  else if names.isEmpty then
    let path ← Search.path
    for (name, tracked) in State.inRows programRows (← get).tracked do
      printLine (Search.pathAt path name (some tracked.index) ++
        if tracked.isStale then [42] else [])
    return 0
  else
    forEach (fun name => do
      Search.remember name none
      match ← Search.meaningOf name false true with
      | .nothing => return 1
      | _ => return 0) names

end Relocation.Shell.Builtin
