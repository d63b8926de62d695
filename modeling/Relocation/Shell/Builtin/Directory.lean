import Relocation.Shell.Builtin.Options
import Relocation.Shell.Search

/-!
# Builtins on the directory

The shell remembers by which path it came to its directory. A path with symbolic links
in it is kept, and dots in a path are resolved by the names alone, unless the physical
directory is asked for.
-/

namespace Relocation.Shell.Builtin

open Machine (Kernel Program)

/-- Whether the physical directory is meant: the option that was given last but for repetitions
counts. -/
def isPhysical (options : List Given) : Bool := (options.getLast?.map (·.letter)) = some 'P'

/-- The path without symbolic links of the directory of a process. -/
def physicalPath (kernel : Kernel) (process : Nat) : Option Bytes :=
  (kernel.locationOf? (kernel.directoryOf process)).map Machine.pathTo

/-- Find out the physical directory. -/
def findPhysical : Run Bytes := do
  match ← (Program.look fun process kernel => physicalPath kernel process : Program _) with
  | some path => return path
  | none =>
    complainOf ("getcwd() failed: " ++ Errno.noEntry.libraryText)
    return []

/-- Set a variable and give it to the programs that are run. -/
def setExported (name : String) (value : Bytes) : Run Unit :=
  Variables.store (Bytes.ofString name) (some value) true

/-- Take note of a new directory, by its path if that is known. -/
def noteDirectory (path? : Option Bytes) (keepsOld : Bool) : Run Unit := do
  if keepsOld then setExported "OLDPWD" ((← get).directory?.getD [])
  match path? with
  | some path =>
    modify ({ · with directory? := some path, physical? := none })
    setExported "PWD" path
  | none =>
    let path ← findPhysical
    let known? := if path.isEmpty then none else some path
    modify ({ · with directory? := known?, physical? := known? })
    setExported "PWD" path

/-- A path as it looks behind some names, of which two dots take one away. The names are kept in
reverse. -/
def resolve : List Bytes → List Bytes → List Bytes
  | done, [] => done
  | done, name :: rest =>
    if name = Machine.dotName || name.isEmpty then resolve done rest
    else if name = Machine.dotDotName then resolve (done.drop 1) rest
    else resolve (name :: done) rest

/-- Whether a path begins with exactly two slashes. -/
def hasDoubleSlash (path : Bytes) : Bool :=
  match path with
  | 47 :: 47 :: rest => rest.head? ≠ some 47
  | _ => false

/-- The path that a path leads to by its names alone, from the directory with the path `current`. -/
def logicalPath? (current? : Option Bytes) (path : Bytes) : Option Bytes :=
  let isAbsolute := path.head? = some Machine.slashByte
  match if isAbsolute then some [] else current? with
  | none => none
  | some current =>
    let names (path : Bytes) : List Bytes := path.splitOn (· = Machine.slashByte)
    let done := resolve (resolve [] (names current)) (names path)
    let whole := Machine.pathTo done.reverse
    let isDouble := hasDoubleSlash (if isAbsolute then path else current)
    some (if isDouble then Machine.slashByte :: whole else whole)

/-- Mark the programs that were found as to be looked for again. -/
def markStale : Run Unit := modify fun shell =>
  { shell with tracked := shell.tracked.map fun (name, tracked) =>
      (name, { tracked with isStale := true }) }

/-- Change the directory. It gives whether that was possible. -/
def enterDirectory (path : Bytes) (isPhysical : Bool) : Run Bool := do
  let current? := (← get).directory?
  let logical? := if isPhysical then none else logicalPath? current? path
  match ← (Program.request fun kernel process =>
      kernel.changeDirectory process (logical?.getD path) : Program _) with
  | .error _ => return false
  | .ok () =>
    noteDirectory logical? true
    markStale
    return true

/-- Whether a path is looked for in the list of directories for that. -/
def isSearched (path : Bytes) : Bool :=
  match path with
  | 47 :: _ => false
  | [46] => false
  | 46 :: 47 :: _ => false
  | [46, 46] => false
  | 46 :: 46 :: 47 :: _ => false
  | _ => true

/-- The directories in which a path is looked for, with whether they have names. -/
def searchedPaths (directories path : Bytes) : List (Bytes × Bool) :=
  (directories.splitOn (· = 58)).map fun directory =>
    if directory.isEmpty then (path, false) else (directory ++ Machine.slashByte :: path, true)

/-- Change the directory. -/
def cd (arguments : List Bytes) : Run Nat := do
  let (options, words) ← readOptions "LP" arguments
  let shell ← get
  let isBack := words.head? = some [45]
  let target := match words with
    | [] => (shell.valueOf? "HOME").getD []
    | word :: _ => if isBack then (shell.valueOf? "OLDPWD").getD [] else word
  let target' := if target.isEmpty then Machine.dotName else target
  let candidates := match shell.valueOf? "CDPATH" with
    | some directories => if isSearched target then searchedPaths directories target' else []
    | none => []
  let found? ← (Program.look fun process kernel => candidates.find? fun (path, _) =>
    ((kernel.find process path).toOption.map kernel.isDirectory).getD false : Program _)
  let (path, isNamed) := found?.getD (target', false)
  if !(← enterDirectory path (isPhysical options)) then
    fault (Bytes.ofString "can't cd to " ++ target')
  if isBack || isNamed then printLine ((← get).directory?.getD [])
  return 0

/-- Print the directory. -/
def pwd (arguments : List Bytes) : Run Nat := do
  let (options, _) ← readOptions "LP" arguments
  if isPhysical options then
    match (← get).physical? with
    | some path => printLine path
    | none =>
      let path ← findPhysical
      let directory := (← get).directory?.getD []
      modify ({ · with physical? := if path.isEmpty then none else some path })
      setExported "PWD" directory
      printLine path
  else printLine ((← get).directory?.getD [])
  return 0

end Relocation.Shell.Builtin
