import Relocation.Shell.Arithmetic
import Relocation.Shell.Run

/-!
# Variables

A variable can be set, exported and made read-only, also before it has a value. While a
function or a command with variables of its own is run, the variables that are local to it
are kept aside and come back afterwards.
-/

namespace Relocation.Shell

/-- Report a text that is no number. -/
def illegalNumber {α : Type} (text : Bytes) : Run α :=
  fault (Bytes.ofString "Illegal number: " ++ text)

/-- The integer that an argument has to denote. -/
def integer (word : Bytes) : Run Int := do
  match Arithmetic.decimal? word with
  | some value => return value
  | none => illegalNumber word

/-- A natural number of 31 bits that an argument has to denote. -/
def natural (word : Bytes) : Run Nat := do
  let value ← integer word
  if value < 0 || 0x7fffffff < value then illegalNumber word
  else return value.toNat

namespace Variables

/-- The name of the search path. -/
def pathName : Bytes := Bytes.ofString "PATH"

/-- The name of the index of the next argument for `getopts`. -/
def indexName : Bytes := Bytes.ofString "OPTIND"

/-- Do what a new value of a variable brings about: programs are looked for again in another search
path, and `getopts` starts again at another index. -/
def react (name : Bytes) (value? : Option Bytes) : Run Unit := do
  if name = pathName then modify ({ · with tracked := [] })
  else if name = indexName then
    let index ← natural (value?.getD [])
    modify ({ · with optionIndex := max index 1, optionOffset? := none })

/-- Report a variable that cannot be changed. -/
def readOnly {α : Type} (name : Bytes) : Run α := faultAbout name "is read only"

/-- Set or unset a variable, and mark it. One that is unset and bears no mark is forgotten. -/
def store (name : Bytes) (value? : Option Bytes) (exports readsOnly isFixed : Bool := false) :
    Run Unit := do
  let shell ← get
  let exports := exports || (shell.hasOption 'a')
  match shell.lookup name with
  | some old =>
    if old.isReadOnly then readOnly name
    react name value?
    if value?.isNone && !exports && !readsOnly && !isFixed && !old.isFixed then
      modify (·.withoutVariable name)
    else modify (·.withVariable name {
      value?
      isExported := exports || old.isExported
      isReadOnly := readsOnly
      isFixed := isFixed || old.isFixed })
  | none =>
    if value?.isSome || exports || readsOnly || isFixed then
      modify (·.withVariable name
        { value?, isExported := exports, isReadOnly := readsOnly, isFixed })

/-- Check that a text can be the name of a variable. -/
def checkName (name : Bytes) : Run Unit := do
  if !isName name then faultAbout name "bad variable name"

/-- Set a variable. -/
def assign (name value : Bytes) : Run Unit := do
  checkName name
  store name (some value)

/-- Unset a variable. -/
def unset (name : Bytes) : Run Unit := do
  checkName name
  store name none

/-- A name and the value behind an equals sign, if there is one. -/
def splitAssignment (word : Bytes) : Bytes × Option Bytes :=
  match Bytes.cut? (· = 61) word with
  | some (name, value) => (name, some value)
  | none => (word, none)

/-- Mark a variable that need not be set, or set it as well. -/
def declare (name : Bytes) (value? : Option Bytes) (exports readsOnly : Bool) : Run Unit := do
  checkName name
  match value?, (← get).lookup name with
  | none, some old =>
    modify (·.withVariable name { old with
      isExported := old.isExported || exports
      isReadOnly := old.isReadOnly || readsOnly })
  | _, _ => store name value? exports readsOnly

/-! ### Local variables -/

/-- Keep something aside that comes back at the end of the command or function that is run. -/
def keepAside (outer : Outer) : Run Unit := modify fun shell =>
  { shell with locals := match shell.locals with
    | frame :: rest => (outer :: frame) :: rest
    | [] => [] }

/-- Make a variable local, and set it if there is a value. A variable that was set before keeps its
value otherwise. -/
def makeLocal (name : Bytes) (value? : Option Bytes) (exports : Bool) : Run Unit := do
  let old? := (← get).lookup name
  match old? with
  | none => store name value? exports false true
  | some old =>
    modify (·.withVariable name { old with isFixed := true })
    match value? with
    | some value => store name (some value) exports
    | none => pure ()
  keepAside (.variable name old?)

/-- Put something back. -/
def putBack (outer : Outer) : Run Unit := do
  match outer with
  | .options old => modify ({ · with options := old })
  | .variable name none =>
    modify fun shell => { shell with vars := shell.vars.filter (·.1 ≠ name) }
  | .variable name (some old) =>
    react name old.value?
    modify (·.withVariable name old)

/-- Begin a command or function that can have variables of its own. -/
def enter : Run Unit := modify fun shell => { shell with locals := [] :: shell.locals }

/-- End the commands and functions that began since there were so many, the last one first. -/
def leaveTo (depth : Nat) : Nat → Run Unit
  | 0 => return
  | fuel + 1 => do
    let shell ← get
    if shell.locals.length ≤ depth then return
    match shell.locals with
    | [] => return
    | frame :: rest =>
      set { shell with locals := rest }
      for outer in frame do
        putBack outer
      leaveTo depth fuel

/-- Put back what is local to the commands and functions that began since there were so many. -/
def unwind (depth : Nat) : Run Unit := do
  leaveTo depth ((← get).locals.length)

end Variables

end Relocation.Shell
