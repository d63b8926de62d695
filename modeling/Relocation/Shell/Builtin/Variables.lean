import Relocation.Shell.Builtin.Options
import Relocation.Shell.Setting

/-!
# Builtins on variables and parameters
-/

namespace Relocation.Shell.Builtin

/-- Print the variables of a kind as commands that restore them, in the order of their names. -/
def printVariables (command : String) (isShown : Variable → Bool) : Run Nat := do
  let shell ← get
  let shown := (shell.vars.filter fun entry => isShown entry.2).mergeSort
    fun a b => decide (a.1 ≤ b.1)
  for (name, var) in shown do
    let value := match var.value? with
      | some value => 61 :: quote value
      | none => []
    printLine (Bytes.ofString (if command.isEmpty then "" else command ++ " ") ++ name ++ value)
  return 0

/-- Assign variables and mark them, or print those that are marked. Only the first option counts. -/
def declare (command : String) (exports : Bool) (arguments : List Bytes) : Run Nat := do
  let (options, words) ← match arguments with
    | first :: rest => do
      let (options, operands) ← readOptions "p" [first]
      pure (options, operands ++ rest)
    | [] => pure ([], [])
  if words.isEmpty || !options.isEmpty then
    printVariables command fun var => if exports then var.isExported else var.isReadOnly
  else
    for word in words do
      let (name, value?) := Variables.splitAssignment word
      Variables.declare name value? exports (!exports)
    return 0

/-- Make variables, or the options, local to the function that is being run. -/
def makeLocal (arguments : List Bytes) : Run Nat := do
  if (← get).locals.isEmpty then faultOf "not in a function"
  for word in arguments do
    if word = [45] then Variables.keepAside (.options (← get).options)
    else
      let (name, value?) := Variables.splitAssignment word
      if value?.isNone && ((← get).lookup name).isNone then Variables.checkName name
      Variables.makeLocal name value? false
  return 0

/-- Remove variables or functions. -/
def unset (arguments : List Bytes) : Run Nat := do
  let (options, names) ← readOptions "vf" arguments
  for word in names do
    if (options.getLast?.map (·.letter)) = some 'f' then
      modify fun shell => { shell with functions := shell.functions.filter (·.1 ≠ word) }
    else Variables.unset (Variables.splitAssignment word).1
  return 0

/-- The shell with other positional parameters, among which `getopts` starts again. -/
def withParameters (parameters : List Bytes) (shell : State) : State :=
  { shell with parameters, optionIndex := 1, optionOffset? := none }

/-- Drop positional parameters. -/
def shift (arguments : List Bytes) : Run Nat := do
  let count ← match arguments with
    | [] => pure 1
    | word :: _ => natural word
  let parameters := (← get).parameters
  if parameters.length < count then faultOf "can't shift that many"
  modify (withParameters (parameters.drop count))
  return 0

/-- Set options and positional parameters, or print all variables. -/
def setParameters (arguments : List Bytes) : Run Nat := do
  if arguments.isEmpty then printVariables "" (·.value?.isSome)
  else
    let rest ← Setting.readAll false arguments
    Setting.settle
    if rest.isMarked || !rest.arguments.isEmpty then modify (withParameters rest.arguments)
    return 0

end Relocation.Shell.Builtin
