import Relocation.Shell.Builtin.Control
import Relocation.Shell.Builtin.Directory
import Relocation.Shell.Setting

/-!
# Starting a shell

A shell takes its variables from its environment and its commands from an argument, a
file or its standard input. Nothing else passes from the process that started it but
the directory, the open descriptors, and which signals are ignored.
-/

namespace Relocation.Shell.Start

open Machine (Kernel Process Program Thread)

/-! ### Variables -/

/-- The variables that every shell starts with. -/
def setVariables : List (String × String) :=
  [("IFS", " \t\n"), ("PATH", "/usr/local/sbin:/usr/local/bin:/usr/sbin:/usr/bin:/sbin:/bin"),
    ("PS1", "# "), ("PS2", "> "), ("PS4", "+ "), ("OPTIND", "1")]

/-- The variables that every shell knows although they are not set. -/
def unsetVariables : List String := ["MAIL", "MAILPATH", "TERM", "HISTSIZE"]

/-- The variables of a shell without an environment. -/
def initialVariables : List (Bytes × Variable) :=
  setVariables.map (fun (name, value) =>
    (Bytes.ofString name, { value? := some (Bytes.ofString value), isFixed := true })) ++
  unsetVariables.map fun name => (Bytes.ofString name, { value? := none, isFixed := true })

/-- Set the variables of an environment, as far as their names can be those of variables. -/
def importAll (environment : List Bytes) : Run Unit := do
  for line in environment do
    match Variables.splitAssignment line with
    | (name, some value) => if isName name then Variables.store name (some value) true
    | _ => pure ()

/-- Set a variable that the environment cannot set. It stays with the programs that get it. -/
def setFixed (name : String) (value : Bytes) : Run Unit :=
  Variables.store (Bytes.ofString name) (some value)

/-- The path of the directory that the environment tells, if it is right. -/
def inheritedPath? : Run (Option Bytes) := do
  match (← get).valueOf? "PWD" with
  | none => return none
  | some path =>
    if path.head? ≠ some Machine.slashByte then return none
    else
      let isRight ← (Program.look fun process kernel =>
        decide ((kernel.find process path).toOption = some (kernel.directoryOf process)) :
        Program Bool)
      return if isRight then some path else none

/-- Set the variables of a shell that starts. -/
def setUp (parent : Nat) (environment : List Bytes) : Run Unit := do
  importAll environment
  setFixed "IFS" State.defaultSeparators
  setFixed "OPTIND" (Bytes.ofString "1")
  setFixed "PPID" (Bytes.ofString (Decimal.ofNat parent))
  Builtin.noteDirectory (← inheritedPath?) false

/-! ### Commands -/

/-- Take the name of the shell and the parameters from the arguments, if there are any. -/
def rename (words : List Bytes) : Run Unit := modify fun shell =>
  { shell with name := words.headD shell.name, parameters := words.drop 1 }

/-- Begin with the first line. -/
def begin : Run Unit := do
  Setting.settle
  modify ({ · with line := 1 })

/-- Do what the arguments say: run a command, a file, or what is read from the standard input. -/
def followArguments (evaluator : Evaluator) (arguments : List Bytes) : Run Unit := do
  let rest ← Setting.readAll true arguments
  let readsInput : Run Unit := do
    begin
    let _ ← Script.runDescriptor evaluator 0
  if rest.arguments.isEmpty then
    if rest.takesCommand then faultOf "-c requires an argument"
    Setting.change 's' true
  if (← isOn 'i') then Setting.change 'm' true
  if rest.takesCommand then
    rename (rest.arguments.drop 1)
    begin
    let _ ← evaluator.text (rest.arguments.headD []) {}
    if (← isOn 's') then readsInput
  else if (← isOn 's') then
    modify ({ · with parameters := rest.arguments })
    readsInput
  else
    let descriptor ← Builtin.openScript (rest.arguments.headD [])
    rename rest.arguments
    begin
    let _ ← Script.runDescriptor evaluator descriptor

/-- The shell as a program. -/
def program (evaluator : Evaluator) (arguments environment : List Bytes) : Program Unit := do
  let process ← Program.self
  let known ← Program.look fun process kernel => (kernel.process? process).getD default
  let shell : State := {
    process
    mainProcess := process
    name := arguments.headD []
    vars := initialVariables
    ignoredAtStart := known.ignored
    line := 0 }
  let body : Run Unit := toEnd evaluator do
    setUp known.parent environment
    followArguments evaluator (arguments.drop 1)
  fun _ _ => body shell fun _ shell => .finish (.exited (shell.status % 256))

end Relocation.Shell.Start
