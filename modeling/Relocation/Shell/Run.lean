import Relocation.Shell.State

/-!
# What a shell does

A shell is a program with a state of its own. What it does can be interrupted: by an
error, or by an order to exit. An interrupt is passed on until something catches it.
-/

namespace Relocation.Shell

open Machine (Kernel Program Thread)

/-- Why the course of commands is broken off. -/
inductive Interrupt where
  /-- An error was reported. -/
  | error
  /-- The shell was told to exit. -/
  | exit
  /-- The shell has come to its end. -/
  | ended
  deriving DecidableEq, Repr

/-- Something that a shell does, which passes its result and the state of the shell to what
follows. -/
def Run (α : Type) : Type := State → (next : Except Interrupt α → State → Thread) → Thread

namespace Run

variable {α β : Type}

/-- Give a value without doing anything. -/
@[always_inline, inline] protected def pure (a : α) : Run α := fun shell next => next (.ok a) shell

/-- Do one thing after another, unless the first one is interrupted. -/
@[always_inline, inline] protected def bind (first : Run α) (second : α → Run β) : Run β :=
  fun shell next => first shell fun result shell =>
    match result with
    | .ok a => second a shell next
    | .error interrupt => next (.error interrupt) shell

instance : Monad Run where
  pure := Run.pure
  bind := Run.bind

instance : MonadStateOf State Run where
  get := fun shell next => next (.ok shell) shell
  set shell := fun _ next => next (.ok ()) shell
  modifyGet change := fun shell next =>
    let (a, shell) := change shell
    next (.ok a) shell

instance : MonadExceptOf Interrupt Run where
  throw interrupt := fun shell next => next (.error interrupt) shell
  tryCatch action handle := fun shell next => action shell fun result shell =>
    match result with
    | .ok a => next (.ok a) shell
    | .error interrupt => handle interrupt shell next

instance : MonadLift Program Run where
  monadLift program := fun shell next => program shell.process fun a => next (.ok a) shell

/-- Do something and catch any interrupt. -/
def observe (action : Run α) : Run (Except Interrupt α) := fun shell next =>
  action shell fun result shell => next (.ok result) shell

/-- Go on as something ended that was observed. -/
def resume : Except Interrupt α → Run α
  | .ok a => return a
  | .error interrupt => throw interrupt

/-- End the process. -/
def leave (status : Nat) : Run α := fun _ _ => .finish (.exited (status % 256))

/-- Start a process that goes on as a copy of the shell. It gives the ID of that process. -/
def fork (child : Run Unit) : Run Nat := fun shell next =>
  .fork
    (fun process => child { shell with process := process } fun _ shell =>
      .finish (.exited (shell.status % 256)))
    fun process => next (.ok process) shell

end Run

/-- Set the status that `$?` shows. -/
def setStatus (status : Nat) : Run Unit := modify fun shell => { shell with status := status }

/-! ### Output -/

/-- Write a text with the output of the builtin that is run. -/
def print (text : Bytes) : Run Unit :=
  if text.isEmpty then return
  else modify fun shell => { shell with output := text :: shell.output }

/-- Write a line with the output of the builtin that is run. -/
def printLine (line : Bytes) : Run Unit := print (line ++ [10])

/-- Write what builtins have written to the standard output. It gives whether that succeeded. -/
def flush : Run Bool := do
  let shell ← get
  if shell.output.isEmpty then return true
  set { shell with output := [] }
  match ← (Program.write 1 shell.output.reverse.flatten : Program _) with
  | .ok () => return true
  | .error _ => return false

/-- Report something on the standard error, with the name of the shell, the line, and the builtin
that is run. -/
def complain (message : Bytes) : Run Unit := do
  let shell ← get
  let builtin := match shell.builtin? with
    | some name => name ++ [58, 32]
    | none => []
  let line := Bytes.ofString (": " ++ Decimal.ofNat shell.line ++ ": ")
  let _ ← (Program.write 2 (shell.name ++ line ++ builtin ++ message ++ [10]) : Program _)

/-- Report something that is given as text. -/
def complainOf (message : String) : Run Unit := complain (Bytes.ofString message)

/-- The status after an error. -/
def errorStatus : Nat := 2

/-- Report an error and break off. -/
def fault {α : Type} (message : Bytes) : Run α := do
  complain message
  setStatus errorStatus
  throw .error

/-- Report an error that is given as text and break off. -/
def faultOf {α : Type} (message : String) : Run α := fault (Bytes.ofString message)

/-- Report an error about a thing and break off. -/
def faultAbout {α : Type} (subject : Bytes) (message : String) : Run α :=
  fault (subject ++ Bytes.ofString (": " ++ message))

/-! ### Options -/

/-- Whether an option is on. -/
def isOn (letter : Char) : Run Bool := return (← get).hasOption letter

/-! ### What a part of a shell can rely on -/

/-- Whether a failure of a command is being tested, and whether the shell ends with it. -/
structure Mode where
  isTested : Bool := false
  isLast : Bool := false
  deriving DecidableEq, Repr

/-- How commands are run in a shell, for the parts of a shell that commands are made of. -/
structure Evaluator where
  /-- Run a command and give its status. -/
  command : Command → Mode → Run Nat
  /-- Run the commands of a text and give the status of the last one. -/
  text : Bytes → Mode → Run Nat
  /-- Let the process become the program of a file, with arguments of which the first is its name,
  and an environment. It gives why it cannot. -/
  become : Bytes → List Bytes → List Bytes → Program Errno

end Relocation.Shell
