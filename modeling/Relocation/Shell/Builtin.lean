import Relocation.Shell.Builtin.Control
import Relocation.Shell.Builtin.Directory
import Relocation.Shell.Builtin.Input
import Relocation.Shell.Builtin.Names
import Relocation.Shell.Builtin.Permissions
import Relocation.Shell.Builtin.Processes
import Relocation.Shell.Builtin.Signals
import Relocation.Shell.Builtin.Variables
import Relocation.Shell.Condition
import Relocation.Shell.Format

/-!
# The commands of the shell itself

Builtins run in the process of the shell. An error in a special builtin ends the shell,
and variables that are set for one keep their values.
-/

namespace Relocation.Shell.Builtin

/-- Evaluate a condition whose last word closes the bracket. -/
def bracket (arguments : List Bytes) : Run Nat := do
  if (arguments.getLast?.bind (·.head?)) = some 93 then Condition.status arguments.dropLast
  else faultOf "missing ]"

/-- Write formatted arguments. -/
def printf (arguments : List Bytes) : Run Nat := do
  match ← operands arguments with
  | format :: arguments =>
    let result := Format.printf format arguments
    print result.output
    for complaint in result.complaints do
      complain complaint
    match result.failure? with
    | some message => fault message
    | none => return if result.complaints.isEmpty then 0 else 1
  | [] => faultOf "usage: printf format [arg ...]"

/-- Write the arguments. -/
def echo (arguments : List Bytes) : Run Nat := do
  print (Format.echo arguments)
  return 0

/-- Run a builtin by its name. -/
def run (evaluator : Evaluator) (name : Bytes) (mode : Mode) (arguments : List Bytes) : Run Nat :=
  match String.ofList (name.map fun byte => Char.ofNat byte.toNat) with
  | "." => dot evaluator arguments
  | ":" => return 0
  | "[" => bracket arguments
  | "alias" => defineAliases arguments
  | "bg" => moveJob arguments
  | "break" => leaveLoops false arguments
  | "cd" => cd arguments
  | "chdir" => cd arguments
  | "command" => lookUp arguments
  | "continue" => leaveLoops true arguments
  | "echo" => echo arguments
  | "eval" => eval evaluator mode arguments
  | "exec" => exec evaluator arguments
  | "exit" => exit arguments
  | "export" => declare "export" true arguments
  | "false" => return 1
  | "fg" => moveJob arguments
  | "getopts" => getopts arguments
  | "hash" => hash arguments
  | "jobs" => listJobs arguments
  | "kill" => kill arguments
  | "local" => makeLocal arguments
  | "printf" => printf arguments
  | "pwd" => pwd arguments
  | "read" => read arguments
  | "readonly" => declare "readonly" false arguments
  | "return" => returnFrom arguments
  | "set" => setParameters arguments
  | "shift" => shift arguments
  | "test" => Condition.status arguments
  | "times" => times
  | "trap" => trap arguments
  | "type" => explainAll arguments
  | "ulimit" => ulimit arguments
  | "umask" => umask arguments
  | "unalias" => removeAliases arguments
  | "unset" => unset arguments
  | "wait" => wait arguments
  | _ => return 0

end Relocation.Shell.Builtin
