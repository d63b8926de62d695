import Relocation.Shell.Builtin.Options
import Relocation.Shell.Redirection
import Relocation.Shell.Script

/-!
# Builtins that direct the course of commands
-/

namespace Relocation.Shell.Builtin

open Machine (Program)

/-- Leave loops, the last of which is continued if `continues` holds. Outside of loops nothing
happens. -/
def leaveLoops (continues : Bool) (arguments : List Bytes) : Run Nat := do
  let levels ← match arguments with
    | [] => pure 1
    | word :: _ => do
      let levels ← natural word
      if levels = 0 then illegalNumber word
      pure levels
  modify fun shell =>
    let levels := min levels shell.loopDepth
    if levels = 0 then shell
    else { shell with skip := if continues then .toContinue else .toBreak, skipCount := levels }
  return 0

/-- Exit, by default with the status of the last command before any action for a signal. -/
def exit (arguments : List Bytes) : Run Nat := do
  match arguments with
  | [] => pure ()
  | word :: _ =>
    let status ← natural word
    modify ({ · with savedStatus? := some status })
  throw .exit

/-- Return from a function or a file. -/
def returnFrom (arguments : List Bytes) : Run Nat := do
  match arguments with
  | [] =>
    modify ({ · with skip := .toEnd })
    return (← get).status
  | word :: _ =>
    let status ← natural word
    modify ({ · with skip := .toReturn })
    return status

/-- Run the commands that the arguments make together. -/
def eval (evaluator : Evaluator) (mode : Mode) (arguments : List Bytes) : Run Nat := do
  if arguments.isEmpty then return 0
  else evaluator.text ([32].intercalate arguments) { isTested := mode.isTested }

/-- The path of a file that is run as a part of the shell. -/
def findScript (name : Bytes) : Run Bytes := do
  if name.contains Machine.slashByte then return name
  let path ← Search.path
  let found? ← (Program.look fun process kernel =>
    (Search.candidates path name).find? fun path =>
      match kernel.facts process path with
      | .ok facts => facts.kind = .regular
      | .error _ => false : Program (Option Bytes))
  match found? with
  | some path => return path
  | none => faultAbout name "not found"

/-- Open a script for a shell and give its descriptor, which is out of the way of the commands. -/
def openScript (path : Bytes) : Run Nat := do
  let descriptor ← Redirection.openPath path { reads := true }
  match ← (Redirection.setAside descriptor : Program _) with
  | .moved other => return other
  | _ => return descriptor

/-- Run the commands of a file. -/
def dot (evaluator : Evaluator) (arguments : List Bytes) : Run Nat := do
  match ← operands arguments with
  | [] => return 0
  | name :: _ =>
    let path ← findScript name
    let descriptor ← openScript path
    modify ({ · with builtin? := some path })
    let result ← Run.observe (Script.runDescriptor evaluator descriptor)
    Program.close descriptor
    Run.resume result

/-- Run a program in place of the shell. Without arguments only the redirections count. -/
def exec (evaluator : Evaluator) (arguments : List Bytes) : Run Nat := do
  if arguments.isEmpty then return 0
  else Search.become evaluator (← Search.path) 0 arguments

/-- Print the times that processes used. -/
def times : Run Nat := do
  print (Bytes.ofString "0m0.000000s 0m0.000000s\n0m0.000000s 0m0.000000s\n")
  return 0

end Relocation.Shell.Builtin
