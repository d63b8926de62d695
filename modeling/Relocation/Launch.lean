import Relocation.Environment.Import
import Relocation.Namespace.Entry

/-!
# Launching a command

A launch imports the target's environment if that is asked for, enters the selected
namespaces in their order, decodes the command, and hands it to the shell. It stops
at the first failure. The launcher's own environment is never changed: imported
variables are set in the environment of the shell alone.
-/

namespace Relocation

/-- What is to be launched and where. -/
structure Request where
  target : Target
  encodedCommand : Bytes
  selection : Namespace.Selection
  importsEnvironment : Bool
  deriving DecidableEq

namespace Request

/-- Make a request from the texts of the command line. The target is checked before the command,
and a target that is not given is read as `0`, which is no process. -/
def ofTexts (target? : Option String) (command? : Option Bytes) (selection : Namespace.Selection)
    (importsEnvironment : Bool) : Except Failure Request := do
  let target ← (Target.parse (target?.getD "0")).mapError .invalidTarget
  match command? with
  | some command =>
    if command.isEmpty then throw .missingCommand
    return { target, encodedCommand := command, selection, importsEnvironment }
  | none => throw .missingCommand

end Request

/-- Decode an encoded command into memory that is reserved first, even if the text is found not to
be decodable afterwards. -/
def decodeCommand (reserves : Nat → Bool) (encoded : Bytes) : Except Failure Bytes :=
  let size := Base64.capacity encoded.length
  if reserves size then (Base64.decode encoded).mapError .encoding
  else .error (.allocation size)

/-- The shell with a command to run, in an environment. -/
def shellImage (command : Bytes) (environment : Environment.Variables) : ProcessImage where
  program := Bytes.ofString shellPath
  arguments := [Bytes.ofString "-c", command]
  environment := environment

/-- Run a command in the shell with variables set on top of the inherited environment, and wait
for its end. -/
def execute (command : Bytes) (overlay : Environment.Overlay) : Session WaitStatus := do
  let inherited ← Session.environment
  match ← Session.call (.spawn (shellImage command (overlay.apply inherited))) with
  | .ok status => return status
  | .error error => Session.fail (.spawn error)

/-- The variables that a request sets: those of the target if they are to be imported. -/
def importEnvironment (request : Request) : Session Environment.Overlay := do
  if request.importsEnvironment then
    let overlay ← Environment.importFrom request.target
    if overlay.isEmpty then Session.record (.emptyEnvironment request.target)
    Session.record (.environmentImported overlay.length)
    return overlay
  else
    return .empty

/-- Enter the namespaces of a target one after the other. -/
def enterAll (target : Target) : List Namespace.Kind → Session Unit
  | [] => return
  | kind :: rest => do
    let _ ← Namespace.enter target kind
    enterAll target rest

/-- The decoded command of a request, which a zero byte would end early. -/
def commandOf (request : Request) : Session Bytes := do
  let command ← Session.ofExcept (decodeCommand (← Session.reserves) request.encodedCommand)
  if command.hasNul then Session.fail .embeddedNul
  else return command

/-- Launch the command of a request and give the status with which the shell ended. -/
def launch (request : Request) : Session WaitStatus := do
  let overlay ← importEnvironment request
  enterAll request.target request.selection.kinds
  Session.record .namespacesJoined
  let command ← commandOf request
  Session.record (.commandDecoded command.length)
  let status ← execute command overlay
  Session.record (.executed status)
  return status

end Relocation
