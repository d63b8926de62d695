import Relocation.Launch

/-!
# One run of the program

The launcher stops itself before it looks at anything, so that a supervisor can arrange
its surroundings. Once it is continued it has its command line read, starts logging,
launches the command, and exits with the command's status. A failure is reported in
one message, whatever the log admits. How a command line is read, what a filter stands
for and how errors are worded is up to the libraries of the program.
-/

namespace Relocation

/-- The name of the program. -/
def programName : String := "ns-relocate"

namespace Invocation

/-- What a command line asks for. -/
structure Options where
  target? : Option String
  command? : Option String
  selection : Namespace.Selection
  importsEnvironment : Bool
  isVerbose : Bool
  deriving DecidableEq, Repr

/-- The end of a program that is stopped by the reading of its command line: the exit status and
what is written to the standard output and error. -/
structure Stop where
  status : UInt8
  output : String
  errors : String
  deriving DecidableEq, Repr

/-- What the libraries of the program do for it. -/
structure Libraries where
  /-- How errors are worded. -/
  words : Wording
  /-- Read a command line or stop the program. -/
  parse : List String → Except Stop Options
  /-- The filter of the log that a text stands for. -/
  filter : String → Filter

/-- The environment variable that says which records are written. -/
def filterName : Bytes := Bytes.ofString "RUST_LOG"

/-- The text for the filter of the log that an environment has. -/
def filterText? (environment : Environment.Variables) : Option String :=
  (environment.get? filterName).bind fun value =>
    let text := Utf8.textLossy value
    if Bytes.ofString text = value then some text else none

/-- The text for the filter of the log: that of the environment, or else one that depends on whether
more is to be said. -/
def filterText (environment : Environment.Variables) (isVerbose : Bool) : String :=
  (filterText? environment).getD (if isVerbose then "debug" else "warn")

/-- Stop until a supervisor continues the launcher. -/
def pause : Session Unit := do
  match ← Session.call .pause with
  | .ok () => Session.record .paused
  | .error error => Session.fail (.pause error)

/-- Launch the command that a command line asks for and give the exit status. -/
def follow (libraries : Libraries) (options : Options) : Session UInt8 := do
  let environment ← Session.environment
  Session.startLogging (libraries.filter (filterText environment options.isVerbose))
  let request ← Session.ofExcept
    (Request.ofTexts options.target? (options.command?.map Bytes.ofString) options.selection
      options.importsEnvironment)
  Session.record
    (if request.selection.isEmpty then .staying
      else .relocating request.selection request.target)
  let status ← launch request
  let code := status.exitStatus
  Session.record (.exited code)
  return code

/-- How a run of the program ends when nothing fails. -/
inductive Ending where
  /-- A command was launched. -/
  | launched (code : UInt8)
  /-- The program was stopped when its command line was read. -/
  | stopped (stop : Stop)
  deriving DecidableEq

/-- A run of the program with its arguments. -/
def session (libraries : Libraries) (arguments : List String) : Session Ending := do
  pause
  match libraries.parse arguments with
  | .error stop => return .stopped stop
  | .ok options => return .launched (← follow libraries options)

/-- The exit status of a run. -/
def exitStatus : Except Failure Ending → UInt8
  | .ok (.launched code) => code
  | .ok (.stopped stop) => stop.status
  | .error failure => failure.exitStatus

/-- What is written to the standard output when a run is over. -/
def outputText : Except Failure Ending → String
  | .ok (.stopped stop) => stop.output
  | _ => ""

/-- A line of diagnostics. -/
def line (text : String) : String :=
  programName ++ ": " ++ text ++ "\n"

/-- What is written to the standard error when a run is over. -/
def closingText (words : Wording) : Except Failure Ending → String
  | .ok (.launched _) => ""
  | .ok (.stopped stop) => stop.errors
  | .error failure => line (failure.messageIn words)

end Invocation

end Relocation
