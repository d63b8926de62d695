import Relocation.Invocation

/-!
# The command line

Flags are turned on, options take a value, and each may be given once. A short name can
be joined with others and with the value of the last one; a long name is joined with a
value by an equals sign. There are no other arguments, and help and version are
given as soon as they are asked for, whatever follows.
-/

namespace Relocation

/-- The version of the program. -/
def programVersion : String := "0.1.0"

namespace CommandLine

open Invocation (Options Stop)

/-! ### Names -/

/-- What can be turned on. -/
inductive Flag where
  | env
  | help
  | ipc
  | mount
  | net
  | pid
  | uts
  | version
  | verbose
  deriving DecidableEq, Repr

/-- What takes a value. -/
inductive Valued where
  | command
  | target
  deriving DecidableEq, Repr

/-- A flag or an option. -/
inductive Argument where
  | flag (flag : Flag)
  | valued (option : Valued)
  deriving DecidableEq, Repr

/-- The short name, the long name and the description of a flag. -/
def Flag.names : Flag → Char × String × String
  | .env => ('e', "env", "import environment variables of the target")
  | .help => ('h', "help", "Prints help information")
  | .ipc => ('i', "ipc", "join IPC namespace")
  | .mount => ('m', "mount", "join mount namespace")
  | .net => ('n', "net", "join network namespace")
  | .pid => ('p', "pid", "join PID namespace")
  | .uts => ('u', "uts", "join UTS namespace")
  | .version => ('V', "version", "Prints version information")
  | .verbose => ('v', "verbose", "verbose operation")

/-- The short name, the long name and the description of an option. -/
def Valued.names : Valued → Char × String × String
  | .command => ('c', "command", "Base64 encoded shell command to run")
  | .target => ('t', "target", "PID of the process whose namespaces are joined")

/-- What the value of an option is called. -/
def Valued.valueName : Valued → String
  | .command => "BASE64"
  | .target => "PID"

/-- All flags in the order in which help lists them. -/
def Flag.all : List Flag := [.env, .help, .ipc, .mount, .net, .pid, .uts, .version, .verbose]

/-- All options in the order in which help lists them. -/
def Valued.all : List Valued := [.command, .target]

/-- Everything that has names. -/
def Argument.all : List Argument := Flag.all.map .flag ++ Valued.all.map .valued

/-- The short name, the long name and the description of a flag or an option. -/
def Argument.names : Argument → Char × String × String
  | .flag name => name.names
  | .valued name => name.names

/-- The flag or option with a short name. -/
def Argument.ofShort? (name : Char) : Option Argument :=
  Argument.all.find? (·.names.1 = name)

/-- The flag or option with a long name. -/
def Argument.ofLong? (name : List Char) : Option Argument :=
  Argument.all.find? (·.names.2.1.toList = name)

/-- A flag or an option as it is written out in full. -/
def Argument.written : Argument → String
  | .flag name => "--" ++ name.names.2.1
  | .valued name => "--" ++ name.names.2.1 ++ " <" ++ name.valueName ++ ">"

/-! ### Reading -/

/-- What is wrong with a command line. -/
inductive Misuse where
  /-- An argument is neither a flag nor an option nor the value of one. -/
  | unknown (argument : String)
  /-- An option has no value. -/
  | missingValue (option : Valued)
  /-- A flag or an option is given more than once. -/
  | repeated (argument : Argument)
  deriving DecidableEq, Repr

/-- Why reading a command line comes to an end. -/
inductive Halt where
  | help
  | version
  | misuse (misuse : Misuse)
  deriving DecidableEq, Repr

/-- Where reading stands: the flags and options so far, the last one first, the values of the
options, the option whose value is still to come, and whether the names have ended. -/
structure Reader where
  given : List Argument := []
  values : List (Valued × String) := []
  awaiting? : Option Valued := none
  hasEnded : Bool := false
  deriving Repr

namespace Reader

/-- Turn a flag on. -/
def addFlag (reader : Reader) : Flag → Except Halt Reader
  | .help => .error .help
  | .version => .error .version
  | flag => .ok { reader with given := .flag flag :: reader.given, awaiting? := none }

/-- Take an option, with its value if it is joined with one. Equals signs at the start of the value
do not belong to it. -/
def addValued (reader : Reader) (option : Valued) (value? : Option (List Char)) : Reader :=
  let given := .valued option :: reader.given
  match value? with
  | some value =>
    let value := String.ofList (value.dropWhile (· = '='))
    { reader with given := given, values := (option, value) :: reader.values, awaiting? := none }
  | none => { reader with given := given, awaiting? := some option }

/-- Read a long name, perhaps with a value behind an equals sign. A flag ignores its value. -/
def long (reader : Reader) (argument : String) : Except Halt Reader :=
  let body := argument.toList.dropWhile (· = '-')
  let name := body.takeWhile (· ≠ '=')
  let value? := (body.dropWhile (· ≠ '=')).tail?
  match Argument.ofLong? name with
  | some (.flag flag) => reader.addFlag flag
  | some (.valued option) => .ok (reader.addValued option value?)
  | none => .error (.misuse (.unknown argument))

/-- Read joined short names. What follows the name of an option is its value. -/
def shorts (reader : Reader) : List Char → Except Halt Reader
  | [] => .ok reader
  | c :: rest =>
    match Argument.ofShort? c with
    | some (.flag flag) => do shorts (← reader.addFlag flag) rest
    | some (.valued option) =>
      .ok (reader.addValued option (if rest.isEmpty then none else some rest))
    | none => .error (.misuse (.unknown ("-" ++ String.singleton c)))

/-- Read an argument. A single hyphen is never a name, and two hyphens end the names. -/
def step (reader : Reader) (argument : String) : Except Halt Reader :=
  if reader.hasEnded then .error (.misuse (.unknown argument))
  else match argument.toList with
    | ['-', '-'] => .ok { reader with hasEnded := true }
    | '-' :: '-' :: _ => reader.long argument
    | '-' :: c :: rest => reader.shorts (c :: rest)
    | _ =>
      match reader.awaiting? with
      | some option =>
        .ok { reader with values := (option, argument) :: reader.values, awaiting? := none }
      | none => .error (.misuse (.unknown argument))

/-- The value of an option. -/
def value? (reader : Reader) (option : Valued) : Option String :=
  reader.values.lookup option

/-- Whether a flag is on. -/
def has (reader : Reader) (flag : Flag) : Bool :=
  reader.given.contains (.flag flag)

end Reader

/-- The first option that was given without a value. -/
def Reader.bare? (reader : Reader) : Option Valued :=
  Valued.all.find? fun option =>
    reader.given.contains (.valued option) && (reader.value? option).isNone

/-- The first flag or option that was given more than once. -/
def Reader.repeated? (reader : Reader) : Option Argument :=
  Argument.all.find? fun argument => decide (1 < reader.given.count argument)

/-- What a command line asks for once it is read. -/
def Reader.options (reader : Reader) : Except Halt Options :=
  match reader.bare?, reader.repeated? with
  | some option, _ => .error (.misuse (.missingValue option))
  | none, some argument => .error (.misuse (.repeated argument))
  | none, none =>
    .ok {
      target? := reader.value? .target
      command? := reader.value? .command
      selection := {
        ipc := reader.has .ipc
        uts := reader.has .uts
        net := reader.has .net
        pid := reader.has .pid
        mnt := reader.has .mount }
      importsEnvironment := reader.has .env
      isVerbose := reader.has .verbose }

/-- Read the arguments of a command line. -/
def read (arguments : List String) : Except Halt Options := do
  (← arguments.foldlM Reader.step {}).options

/-! ### Texts -/

/-- The name and the version of the program. -/
def versionText : String :=
  programName ++ " " ++ programVersion ++ "\n"

/-- How the program is called. -/
def usageText : String :=
  "USAGE:\n    " ++ programName ++ " [FLAGS] [OPTIONS]\n"

/-- The lines that describe flags or options, with the descriptions below each other. -/
def describe (arguments : List Argument) : String :=
  let width := arguments.foldl (fun width argument => max width argument.written.length) 0
  String.join (arguments.map fun argument =>
    let spaces := List.replicate (width + 4 - argument.written.length) ' '
    "    -" ++ String.singleton argument.names.1 ++ ", " ++ argument.written ++
      String.ofList spaces ++ argument.names.2.2 ++ "\n")

/-- The help of the program. -/
def helpText : String :=
  versionText ++ "Run a command in the environment and namespaces of another process\n\n" ++
    usageText ++ "\nFLAGS:\n" ++ describe (Flag.all.map .flag) ++ "\nOPTIONS:\n" ++
      describe (Valued.all.map .valued)

/-- A misuse in words. -/
def Misuse.message : Misuse → String
  | .unknown argument =>
    "Found argument '" ++ argument ++ "' which wasn't expected, or isn't valid in this context"
  | .missingValue option =>
    "The argument '" ++ (Argument.valued option).written ++
      "' requires a value but none was supplied"
  | .repeated argument =>
    "The argument '" ++ argument.written ++
      "' was provided more than once, but cannot be used multiple times"

/-- How the program ends when reading its command line comes to an end. -/
def Halt.stop : Halt → Stop
  | .help => { status := 0, output := helpText, errors := "" }
  | .version => { status := 0, output := versionText, errors := "" }
  | .misuse fault =>
    { status := 1
      output := ""
      errors := "error: " ++ fault.message ++ "\n\n" ++ usageText ++
        "\nFor more information try --help\n" }

/-- Read a command line. -/
def parse (arguments : List String) : Except Stop Options :=
  (read arguments).mapError Halt.stop

end CommandLine

end Relocation
