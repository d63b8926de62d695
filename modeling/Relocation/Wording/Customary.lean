import Relocation.Errno.Text
import Relocation.Failure
import Relocation.Log

/-!
# The customary wording

The texts that the libraries give on a common system. An error of the kernel is shown by
the texts of its number, a word by the names of its flags, and a status by the code or
the signal that it holds.
-/

namespace Relocation

/-- An error of an operation on a file or a new process in words. -/
def IoError.text : IoError → String
  | .kernel errno => errno.libraryText ++ " (os error " ++ Decimal.ofInt errno.number ++ ")"
  | .outOfMemory => "out of memory"
  | .nulInPath => "file name contained an unexpected NUL byte"
  | .nulInArgument => "nul byte found in provided data"

/-- An error of a system call in words. -/
def CallError.text : CallError → String
  | .kernel errno => errno.symbol ++ ": " ++ errno.headerText
  | .invalidPath => "Invalid path"
  | .invalidUtf8 => "Invalid UTF-8 string"
  | .unsupported => "Unsupported Operation"

namespace WaitStatus

/-- Whether the killed process left a core image. -/
def dumpedCore (status : WaitStatus) : Bool :=
  status.bits &&& 0x80 ≠ 0

/-- A signal with its name in parentheses, if it has one. -/
def signalText (signal : Signal) : String :=
  Decimal.ofNat signal ++
    match signal.name? with
    | some name => " (SIG" ++ name ++ ")"
    | none => ""

/-- The lower-case hexadecimal digits of a number, without leading zeros. -/
def hexDigits (n : Nat) : List Char :=
  if n < 16 then [Decimal.digitChar n] else hexDigits (n / 16) ++ [Decimal.digitChar (n % 16)]

/-- A status in words. -/
def text (status : WaitStatus) : String :=
  match status.code?, status.signal? with
  | some code, _ => "exit status: " ++ Decimal.ofNat code.toNat
  | none, some signal =>
    "signal: " ++ signalText signal ++ if status.dumpedCore then " (core dumped)" else ""
  | none, none =>
    if status.bits &&& 0xff = 0x7f then
      "stopped (not terminated) by signal: " ++ signalText (status.bits >>> 8).toUInt8.toNat
    else if status.bits = 0xffff then "continued (WIFCONTINUED)"
    else
      "unrecognised wait status: " ++ Decimal.ofInt status.bits.toInt32.toInt ++ " 0x" ++
        String.ofList (hexDigits status.bits.toNat)

end WaitStatus

namespace Namespace

/-- The names of the flags, in the order in which a word is shown. -/
def flagNames : List (Kind × String) :=
  [(.mnt, "CLONE_NEWNS"), (.uts, "CLONE_NEWUTS"), (.ipc, "CLONE_NEWIPC"), (.pid, "CLONE_NEWPID"),
    (.net, "CLONE_NEWNET")]

/-- The names of the flags in a word with bars between them. -/
def flagsText (word : UInt32) : String :=
  match flagNames.filter (fun (kind, _) => word &&& kind.flag ≠ 0) with
  | [] => "(empty)"
  | shown => " | ".intercalate (shown.map (·.2))

end Namespace

/-- The texts that the libraries give. -/
def Wording.customary : Wording where
  io := IoError.text
  call := CallError.text
  flags := Namespace.flagsText
  status := WaitStatus.text

/-- A selection as diagnostics show it. -/
def Namespace.Selection.text (selection : Namespace.Selection) : String :=
  selection.textIn .customary

/-- A failure in words. -/
def Failure.message (failure : Failure) : String :=
  failure.messageIn .customary

/-- The text of the error below a failure, if there is one. -/
def Failure.cause? (failure : Failure) : Option String :=
  failure.causeIn? .customary

/-- A record as one line of the log. -/
def Record.line (record : Record) : String :=
  record.lineIn .customary

end Relocation
