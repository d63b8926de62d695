import Relocation.Errno
import Relocation.WaitStatus

/-!
# What libraries put in words

The launcher words its own failures and records. What it takes over from libraries, it
shows as they word it: the errors of operations, the flags in a word, and how a process
ended. How they do that is left open.
-/

namespace Relocation

/-- Why an operation on a file or a new process failed. -/
inductive IoError where
  | kernel (errno : Errno)
  /-- There was no memory for the result. -/
  | outOfMemory
  /-- A path holds a zero byte. -/
  | nulInPath
  /-- An argument or an environment entry of a new process holds a zero byte. -/
  | nulInArgument
  deriving DecidableEq, Repr

/-- Why a system call that the launcher makes itself failed. -/
inductive CallError where
  | kernel (errno : Errno)
  | invalidPath
  | invalidUtf8
  | unsupported
  deriving DecidableEq, Repr

/-- How libraries put in words what the launcher takes over from them. -/
structure Wording where
  /-- An error of an operation on a file or a new process. -/
  io : IoError → String
  /-- An error of a system call. -/
  call : CallError → String
  /-- The flags in a word. -/
  flags : UInt32 → String
  /-- The end of a process. -/
  status : WaitStatus → String

end Relocation
