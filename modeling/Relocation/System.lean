import Relocation.Environment.Reading
import Relocation.Environment.Variables
import Relocation.Failure
import Relocation.Log

/-!
# Talking to the operating system

A launch is a sequence of calls to the operating system and of records in the log. A
system answers each call as it likes, knowing everything that happened before, and a
session is what a launch does against any system: the calls and records it makes in
order, and the result or the failure it ends with. Sessions never take anything back,
so what happened before a failure has happened.
-/

namespace Relocation

/-- A handle of an open file. -/
structure Descriptor where
  number : Nat
  deriving DecidableEq, Repr

/-- A new process: the program, its arguments and its whole environment. -/
structure ProcessImage where
  program : Bytes
  arguments : List Bytes
  environment : Environment.Variables
  deriving DecidableEq

/-- Whether an argument or an environment entry of a new process holds a zero byte. -/
def ProcessImage.hasNul (image : ProcessImage) : Bool :=
  image.arguments.any Bytes.hasNul ||
    image.environment.entries.any fun (key, value) => key.hasNul || value.hasNul

/-- A call to the operating system. -/
inductive Call where
  /-- Stop until a supervisor continues the process. -/
  | pause
  /-- Open a file for reading. -/
  | openFile (path : Bytes)
  /-- Read at most `most` bytes of an open file, behind those that were read before. -/
  | read (file : Descriptor) (most : Nat)
  /-- Ask for the inode number of the file that a path leads to. -/
  | inode (path : Bytes)
  /-- Enter the namespace behind an open handle, which has to be of the kind of the flag. -/
  | enterNamespace (file : Descriptor) (flag : UInt32)
  /-- Ask whether the capability to enter namespaces is effective. A failure comes with its reason
  in words. -/
  | holdsCapability
  /-- Set a variable in the launcher's own environment. -/
  | setVariable (key value : Bytes)
  /-- Start a process and wait for its end. -/
  | spawn (image : ProcessImage)
  deriving DecidableEq

/-- What the operating system answers to a call. -/
abbrev Call.Reply : Call → Type
  | .pause => Except CallError Unit
  | .openFile _ => Except IoError Descriptor
  | .read _ most => Environment.Reading most
  | .inode _ => Except IoError Nat
  | .enterNamespace _ _ => Except CallError Unit
  | .holdsCapability => Except String Bool
  | .setVariable _ _ => Unit
  | .spawn _ => Except IoError WaitStatus

/-- What a call makes of the launcher's own environment. -/
def Call.update (environment : Environment.Variables) : Call → Environment.Variables
  | .setVariable key value => environment.insert key value
  | _ => environment

/-- Something that happened: a call with its answer, a record in the log, or the start of logging,
before which records are lost. -/
inductive Event where
  | called (call : Call) (reply : call.Reply)
  | recorded (record : Record)
  | logging (filter : Filter)

/-- Everything that happened, in order. -/
abbrev History := List Event

namespace History

/-- The calls of a history. -/
def calls (history : History) : List Call :=
  history.filterMap fun
    | .called call _ => some call
    | _ => none

/-- The records of a history, written or not. -/
def records (history : History) : List Record :=
  history.filterMap fun
    | .recorded record => some record
    | _ => none

/-- The bytes that the reads of a file gave in a history. -/
def bytesRead (file : Descriptor) (history : History) : Bytes :=
  history.flatMap fun
    | .called (.read other _) reading => if other = file then reading.piece.bytes else []
    | _ => []

/-- What a history made of the environment that the launcher inherited. -/
def environment (inherited : Environment.Variables) (history : History) : Environment.Variables :=
  history.calls.foldl Call.update inherited

/-- The records of a history that are written when records are admitted by `filter` at its start. -/
def writtenFrom (filter : Filter) : History → List Record
  | [] => []
  | .called _ _ :: rest => writtenFrom filter rest
  | .recorded record :: rest =>
    if filter.admits record then record :: writtenFrom filter rest
    else writtenFrom filter rest
  | .logging filter :: rest => writtenFrom filter rest

/-- The records of a history that are written. Nothing is until logging starts. -/
def written (history : History) : List Record :=
  history.writtenFrom .off

end History

/-- An operating system: how it answers a call after a history, whether it has memory for so many
bytes, and the environment that it gave the launcher at the start. -/
structure System where
  reply : History → (call : Call) → call.Reply
  reserves : History → Nat → Bool
  environment : Environment.Variables

/-- A part of a launch: against a system and after a history, it ends with a result or a failure
and adds events to the history. -/
def Session (α : Type) : Type :=
  System → History → Except Failure α × History

namespace Session

variable {α β : Type}

/-- Do nothing. -/
protected def pure (a : α) : Session α := fun _ _ => (.ok a, [])

/-- Do one part after another, unless the first one fails. -/
protected def bind (first : Session α) (next : α → Session β) : Session β := fun system past =>
  match first system past with
  | (.error failure, events) => (.error failure, events)
  | (.ok a, events) =>
    let (result, more) := next a system (past ++ events)
    (result, events ++ more)

instance : Monad Session where
  pure := Session.pure
  bind := Session.bind

/-- End with a failure. -/
def fail (failure : Failure) : Session α := fun _ _ => (.error failure, [])

/-- Go on with a result or end with a failure. -/
def ofExcept (result : Except Failure α) : Session α := fun _ _ => (result, [])

/-- Make a call. -/
def call (call : Call) : Session call.Reply := fun system past =>
  let reply := system.reply past call
  (.ok reply, [.called call reply])

/-- Write a record. -/
def record (record : Record) : Session Unit := fun _ _ => (.ok (), [.recorded record])

/-- Start logging. -/
def startLogging (filter : Filter) : Session Unit := fun _ _ =>
  (.ok (), [.logging filter])

/-- Which sizes of memory can be had now. -/
def reserves : Session (Nat → Bool) := fun system past => (.ok (system.reserves past), [])

/-- The environment of the launcher: what it inherited, with the variables that it set. -/
def environment : Session Environment.Variables := fun system past =>
  (.ok (past.environment system.environment), [])

/-- Run a session from the beginning. -/
def run (session : Session α) (system : System) : Except Failure α × History :=
  session system []

end Session

end Relocation
