import Relocation.Machine.Naming
import Relocation.Machine.Thread

/-!
# Programs

A program is what a process does, written as a sequence of calls to the kernel. Each
call is one step of the thread of the process, and a call that has to wait is made again
until there is a reply.
-/

namespace Relocation.Machine

/-- A part of a program that gives a value to what follows it. It is told the ID of its process. -/
def Program (α : Type) : Type := (process : Nat) → (next : α → Thread) → Thread

namespace Program

variable {α β : Type}

/-- Give a value without doing anything. -/
@[always_inline, inline] protected def pure (a : α) : Program α := fun _ next => next a

/-- Do one part after another. -/
@[always_inline, inline] protected def bind (first : Program α) (second : α → Program β) :
    Program β :=
  fun process next => first process fun a => second a process next

instance : Monad Program where
  pure := Program.pure
  bind := Program.bind

/-- Give the ID of the process. -/
def self : Program Nat := fun process next => next process

/-- Make a call that may have to wait. -/
def await (attempt : Nat → Kernel → Option (α × Kernel)) : Program α := fun process next =>
  .step fun kernel => match attempt process kernel with
    | some (a, kernel) => some (kernel, next a)
    | none => none

/-- Make a call that never waits. -/
def call (change : Nat → Kernel → α × Kernel) : Program α := fun process next =>
  .step fun kernel =>
    let (a, kernel) := change process kernel
    some (kernel, next a)

/-- Change the kernel. -/
def modify (change : Nat → Kernel → Kernel) : Program Unit :=
  call fun process kernel => ((), change process kernel)

/-- Look at the kernel. -/
def look (view : Nat → Kernel → α) : Program α :=
  call fun process kernel => (view process kernel, kernel)

/-- Do nothing, as a step of its own, so that other processes get their turns. -/
def pause : Program Unit := modify fun _ kernel => kernel

/-- End the process. -/
def exit (status : Nat) : Program α := fun _ _ => .finish (.exited (status % 256))

/-- Start a process that runs another program and then ends. It gives the ID of that process. -/
def spawn (program : Program Unit) : Program Nat := fun _ next =>
  .fork (fun process => program process fun _ => .finish (.exited 0)) next

/-- How often something is repeated if nothing else ends it. -/
def unbounded : Nat := 1000000000000

/-! ### Files -/

/-- How many bytes are read at once. -/
def blockSize : Nat := 65536

/-- Read at most so many bytes from a descriptor. -/
def read (descriptor : Nat) (limit : Nat := blockSize) : Program (Except Errno Bytes) :=
  await fun process kernel => kernel.read process descriptor limit

/-- Write to a descriptor as many bytes as there is room for. A process that writes to a pipe which
nobody reads gets a signal. -/
def writeSome (descriptor : Nat) (bytes : Bytes) : Program (Except Errno Nat) :=
  await fun process kernel => match kernel.write process descriptor bytes with
    | some (.error errno, kernel) =>
      some (.error errno, if errno = .brokenPipe then kernel.signal process pipeSignal else kernel)
    | reply => reply

/-- Write bytes to a descriptor, in at most so many pieces. -/
def writePieces (descriptor : Nat) : Nat → Bytes → Program (Except Errno Unit)
  | 0, _ => return .ok ()
  | fuel + 1, bytes => do
    if bytes.isEmpty then return .ok ()
    match ← writeSome descriptor bytes with
    | .error errno => return .error errno
    | .ok count => writePieces descriptor fuel (bytes.drop count)

/-- Write bytes to a descriptor. -/
def write (descriptor : Nat) (bytes : Bytes) : Program (Except Errno Unit) :=
  writePieces descriptor (bytes.length + 1) bytes

/-- Open a file and give the number of the open file. -/
def openFile (path : Bytes) (mode : Mode) (bits : Nat := 0o666) : Program (Except Errno Nat) :=
  await fun process kernel => kernel.openFile process path mode bits

/-- Give the process a descriptor, no less than `least`, for an open file. -/
def addDescriptor (least file : Nat) (isPrivate : Bool := false) : Program Nat :=
  call fun process kernel => kernel.addDescriptor process least file isPrivate

/-- Open a file and give the least free descriptor for it. -/
def openPath (path : Bytes) (mode : Mode) (bits : Nat := 0o666) : Program (Except Errno Nat) := do
  match ← openFile path mode bits with
  | .error errno => return .error errno
  | .ok file => return .ok (← addDescriptor 0 file)

/-- Close a descriptor. -/
def close (descriptor : Nat) : Program Unit :=
  modify fun process kernel => kernel.setDescriptor process descriptor none

/-- Read a descriptor to its end, or up to a limit. The pieces read so far are kept in reverse. -/
def readPieces (descriptor limit : Nat) : Nat → List Bytes → Program (Except Errno Bytes)
  | 0, pieces => return .ok pieces.reverse.flatten
  | fuel + 1, pieces => do
    if limit = 0 then return .ok pieces.reverse.flatten
    match ← read descriptor (min limit blockSize) with
    | .error errno => return .error errno
    | .ok [] => return .ok pieces.reverse.flatten
    | .ok piece => readPieces descriptor (limit - piece.length) fuel (piece :: pieces)

/-- Move back in what is read from a descriptor, if that can be. -/
def moveBack (descriptor count : Nat) : Program Unit :=
  modify fun process kernel => kernel.moveBack process descriptor count

/-- Do something with each piece that is read from a descriptor, up to its end or an error. -/
def forPieces (descriptor : Nat) (action : Bytes → Program Unit) : Nat → Program (Option Errno)
  | 0 => return none
  | fuel + 1 => do
    match ← read descriptor with
    | .error errno => return some errno
    | .ok [] => return none
    | .ok piece =>
      action piece
      forPieces descriptor action fuel

/-- How much of a file without end is read. -/
def endlessLimit : Nat := 4 * 1024 * 1024

/-- Read a descriptor to its end. -/
def readAll (descriptor : Nat) : Program (Except Errno Bytes) :=
  readPieces descriptor endlessLimit unbounded []

/-- A call about a path that gives a value or fails. -/
def ask (query : Kernel → Nat → Except Errno α) : Program (Except Errno α) :=
  look fun process kernel => query kernel process

/-- A call that changes files or fails. -/
def request (change : Kernel → Nat → Reply Unit) : Program (Except Errno Unit) :=
  call fun process kernel => change kernel process

/-! ### Time -/

/-- Wait until a time has come. -/
def sleepUntil (time : Nat) : Program Unit := do
  modify fun process kernel => kernel.mapProcess process ({ · with wakes? := some time })
  await fun _ kernel => if kernel.now < time then none else some ((), kernel)
  modify fun process kernel => kernel.mapProcess process ({ · with wakes? := none })

/-- Wait for so many microseconds. -/
def sleep (duration : Nat) : Program Unit := do
  sleepUntil ((← look fun _ kernel => kernel.now) + duration)

end Program

end Relocation.Machine
