import Relocation.Machine.File
import Relocation.Signal

/-!
# The kernel of a machine

What all processes of a machine share: the files, the open files with their positions, the
pipes, the clock, and what is known about every process. Processes are told apart by
their IDs, and what a process can do is a change of this state.
-/

namespace Relocation.Machine

/-- What is behind an open file. -/
inductive Target where
  | file (place : Place)
  /-- The end of a pipe from which is read. -/
  | source (pipe : Nat)
  /-- The end of a pipe to which is written. -/
  | sink (pipe : Nat)
  deriving DecidableEq, Repr, Inhabited

/-- An open file, which several descriptors can share. -/
structure OpenFile where
  target : Target
  /-- Where the next byte is read or written. -/
  position : Nat := 0
  canRead : Bool := false
  canWrite : Bool := false
  /-- Whether everything is written at the end. -/
  appends : Bool := false
  /-- How many descriptors there are for it. -/
  users : Nat := 0
  deriving Inhabited

/-- A pipe: the bytes in it, of which those before `start` were read already, and how many open
files there are at its ends. -/
structure Pipe where
  bytes : ByteArray := ByteArray.empty
  start : Nat := 0
  readers : Nat := 0
  writers : Nat := 0
  deriving Inhabited

/-- How many bytes a pipe can hold. -/
def pipeCapacity : Nat := 65536

/-- How many bytes are written to a pipe at once or not at all. -/
def pipeUnit : Nat := 4096

/-- The number of bytes in a pipe. -/
def Pipe.size (pipe : Pipe) : Nat := pipe.bytes.size - pipe.start

/-- The pipe with more bytes in it. -/
def Pipe.append (pipe : Pipe) (bytes : Bytes) : Pipe :=
  { pipe with bytes := pipe.bytes ++ ⟨bytes.toArray⟩ }

/-- The pipe after so many bytes were read from it. What was read is forgotten when nothing is left,
or when there is much of it. -/
def Pipe.drop (pipe : Pipe) (count : Nat) : Pipe :=
  let start := pipe.start + count
  if pipe.bytes.size ≤ start then { pipe with bytes := ByteArray.empty, start := 0 }
  else if pipeCapacity < start then
    { pipe with bytes := pipe.bytes.extract start pipe.bytes.size, start := 0 }
  else { pipe with start := start }

/-- What a descriptor of a process stands for. -/
structure Slot where
  /-- The number of the open file. -/
  file : Nat
  /-- Whether it is closed when the process becomes another program. -/
  isPrivate : Bool := false
  deriving DecidableEq, Repr

/-- How a process ended. -/
inductive Ending where
  | exited (status : Nat)
  | killed (signal : Signal)
  deriving DecidableEq, Repr

/-- The status that a shell gives for the end of a child. -/
def Ending.status : Ending → Nat
  | .exited status => status
  | .killed signal => 128 + signal

/-- Whether a process can go on. -/
inductive Standing where
  | active
  | stopped (signal : Signal)
  /-- It has ended, and its parent was not told yet. -/
  | ended (ending : Ending)
  deriving DecidableEq, Repr

/-- A process as the kernel knows it. -/
structure Process where
  parent : Nat
  /-- The group of the process, by the ID of its first member. -/
  group : Nat
  standing : Standing := .active
  descriptors : List (Nat × Slot) := []
  directory : Place := root
  /-- The permissions that new files do not get. -/
  mask : Nat := 0o22
  /-- The signals that are ignored. -/
  ignored : List Signal := []
  /-- The signals that the process deals with itself. -/
  caught : List Signal := []
  /-- The caught signals that have arrived. -/
  pending : List Signal := []
  /-- When it wants to be woken. -/
  wakes? : Option Nat := none
  /-- The words with which its program was started. -/
  arguments : List Bytes := []
  /-- The lines of the environment with which its program was started. -/
  environment : List Bytes := []
  /-- The inode numbers of its namespaces by their kinds. -/
  namespaces : List (Bytes × Nat) := []
  /-- The name of the machine in its namespace. -/
  hostname : Bytes := []
  /-- The limits that were changed, by their letters. -/
  limits : List (Char × Option Nat) := []
  deriving Inhabited

/-- The state that processes share. -/
structure Kernel where
  inodes : Array Inode
  openFiles : Array OpenFile := #[]
  pipes : Array Pipe := #[]
  processes : List (Nat × Process) := []
  nextProcess : Nat
  /-- The time in microseconds. -/
  now : Nat := 0
  /-- The inode of the directory in which processes are seen. -/
  processRoot : Nat := 0
  deriving Inhabited

/-- The result of a call to the kernel and the kernel after it. -/
abbrev Reply (α : Type) := Except Errno α × Kernel

namespace Kernel

/-! ### Processes -/

/-- A process by its ID. -/
def process? (kernel : Kernel) (id : Nat) : Option Process :=
  kernel.processes.lookup id

/-- The kernel with a process changed. -/
def mapProcess (kernel : Kernel) (id : Nat) (change : Process → Process) : Kernel :=
  { kernel with processes := kernel.processes.map fun entry =>
      if entry.1 = id then (id, change entry.2) else entry }

/-- The kernel with one more process. -/
def addProcess (kernel : Kernel) (id : Nat) (process : Process) : Kernel :=
  { kernel with processes := kernel.processes ++ [(id, process)] }

/-- What a descriptor of a process stands for. -/
def slot? (kernel : Kernel) (id descriptor : Nat) : Option Slot :=
  (kernel.process? id).bind (·.descriptors.lookup descriptor)

/-- The open file behind a descriptor of a process. -/
def openFile? (kernel : Kernel) (id descriptor : Nat) : Option (Nat × OpenFile) := do
  let slot ← kernel.slot? id descriptor
  let file ← kernel.openFiles[slot.file]?
  return (slot.file, file)

/-! ### Inodes -/

/-- A file by its number. -/
def inode? (kernel : Kernel) (number : Nat) : Option Inode :=
  kernel.inodes[number]?

/-- The kernel with a file changed now. -/
def mapInode (kernel : Kernel) (number : Nat) (change : Inode → Inode) : Kernel :=
  { kernel with inodes := kernel.inodes.modify number change }

/-- The kernel with the content of a file replaced now. -/
def setContent (kernel : Kernel) (number : Nat) (content : Content) : Kernel :=
  let now := kernel.now
  kernel.mapInode number fun inode => { inode with content := content, changed := now }

/-- The kernel with one more file, and its number. -/
def addInode (kernel : Kernel) (content : Content) (mode : Nat) : Nat × Kernel :=
  (kernel.inodes.size,
    { kernel with inodes := kernel.inodes.push { content, mode, changed := kernel.now } })

/-- The content of the file at a place, if it is an inode. -/
def contentAt? (kernel : Kernel) : Place → Option Content
  | .inode number => (kernel.inode? number).map (·.content)
  | _ => none

/-- Whether there is a directory at a place. -/
def isDirectory (kernel : Kernel) : Place → Bool
  | .inode number => match kernel.inode? number with
    | some ⟨.directory _ _, _, _⟩ => true
    | _ => false
  | .process _ => true
  | .descriptors _ => true
  | .namespaces _ => true
  | _ => false

/-- The directory that holds a directory. -/
def parentOf (kernel : Kernel) : Place → Place
  | .inode number => match kernel.inode? number with
    | some ⟨.directory parent _, _, _⟩ => parent
    | _ => root
  | .descriptors id => .process id
  | .namespaces id => .process id
  | _ => .inode kernel.processRoot

/-! ### Pipes -/

/-- The kernel with a pipe changed. -/
def mapPipe (kernel : Kernel) (number : Nat) (change : Pipe → Pipe) : Kernel :=
  { kernel with pipes := kernel.pipes.modify number change }

/-- The kernel with one more pipe, and its number. -/
def addPipe (kernel : Kernel) : Nat × Kernel :=
  (kernel.pipes.size, { kernel with pipes := kernel.pipes.push {} })

/-! ### Open files -/

/-- The kernel with an open file changed. -/
def mapOpenFile (kernel : Kernel) (number : Nat) (change : OpenFile → OpenFile) : Kernel :=
  { kernel with openFiles := kernel.openFiles.modify number change }

/-- The kernel with one more open file, and its number. An end of a pipe counts for the pipe as long
as it is open. -/
def addOpenFile (kernel : Kernel) (file : OpenFile) : Nat × Kernel :=
  let number := kernel.openFiles.size
  let kernel := { kernel with openFiles := kernel.openFiles.push { file with users := 0 } }
  (number, match file.target with
    | .source pipe => kernel.mapPipe pipe fun pipe => { pipe with readers := pipe.readers + 1 }
    | .sink pipe => kernel.mapPipe pipe fun pipe => { pipe with writers := pipe.writers + 1 }
    | .file _ => kernel)

/-- The kernel with one more descriptor for an open file. -/
def retain (kernel : Kernel) (number : Nat) : Kernel :=
  kernel.mapOpenFile number fun file => { file with users := file.users + 1 }

/-- The kernel with one descriptor less for an open file, which is closed with the last one. -/
def release (kernel : Kernel) (number : Nat) : Kernel :=
  match kernel.openFiles[number]? with
  | none => kernel
  | some file =>
    let kernel := kernel.mapOpenFile number fun file => { file with users := file.users - 1 }
    if file.users ≠ 1 then kernel
    else match file.target with
      | .source pipe => kernel.mapPipe pipe fun pipe => { pipe with readers := pipe.readers - 1 }
      | .sink pipe => kernel.mapPipe pipe fun pipe => { pipe with writers := pipe.writers - 1 }
      | .file _ => kernel

end Kernel

end Relocation.Machine
