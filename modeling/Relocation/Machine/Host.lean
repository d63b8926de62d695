import Relocation.Invocation
import Relocation.Launch
import Relocation.Machine.Execution
import Relocation.Machine.Standard

/-!
# Machines

A host is a whole machine that a launch can run on: its files, the other processes
that can be targets, and its programs. What it answers to a call depends on the
namespaces that were entered and the files that were opened before; nothing else that
happened has any influence.
-/

namespace Relocation.Machine

open Namespace (Kind)

/-- A process on a host besides the launcher. -/
structure Peer where
  pid : Nat
  /-- The environment with which it was started. -/
  block : Bytes
  /-- The inode numbers of its namespaces. -/
  inodes : Kind → Nat
  /-- The name of the machine in its namespace. -/
  hostname : Bytes

/-- The namespaces of a process by their names. -/
def namespacesOf (inodes : Kind → Nat) : List (Bytes × Nat) :=
  Kind.entryOrder.map fun kind => (Bytes.ofString kind.name, inodes kind)

/-- The lines of an environment. -/
def linesOf (environment : Environment.Variables) : List Bytes :=
  environment.entries.map fun (name, value) => name ++ 61 :: value

/-- The records of an environment block, each of which ends with a zero byte. -/
def recordsOf (block : Bytes) : List Bytes :=
  match block.splitOn (· = 0) with
  | [] => []
  | records => records.dropLast

/-- A peer as a process. -/
def Peer.process (peer : Peer) : Process where
  parent := firstProcess
  group := peer.pid
  environment := recordsOf peer.block
  namespaces := namespacesOf peer.inodes
  hostname := peer.hostname

/-- A machine with a launcher on it. -/
structure Host where
  /-- The kernel with the files of the machine. -/
  kernel : Kernel
  /-- The directory of the launcher. -/
  directory : Bytes
  environment : Environment.Variables := .empty
  /-- The inode numbers of the namespaces that the launcher starts in. -/
  inodes : Kind → Nat
  hostname : Bytes
  peers : List Peer := []
  /-- What an attempt to enter a namespace gives. -/
  entryResult : Except CallError Unit := .error (.kernel .notPermitted)
  /-- Whether the capability to enter namespaces is effective. -/
  isPrivileged : Bool := false
  /-- Whether there are descriptors for more open files. -/
  hasDescriptors : Bool := true
  /-- The size of the largest piece of memory that can be had, if there is a limit. -/
  memoryLimit? : Option Nat := none

/-- Where a launcher stands: the machine around it, and the files it opened. -/
structure Situation where
  kernel : Kernel
  opened : List Place := []

/-- The file behind a handle. -/
def Situation.place? (situation : Situation) (file : Descriptor) : Option Place :=
  situation.opened[file.number]?

namespace Host

/-! ### Files -/

/-- A path with the directory of the launcher in front of it, if it does not begin at the root. -/
def absolute (host : Host) (path : Bytes) : Bytes :=
  if path.head? = some slashByte then path else host.directory ++ slashByte :: path

/-- The host with a directory at a path. -/
def withDirectory (host : Host) (path : Bytes) : Host :=
  { host with kernel := host.kernel.withDirectory (host.absolute path) }

/-- The host with a file at a path. -/
def withFile (host : Host) (path bytes : Bytes) : Host :=
  { host with kernel := host.kernel.withFile (host.absolute path) bytes }

/-- The host with a symbolic link at a path. -/
def withLink (host : Host) (path target : Bytes) : Host :=
  { host with kernel := host.kernel.withLink (host.absolute path) target }

/-! ### Processes -/

/-- The ID of the launcher. -/
def launcherProcess : Nat := 10000

/-- The ID of the first process that a launcher starts. -/
def shellProcess : Nat := 10001

/-- The launcher as a process. -/
def launcher (host : Host) : Process where
  parent := firstProcess
  group := launcherProcess
  directory := ((host.kernel.find 0 host.directory).toOption).getD root
  arguments := [Bytes.ofString programName]
  environment := linesOf host.environment
  namespaces := namespacesOf host.inodes
  hostname := host.hostname

/-- The first process of the machine. -/
def first (host : Host) : Process where
  parent := 0
  group := firstProcess
  namespaces := namespacesOf host.inodes
  hostname := host.hostname

/-- Where a launcher stands at its start. -/
def start (host : Host) : Situation :=
  let peers := host.peers.map fun peer => (peer.pid, peer.process)
  let processes := (firstProcess, host.first) :: peers ++ [(launcherProcess, host.launcher)]
  { kernel := { host.kernel with processes, nextProcess := shellProcess } }

/-- Enter the namespace at a place. -/
def enterThrough (host : Host) (kernel : Kernel) (place : Place) : Kernel :=
  match place with
  | .namespace kind inode =>
    let isNames := kind = Bytes.ofString Kind.uts.name
    let peer? := host.peers.find? fun peer => peer.inodes .uts = inode
    kernel.mapProcess launcherProcess fun process => { process with
      namespaces := process.namespaces.map fun entry =>
        if entry.1 = kind then (kind, inode) else entry
      hostname := if isNames then ((peer?.map (·.hostname)).getD process.hostname)
        else process.hostname }
  | _ => kernel

/-- Where a launcher stands after an event. -/
def step (host : Host) (situation : Situation) : Event → Situation
  | .called (.openFile path) (.ok _) =>
    match situation.kernel.find launcherProcess path with
    | .ok place => { situation with opened := situation.opened ++ [place] }
    | .error _ => situation
  | .called (.enterNamespace file _) (.ok ()) =>
    match situation.place? file with
    | some place => { situation with kernel := host.enterThrough situation.kernel place }
    | none => situation
  | _ => situation

/-- Where a launcher stands after a history. -/
def situation (host : Host) (history : History) : Situation :=
  history.foldl host.step host.start

/-! ### Answers -/

/-- Open a file. The text of the path is checked before a descriptor is taken, and the file is
looked for after that. -/
def openFile (host : Host) (situation : Situation) (path : Bytes) : Except IoError Descriptor :=
  if path.hasNul then .error .nulInPath
  else if path.isEmpty then .error (.kernel .noEntry)
  else if pathLengthLimit ≤ path.length then .error (.kernel .nameTooLong)
  else if !host.hasDescriptors then .error (.kernel .tooManyFiles)
  else match situation.kernel.openFile launcherProcess path { reads := true } with
    | some (.error errno, _) => .error (.kernel errno)
    | _ => .ok ⟨situation.opened.length⟩

/-- The inode number of the file that a path leads to. -/
def inodeOf (situation : Situation) (path : Bytes) : Except IoError Nat :=
  if path.hasNul then .error .nulInPath
  else match situation.kernel.facts launcherProcess path with
    | .ok facts => .ok facts.number
    | .error errno => .error (.kernel errno)

/-- The next bytes of an open file, of which `position` were read before. -/
def pieceOf (situation : Situation) (file : Descriptor) (position most : Nat) :
    Environment.Piece most :=
  match (situation.place? file).map (situation.kernel.bytesAt · position most) with
  | some (.ok bytes) => .ofBytes most bytes
  | some (.error errno) => if h : errno = .interrupted then .ended else .failed errno h
  | none => .failed .badDescriptor (by decide)

/-! ### Running a program -/

/-- What becomes of a new process: how it ends, and what it writes to its standard output and
error. -/
structure Outcome where
  ending : Ending
  output : Bytes
  errors : Bytes

/-- The ID of a process that collects what others write, by the descriptor that they write to. -/
def collector (descriptor : Nat) : Nat := descriptor + 1

/-- Copy what comes out of a pipe into a file. -/
def collect : Program Unit := do
  let _ ← Program.forPieces 0 (fun piece => do
    let _ ← Program.write 1 piece) Program.unbounded

/-- Give a process a descriptor whose output is collected in a new file. It gives the number of that
file. -/
def addCollector (kernel : Kernel) (process descriptor : Nat) : Nat × Kernel :=
  let ((source, sink), kernel) := kernel.makePipe
  let (file, kernel) := kernel.addInode (.regular ByteArray.empty) 0o600
  let (target, kernel) := kernel.addOpenFile { target := .file (.inode file), canWrite := true }
  let kernel := kernel.addProcess (collector descriptor) { parent := 0, group := 0 }
  let kernel := kernel.setDescriptor (collector descriptor) 0 (some { file := source })
  let kernel := kernel.setDescriptor (collector descriptor) 1 (some { file := target })
  (file, kernel.setDescriptor process descriptor (some { file := sink }))

/-- All bytes of a file by its number. -/
def contentOf (kernel : Kernel) (number : Nat) : Bytes :=
  match kernel.contentAt? (.inode number) with
  | some (.regular bytes) => bytes.toList
  | _ => []

/-- Run a new process to its end. Its standard input is empty. -/
def run (situation : Situation) (image : ProcessImage) : Outcome :=
  let (process, kernel) := situation.kernel.fork launcherProcess
  let kernel := match kernel.openFile process (Bytes.ofString "/dev/null") { reads := true } with
    | some (.ok file, kernel) => kernel.setDescriptor process 0 (some { file })
    | _ => kernel
  let (output, kernel) := addCollector kernel process 1
  let (errors, kernel) := addCollector kernel process 2
  let arguments := image.program :: image.arguments
  let environment := linesOf image.environment
  let threads := [
    (process, (do
      let _ ← Execution.become Execution.evaluator image.program arguments environment
      Program.exit 127 : Program Unit) process fun _ => .finish (.exited 0)),
    (collector 1, collect (collector 1) fun _ => .finish (.exited 0)),
    (collector 2, collect (collector 2) fun _ => .finish (.exited 0))]
  let result := (Schedule.run Schedule.maxRounds ⟨kernel, threads⟩).kernel
  { ending := match Schedule.standingOf? result process with
      | some (.ended ending) => ending
      | _ => .exited 0
    output := contentOf result output
    errors := contentOf result errors }

/-- Start a process and wait for its end. -/
def spawn (situation : Situation) (image : ProcessImage) : Except IoError WaitStatus :=
  let words := image.program :: image.arguments ++ linesOf image.environment
  if image.hasNul then .error .nulInArgument
  else if Execution.isTooLong image.program words then .error (.kernel .argumentsTooLong)
  else match Execution.contentOf situation.kernel launcherProcess image.program with
    | .error errno => .error (.kernel errno)
    | .ok _ =>
      .ok (match (run situation image).ending with
        | .exited status => .exited status.toUInt8
        | .killed signal => .killed signal)

/-- What a host answers to a call. -/
def reply (host : Host) (history : History) : (call : Call) → call.Reply
  | .pause => .ok ()
  | .openFile path => host.openFile (host.situation history) path
  | .read file most =>
    ⟨0, pieceOf (host.situation history) file (history.bytesRead file).length most⟩
  | .inode path => inodeOf (host.situation history) path
  | .enterNamespace _ _ => host.entryResult
  | .holdsCapability => .ok host.isPrivileged
  | .setVariable _ _ => ()
  | .spawn image => spawn (host.situation history) image

/-- The operating system of a host. -/
def system (host : Host) : System where
  reply := host.reply
  reserves := fun _ size => match host.memoryLimit? with
    | some limit => decide (size ≤ limit)
    | none => true
  environment := host.environment

/-- What became of the processes that were started in a history after some events. -/
def outcomesAfter (host : Host) (situation : Situation) : History → List Outcome
  | [] => []
  | event :: rest =>
    let outcomes := match event with
      | .called (.spawn image) (.ok _) => [run situation image]
      | _ => []
    outcomes ++ host.outcomesAfter (host.step situation event) rest

/-- What became of the processes that were started in a history. -/
def outcomes (host : Host) (history : History) : List Outcome :=
  host.outcomesAfter host.start history

/-- What the processes that were started in a history wrote to their standard output. -/
def output (host : Host) (history : History) : Bytes :=
  (host.outcomes history).flatMap (·.output)

end Host

end Relocation.Machine
