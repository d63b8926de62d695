import Relocation.Machine.Path
import Relocation.Text.Utf8

/-!
# Access to files

Opening, reading and writing. A call that has to wait, as a read from an empty pipe has
for a writer, has no reply yet; it is made again when the kernel has changed.
-/

namespace Relocation.Machine

/-- How a file is opened. -/
structure Mode where
  reads : Bool := false
  writes : Bool := false
  /-- Whether the file is made if there is none. -/
  creates : Bool := false
  /-- Whether what is in the file is dropped. -/
  truncates : Bool := false
  appends : Bool := false
  /-- Whether there may be no file yet. -/
  isNew : Bool := false
  deriving DecidableEq, Repr

/-- Bytes that look arbitrary, from a seed, in front of others. -/
def arbitraryBytes : Nat → UInt64 → Bytes → Bytes
  | 0, _, bytes => bytes
  | count + 1, seed, bytes =>
    let next := seed * 6364136223846793005 + 1442695040888963407
    arbitraryBytes count next ((next >>> 56).toUInt8 :: bytes)

/-- The bytes with which every program begins. -/
def programBytes : Bytes := [0x7f, 69, 76, 70, 2, 1, 1, 0]

namespace Kernel

/-! ### Files about processes -/

/-- The short name of a process. -/
def shortName (process : Process) : Bytes :=
  let name := process.arguments.headD []
  ((name.splitOn (· = slashByte)).getLast?.getD []).take 15

/-- What the files about a process show. -/
def processText (kernel : Kernel) (id : Nat) (name : Bytes) : Bytes :=
  match kernel.process? id with
  | none => []
  | some process =>
    let title := Utf8.textLossy (shortName process)
    let number := Decimal.ofNat
    let text? : Option String :=
      if name = Bytes.ofString "comm" then some (title ++ "\n")
      else if name = Bytes.ofString "stat" then
        some (number id ++ " (" ++ title ++ ") S " ++ number process.parent ++ " " ++
          number process.group ++ " " ++ number process.group ++ " 0 -1 4194304\n")
      else if name = Bytes.ofString "status" then
        some ("Name:\t" ++ title ++ "\nState:\tS (sleeping)\nTgid:\t" ++ number id ++ "\nPid:\t" ++
          number id ++ "\nPPid:\t" ++ number process.parent ++
          "\nUid:\t0\t0\t0\t0\nGid:\t0\t0\t0\t0\n")
      else none
    match text? with
    | some text => Bytes.ofString text
    | none =>
      if name = Bytes.ofString "environ" then process.environment.flatMap (· ++ [0])
      else if name = Bytes.ofString "cmdline" then process.arguments.flatMap (· ++ [0])
      else []

/-! ### Opening -/

/-- The number of a new file in a directory. -/
def makeIn (kernel : Kernel) (directory : Place) (name : Bytes) (content : Content) (mode : Nat) :
    Except Errno (Nat × Kernel) :=
  match directory, kernel.contentAt? directory with
  | .inode number, some (.directory parent entries) =>
    if number = kernel.processRoot then .error .noEntry
    else
      let (new, kernel) := kernel.addInode content mode
      .ok (new, kernel.setContent number (.directory parent (entries ++ [(name, .inode new)])))
  | _, _ => .error .noEntry

/-- The permissions of a new file. -/
def masked (kernel : Kernel) (id mode : Nat) : Nat :=
  mode &&& (0o7777 ^^^ ((kernel.process? id).map (·.mask)).getD 0)

/-- Open what is at a place. -/
def openPlace (kernel : Kernel) (place : Place) (mode : Mode) : Option (Reply Nat) :=
  let file : OpenFile := {
    target := .file place
    canRead := mode.reads
    canWrite := mode.writes
    appends := mode.appends }
  let opened (kernel : Kernel) (file : OpenFile) : Option (Reply Nat) :=
    let (number, kernel) := kernel.addOpenFile file
    some (.ok number, kernel)
  let refused (errno : Errno) : Option (Reply Nat) := some (.error errno, kernel)
  match place with
  | .inode number =>
    match (kernel.inodes[number]?.getD default).content with
    | .directory _ _ => if mode.writes then refused .isDirectory else opened kernel file
    | .regular _ =>
      let kernel := if mode.truncates && mode.writes then
          kernel.setContent number (.regular ByteArray.empty) else kernel
      opened kernel file
    | .program _ => if mode.writes then refused .programBusy else opened kernel file
    | .device .terminal => refused .noDevice
    | .device _ => opened kernel file
    | .link _ => refused .tooManyLinks
    | .fifo pipe =>
      opened kernel { file with target := if mode.writes then .sink pipe else .source pipe }
  | .pipe number =>
    opened kernel { file with target := if mode.writes then .sink number else .source number }
  | .processFile _ _ => if mode.writes then refused .accessDenied else opened kernel file
  | .namespace _ _ => if mode.writes then refused .notPermitted else opened kernel file
  | _ => if mode.writes then refused .isDirectory else opened kernel file

/-- Open a file. A file that is made gets the permission bits `bits` as far as the process allows
them to new files. -/
def openFile (kernel : Kernel) (id : Nat) (path : Bytes) (mode : Mode) (bits : Nat := 0o666) :
    Option (Reply Nat) :=
  match kernel.spotOf id path (!(mode.creates && mode.isNew)) with
  | .error errno => some (.error errno, kernel)
  | .ok spot =>
    match spot.place? with
    | some place =>
      if mode.creates && mode.isNew then some (.error .fileExists, kernel)
      else kernel.openPlace place mode
    | none =>
      if !mode.creates then some (.error .noEntry, kernel)
      else match kernel.makeIn spot.directory spot.name (.regular ByteArray.empty)
          (kernel.masked id bits) with
        | .error errno => some (.error errno, kernel)
        | .ok (number, kernel) => kernel.openPlace (.inode number) { mode with truncates := false }

/-! ### Reading -/

/-- A part of some bytes. -/
def slice (bytes : ByteArray) (start count : Nat) : Bytes :=
  (bytes.extract start (start + count)).data.toList

/-- Read at most `limit` bytes from a pipe. -/
def readPipe (kernel : Kernel) (number limit : Nat) : Option (Reply Bytes) :=
  match kernel.pipes[number]? with
  | none => some (.error .badDescriptor, kernel)
  | some pipe =>
    if pipe.size = 0 then if pipe.writers = 0 then some (.ok [], kernel) else none
    else
      let bytes := slice pipe.bytes pipe.start limit
      some (.ok bytes, kernel.mapPipe number (·.drop bytes.length))

/-- What a read at a position of a place gives, up to a limit. -/
def bytesAt (kernel : Kernel) (place : Place) (position limit : Nat) : Except Errno Bytes :=
  match place with
  | .inode number =>
    match (kernel.inodes[number]?.getD default).content with
    | .regular bytes => .ok (slice bytes position limit)
    | .directory _ _ => .error .isDirectory
    | .program _ => .ok ((programBytes.drop position).take limit)
    | .device .null => .ok []
    | .device .random =>
      .ok (arbitraryBytes limit (kernel.now + 1).toUInt64 [])
    | .device .terminal => .error .inputOutput
    | .device _ => .ok (List.replicate limit 0)
    | _ => .error .invalidArgument
  | .processFile id name =>
    if name = Bytes.ofString "mem" then .error .inputOutput
    else .ok (((kernel.processText id name).drop position).take limit)
  | .namespace _ _ => .error .invalidArgument
  | _ => .error .isDirectory

/-- Read at most `limit` bytes from an open file. -/
def readFrom (kernel : Kernel) (number limit : Nat) : Option (Reply Bytes) :=
  match kernel.openFiles[number]? with
  | none => some (.error .badDescriptor, kernel)
  | some file =>
    if !file.canRead then some (.error .badDescriptor, kernel)
    else match file.target with
      | .source pipe => kernel.readPipe pipe limit
      | .sink pipe => kernel.readPipe pipe limit
      | .file place =>
        match kernel.bytesAt place file.position limit with
        | .error errno => some (.error errno, kernel)
        | .ok bytes => some (.ok bytes, kernel.mapOpenFile number fun file =>
            { file with position := file.position + bytes.length })

/-- Read at most `limit` bytes from a descriptor of a process. -/
def read (kernel : Kernel) (id descriptor limit : Nat) : Option (Reply Bytes) :=
  match kernel.slot? id descriptor with
  | some slot => kernel.readFrom slot.file limit
  | none => some (.error .badDescriptor, kernel)

/-! ### Writing -/

/-- Write bytes to a pipe, or as many as there is room for. -/
def writePipe (kernel : Kernel) (number : Nat) (bytes : Bytes) : Option (Reply Nat) :=
  match kernel.pipes[number]? with
  | none => some (.error .badDescriptor, kernel)
  | some pipe =>
    let count := bytes.length
    let room := pipeCapacity - pipe.size
    if pipe.readers = 0 then some (.error .brokenPipe, kernel)
    else if room = 0 || (count ≤ pipeUnit && room < count) then none
    else
      let written := bytes.take room
      some (.ok written.length, kernel.mapPipe number (·.append written))

/-- Bytes with others put in their places from a position on. A gap is filled with zero bytes. -/
def overwrite (old : ByteArray) (position : Nat) (bytes : Bytes) : ByteArray :=
  if position = old.size then old ++ ⟨bytes.toArray⟩
  else if old.size < position then
    old ++ ⟨Array.replicate (position - old.size) 0⟩ ++ ⟨bytes.toArray⟩
  else
    old.extract 0 position ++ ⟨bytes.toArray⟩ ++ old.extract (position + bytes.length) old.size

/-- Write bytes at a position of a place. It gives the position behind them. -/
def writeAt (kernel : Kernel) (place : Place) (position? : Option Nat) (bytes : Bytes) :
    Reply Nat :=
  match place with
  | .inode number =>
    match (kernel.inodes[number]?.getD default).content with
    | .regular old =>
      let position := position?.getD old.size
      if bytes.isEmpty then (.ok position, kernel)
      else
        let now := kernel.now
        let kernel := kernel.mapInode number fun inode =>
          match inode with
          | ⟨.regular old, mode, _⟩ => ⟨.regular (overwrite old position bytes), mode, now⟩
          | inode => inode
        (.ok (position + bytes.length), kernel)
    | .device .full => (.error .noSpace, kernel)
    | .device _ => (.ok (position?.getD 0), kernel)
    | _ => (.error .badDescriptor, kernel)
  | _ => (.error .badDescriptor, kernel)

/-- Write bytes to an open file, or as many as there is room for. -/
def writeTo (kernel : Kernel) (number : Nat) (bytes : Bytes) : Option (Reply Nat) :=
  match kernel.openFiles[number]? with
  | none => some (.error .badDescriptor, kernel)
  | some file =>
    if !file.canWrite then some (.error .badDescriptor, kernel)
    else match file.target with
      | .source pipe => kernel.writePipe pipe bytes
      | .sink pipe => kernel.writePipe pipe bytes
      | .file place =>
        match kernel.writeAt place (if file.appends then none else some file.position) bytes with
        | (.error errno, kernel) => some (.error errno, kernel)
        | (.ok position, kernel) => some (.ok bytes.length, kernel.mapOpenFile number fun file =>
            { file with position := position })

/-- Write bytes to a descriptor of a process, or as many as there is room for. -/
def write (kernel : Kernel) (id descriptor : Nat) (bytes : Bytes) : Option (Reply Nat) :=
  match kernel.slot? id descriptor with
  | some slot => kernel.writeTo slot.file bytes
  | none => some (.error .badDescriptor, kernel)

/-! ### Descriptors -/

/-- The kernel with a descriptor of a process standing for an open file, or closed. What it stood
for before is released. -/
def setDescriptor (kernel : Kernel) (id descriptor : Nat) (slot? : Option Slot) : Kernel :=
  let old? := kernel.slot? id descriptor
  let kernel := match slot? with
    | some slot => kernel.retain slot.file
    | none => kernel
  let kernel := kernel.mapProcess id fun process =>
    let others := process.descriptors.filter (·.1 ≠ descriptor)
    { process with descriptors := match slot? with
      | some slot => (descriptor, slot) :: others
      | none => others }
  match old? with
  | some old => kernel.release old.file
  | none => kernel

/-- The least descriptor from `least` on that is not open. -/
def freeDescriptor (kernel : Kernel) (id least : Nat) : Nat :=
  match kernel.process? id with
  | some process =>
    let count := process.descriptors.length
    ((List.range (count + 1)).map (· + least)).find? (fun number =>
      (process.descriptors.lookup number).isNone) |>.getD (least + count)
  | none => least

/-- Give a process a new descriptor for an open file. -/
def addDescriptor (kernel : Kernel) (id least file : Nat) (isPrivate : Bool) : Nat × Kernel :=
  let descriptor := kernel.freeDescriptor id least
  (descriptor, kernel.setDescriptor id descriptor (some { file, isPrivate }))

/-- Make a pipe. It gives the numbers of the open files at its two ends. -/
def makePipe (kernel : Kernel) : (Nat × Nat) × Kernel :=
  let (pipe, kernel) := kernel.addPipe
  let (source, kernel) := kernel.addOpenFile { target := .source pipe, canRead := true }
  let (sink, kernel) := kernel.addOpenFile { target := .sink pipe, canWrite := true }
  ((source, sink), kernel)

/-- Move the position of a descriptor back, if there is a file behind it that can be read again. -/
def moveBack (kernel : Kernel) (id descriptor count : Nat) : Kernel :=
  match kernel.openFile? id descriptor with
  | some (number, file) =>
    match file.target with
    | .file _ =>
      kernel.mapOpenFile number fun file => { file with position := file.position - count }
    | _ => kernel
  | none => kernel

end Kernel

end Relocation.Machine
