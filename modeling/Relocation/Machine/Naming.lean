import Relocation.Machine.Access

/-!
# Names of files

Making, removing and renaming files, and what a machine tells about them.
-/

namespace Relocation.Machine

/-- What kind of file there is at a place. -/
inductive FileKind where
  | regular
  | directory
  | link
  | character
  | fifo
  deriving DecidableEq, Repr

/-- What a machine tells about a file. -/
structure Facts where
  kind : FileKind
  mode : Nat
  size : Nat
  changed : Nat
  number : Nat
  /-- How many names it has. -/
  names : Nat
  deriving Repr

/-- Whether a file can be run, or a directory entered. -/
def Facts.isExecutable (facts : Facts) : Bool :=
  facts.kind = .directory || facts.mode &&& 0o111 ≠ 0

namespace Kernel

/-! ### Facts -/

/-- How many names there are for a file. -/
def nameCount (kernel : Kernel) (place : Place) : Nat :=
  kernel.inodes.foldl (fun count inode => match inode.content with
    | .directory _ entries => count + entries.countP (fun entry => entry.2 = place)
    | _ => count) 0

/-- The facts about what is at a place. -/
def factsAt (kernel : Kernel) (place : Place) : Facts :=
  let other (kind : FileKind) (mode number : Nat) : Facts :=
    { kind, mode, size := 0, changed := 0, number, names := 1 }
  match place with
  | .inode number =>
    let inode := kernel.inodes[number]?.getD default
    let (kind, size) : FileKind × Nat := match inode.content with
      | .regular bytes => (.regular, bytes.size)
      | .directory _ _ => (.directory, 4096)
      | .link path => (.link, path.length)
      | .program _ => (.regular, programBytes.length)
      | .device _ => (.character, 0)
      | .fifo _ => (.fifo, 0)
    let names := match inode.content with
      | .directory _ entries => 2 + entries.countP fun entry => kernel.isDirectory entry.2
      | _ => kernel.nameCount place
    { kind, size, names, mode := inode.mode, changed := inode.changed, number := number + 2 }
  | .process id => other .directory 0o555 (id + 100000)
  | .processFile id _ =>
    other (if (kernel.link? place).isSome then .link else .regular) 0o444 (id + 200000)
  | .descriptors id => other .directory 0o500 (id + 300000)
  | .descriptor _ number => other .link 0o700 (number + 400000)
  | .namespaces id => other .directory 0o511 (id + 500000)
  | .namespaceName id _ => other .link 0o777 (id + 600000)
  | .namespace _ inode => other .regular 0o444 inode
  | .pipe number => other .fifo 0o600 (number + 1)

/-- The facts about the file that a path leads to. -/
def facts (kernel : Kernel) (id : Nat) (path : Bytes) (followsLast : Bool := true) :
    Except Errno Facts := do
  return kernel.factsAt (← kernel.find id path followsLast)

/-! ### Making -/

/-- A path without the slashes at its end. -/
def withoutSlashes (path : Bytes) : Bytes :=
  match (path.reverse.dropWhile (· = slashByte)).reverse with
  | [] => path
  | path => path

/-- The spot of a path under which there is nothing yet. -/
def freeSpot (kernel : Kernel) (id : Nat) (path : Bytes) : Except Errno Spot := do
  let spot ← kernel.spotOf id path false
  if spot.place?.isSome then .error .fileExists else .ok spot

/-- The reply of a call that may fail and gives nothing. -/
def replyOf {α : Type} (kernel : Kernel) (result : Except Errno (α × Kernel)) : Reply Unit :=
  match result with
  | .ok (_, kernel) => (.ok (), kernel)
  | .error errno => (.error errno, kernel)

/-- Make a file with a content under a new name. -/
def make (kernel : Kernel) (id : Nat) (path : Bytes) (content : Place → Content) (mode : Nat) :
    Reply Unit :=
  kernel.replyOf do
    let spot ← kernel.freeSpot id path
    kernel.makeIn spot.directory spot.name (content spot.directory) mode

/-- Make a directory. -/
def makeDirectory (kernel : Kernel) (id : Nat) (path : Bytes) (bits : Nat := 0o777) : Reply Unit :=
  kernel.make id (withoutSlashes path) (fun parent => .directory parent []) (kernel.masked id bits)

/-- Make a symbolic link. -/
def makeLink (kernel : Kernel) (id : Nat) (target path : Bytes) : Reply Unit :=
  if target.isEmpty then (.error .noEntry, kernel)
  else kernel.make id path (fun _ => .link target) 0o777

/-- Make a pipe with a name. -/
def makeFifo (kernel : Kernel) (id : Nat) (path : Bytes) (bits : Nat := 0o666) : Reply Unit :=
  let (pipe, next) := kernel.addPipe
  match next.make id path (fun _ => .fifo pipe) (next.masked id bits) with
  | (.ok (), next) => (.ok (), next)
  | (.error errno, _) => (.error errno, kernel)

/-- The kernel with the names of a directory changed. -/
def mapEntries (kernel : Kernel) (directory : Place)
    (change : List (Bytes × Place) → List (Bytes × Place)) : Kernel :=
  match directory, kernel.contentAt? directory with
  | .inode number, some (.directory parent entries) =>
    kernel.setContent number (.directory parent (change entries))
  | _, _ => kernel

/-- Give a file another name. -/
def addName (kernel : Kernel) (id : Nat) (old new : Bytes) : Reply Unit :=
  kernel.replyOf do
    let place ← kernel.find id old false
    let spot ← kernel.freeSpot id new
    if kernel.isDirectory place then .error .notPermitted
    match place, kernel.contentAt? spot.directory with
    | .inode _, some (.directory _ _) =>
      return ((), kernel.mapEntries spot.directory (· ++ [(spot.name, place)]))
    | _, _ => .error .crossDevice

/-! ### Removing -/

/-- The kernel with a name removed from a directory. -/
def dropName (kernel : Kernel) (spot : Spot) : Kernel :=
  kernel.mapEntries spot.directory fun entries => entries.filter (·.1 ≠ spot.name)

/-- Remove the name of a file that is no directory. -/
def remove (kernel : Kernel) (id : Nat) (path : Bytes) : Reply Unit :=
  kernel.replyOf do
    let spot ← kernel.spotOf id path false
    match spot.place? with
    | none => .error .noEntry
    | some place =>
      if kernel.isDirectory place then .error .isDirectory
      else match place with
        | .inode _ => return ((), kernel.dropName spot)
        | _ => .error .notPermitted

/-- Remove a directory without names in it. -/
def removeDirectory (kernel : Kernel) (id : Nat) (path : Bytes) : Reply Unit :=
  kernel.replyOf do
    let last := (path.splitOn (· = slashByte)).getLast?.getD []
    if last = dotName then .error .invalidArgument
    let spot ← kernel.spotOf id (withoutSlashes path) false
    match spot.place? with
    | none => .error .noEntry
    | some place =>
      match place, kernel.contentAt? place with
      | .inode _, some (.directory _ entries) =>
        if last = dotDotName then .error .notEmpty
        else if place = root then .error .busy
        else if !entries.isEmpty then .error .notEmpty
        else return ((), kernel.dropName spot)
      | _, _ => .error (if kernel.isDirectory place then .notPermitted else .notDirectory)

/-- Whether a place is in a directory, at any depth. -/
def isInside (kernel : Kernel) (directory : Place) : Nat → Place → Bool
  | 0, _ => false
  | fuel + 1, place =>
    place = directory || (place ≠ root && isInside kernel directory fuel (kernel.parentOf place))

/-- Move a file to another name, under which nothing is left. -/
def rename (kernel : Kernel) (id : Nat) (old new : Bytes) : Reply Unit :=
  kernel.replyOf do
    let source ← kernel.spotOf id (withoutSlashes old) false
    let target ← kernel.spotOf id (withoutSlashes new) false
    match source.place? with
    | none => .error .noEntry
    | some place =>
      let isDirectory := kernel.isDirectory place
      match place with
      | .inode number =>
        if isDirectory && kernel.isInside place (kernel.inodes.size + 1) target.directory then
          .error .invalidArgument
        if target.place? = some place then return ((), kernel)
        match target.place? with
        | some other =>
          if isDirectory && !kernel.isDirectory other then .error .notDirectory
          if !isDirectory && kernel.isDirectory other then .error .isDirectory
          if !(match kernel.contentAt? other with
            | some (.directory _ entries) => entries.isEmpty
            | _ => true) then .error .notEmpty
        | none => pure ()
        let kernel := kernel.dropName target
        let kernel := kernel.dropName source
        let kernel := kernel.mapEntries target.directory (· ++ [(target.name, place)])
        match kernel.contentAt? place with
        | some (.directory _ entries) =>
          return ((), kernel.setContent number (.directory target.directory entries))
        | _ => return ((), kernel)
      | _ => .error .notPermitted

/-! ### Attributes -/

/-- Change the permission bits of a file. -/
def setMode (kernel : Kernel) (id : Nat) (path : Bytes) (mode : Nat) : Reply Unit :=
  kernel.replyOf do
    match ← kernel.find id path with
    | .inode number => return ((), kernel.mapInode number fun inode => { inode with mode := mode })
    | _ => .error .notPermitted

/-- Set the time of the last change of a file. -/
def setChanged (kernel : Kernel) (id : Nat) (path : Bytes) (time : Nat) : Reply Unit :=
  kernel.replyOf do
    match ← kernel.find id path with
    | .inode number =>
      return ((), kernel.mapInode number fun inode => { inode with changed := time })
    | _ => .error .notPermitted

/-- Cut or fill a file to a size. -/
def truncate (kernel : Kernel) (id : Nat) (path : Bytes) (size : Nat) : Reply Unit :=
  kernel.replyOf do
    match ← kernel.find id path with
    | .inode number =>
      match kernel.contentAt? (.inode number) with
      | some (.regular bytes) =>
        let bytes := if size ≤ bytes.size then bytes.extract 0 size
          else bytes ++ ⟨Array.replicate (size - bytes.size) 0⟩
        return ((), kernel.setContent number (.regular bytes))
      | some (.directory _ _) => .error .isDirectory
      | _ => .error .invalidArgument
    | _ => .error .invalidArgument

/-- Make a directory the one of a process. -/
def changeDirectory (kernel : Kernel) (id : Nat) (path : Bytes) : Reply Unit :=
  kernel.replyOf do
    let place ← kernel.find id path
    if !kernel.isDirectory place then .error .notDirectory
    return ((), kernel.mapProcess id fun process => { process with directory := place })

end Kernel

end Relocation.Machine
