import Relocation.Machine.Kernel
import Relocation.Text.Decimal

/-!
# Paths

A path is walked name by name: every name but the last has to lead to a directory, symbolic
links are followed up to a limit, and neither a name nor the whole path may be too long.
The last name need not exist, so that something can be made there.
-/

namespace Relocation.Machine

/-- Where the walk along a path ends: the directory, the name in it, and what is there. -/
structure Spot where
  directory : Place
  name : Bytes
  place? : Option Place
  deriving Repr

/-- Where a symbolic link leads. -/
inductive Link where
  | path (path : Bytes)
  | place (place : Place)
  deriving Repr

namespace Kernel

/-! ### Names in directories -/

/-- The ID of the process that a name stands for. -/
def processNamed? (kernel : Kernel) (name : Bytes) : Option Nat := do
  let id ← Decimal.natural? (name.map fun byte => Char.ofNat byte.toNat)
  let _ ← kernel.process? id
  if Bytes.ofString (Decimal.ofNat id) = name then some id else none

/-- The names of the links in the directory of a process. -/
def processLinks : List String := ["cwd", "exe", "root"]

/-- The names of the other files in the directory of a process. -/
def processFiles : List String :=
  ["auxv", "cgroup", "cmdline", "comm", "environ", "io", "limits", "loginuid", "maps", "mem",
    "mountinfo", "mounts", "oom_adj", "oom_score", "oom_score_adj", "sessionid", "smaps", "stat",
    "statm", "status", "uid_map", "gid_map", "wchan"]

/-- The names of the directories in the directory of a process. -/
def processDirectories : List String := ["fd", "ns"]

/-- What a name in a directory stands for when the process `viewer` looks at it. -/
def child? (kernel : Kernel) (viewer : Nat) (directory : Place) (name : Bytes) : Option Place :=
  let isAmong (names : List String) : Bool := names.any fun other => Bytes.ofString other = name
  match directory with
  | .inode number =>
    match kernel.contentAt? directory with
    | some (.directory _ entries) =>
      match entries.lookup name with
      | some place => some place
      | none =>
        if number ≠ kernel.processRoot then none
        else if name = Bytes.ofString "self" then some (.processFile viewer name)
        else (kernel.processNamed? name).map .process
    | _ => none
  | .process id =>
    if name = Bytes.ofString "fd" then some (.descriptors id)
    else if name = Bytes.ofString "ns" then some (.namespaces id)
    else if isAmong processLinks || isAmong processFiles then some (.processFile id name)
    else none
  | .descriptors id => do
    let number ← Decimal.natural? (name.map fun byte => Char.ofNat byte.toNat)
    let _ ← kernel.slot? id number
    return .descriptor id number
  | .namespaces id => do
    let process ← kernel.process? id
    let _ ← process.namespaces.lookup name
    return .namespaceName id name
  | _ => none

/-- The names in a directory, without those of the directory itself and of the one that holds it. -/
def namesIn (kernel : Kernel) (directory : Place) : List Bytes :=
  match directory with
  | .inode number =>
    let stored := match kernel.contentAt? directory with
      | some (.directory _ entries) => entries.map (·.1)
      | _ => []
    if number = kernel.processRoot then
      stored ++ Bytes.ofString "self" ::
        kernel.processes.map fun (id, _) => Bytes.ofString (Decimal.ofNat id)
    else stored
  | .process _ => (processDirectories ++ processFiles ++ processLinks).map Bytes.ofString
  | .descriptors id => match kernel.process? id with
    | some process =>
      process.descriptors.map fun (number, _) => Bytes.ofString (Decimal.ofNat number)
    | none => []
  | .namespaces id => match kernel.process? id with
    | some process => process.namespaces.map (·.1)
    | none => []
  | _ => []

/-! ### Links -/

/-- What is behind an open file. -/
def placeBehind (file : OpenFile) : Place :=
  match file.target with
  | .file place => place
  | .source pipe => .pipe pipe
  | .sink pipe => .pipe pipe

/-- Where the link at a place leads, if there is one. -/
def link? (kernel : Kernel) : Place → Option Link
  | .inode number => match kernel.inode? number with
    | some ⟨.link path, _, _⟩ => some (.path path)
    | _ => none
  | .processFile id name =>
    if name = Bytes.ofString "self" then some (.path (Bytes.ofString (Decimal.ofNat id)))
    else if name = Bytes.ofString "cwd" then (kernel.process? id).map (.place ·.directory)
    else if name = Bytes.ofString "root" then some (.place root)
    else if name = Bytes.ofString "exe" then some (.place root)
    else none
  | .descriptor id number => do
    let (_, file) ← kernel.openFile? id number
    return .place (placeBehind file)
  | .namespaceName id kind => do
    let process ← kernel.process? id
    let inode ← process.namespaces.lookup kind
    return .place (.namespace kind inode)
  | _ => none

/-! ### Walking -/

/-- Where a path starts: at the root if it begins with a slash. -/
def startOf (path : Bytes) (current : Place) : Place :=
  if path.head? = some slashByte then root else current

/-- Whether names in a directory may have any length, as no file is ever made there. -/
def isMadeUp (kernel : Kernel) : Place → Bool
  | .inode number => number = kernel.processRoot
  | _ => true

/-- Walk from a place along names, following at most `links` symbolic links. A link under the last
name is followed only if `followsLast` holds. -/
def walk (kernel : Kernel) (viewer : Nat) (followsLast : Bool) (links : Nat) (place : Place) :
    List Bytes → Except Errno Spot
  | [] => .ok ⟨place, dotName, some place⟩
  | name :: rest =>
    if kernel.isDirectory place = false then .error .notDirectory
    else if name = dotName then walk kernel viewer followsLast links place rest
    else if name = dotDotName then
      walk kernel viewer followsLast links (kernel.parentOf place) rest
    else if maxNameLength < name.length then
      .error (if kernel.isMadeUp place then .noEntry else .nameTooLong)
    else match kernel.child? viewer place name with
      | none => if rest.isEmpty then .ok ⟨place, name, none⟩ else .error .noEntry
      | some next =>
        match kernel.link? next with
        | none =>
          if rest.isEmpty then .ok ⟨place, name, some next⟩
          else walk kernel viewer followsLast links next rest
        | some link =>
          if rest.isEmpty ∧ followsLast = false then .ok ⟨place, name, some next⟩
          else match links, link with
            | 0, _ => .error .tooManyLinks
            | links + 1, .path path =>
              walk kernel viewer followsLast links (startOf path place) (namesOf path ++ rest)
            | links + 1, .place target => walk kernel viewer followsLast links target rest
termination_by names => (links, names.length)

/-- The directory of a process. -/
def directoryOf (kernel : Kernel) (id : Nat) : Place :=
  ((kernel.process? id).map (·.directory)).getD root

/-- Where a path leads for a process. -/
def spotOf (kernel : Kernel) (id : Nat) (path : Bytes) (followsLast : Bool := true) :
    Except Errno Spot :=
  if path.isEmpty then .error .noEntry
  else if pathLengthLimit ≤ path.length then .error .nameTooLong
  else kernel.walk id followsLast maxLinks (startOf path (kernel.directoryOf id)) (namesOf path)

/-- The file that a path leads to for a process. -/
def find (kernel : Kernel) (id : Nat) (path : Bytes) (followsLast : Bool := true) :
    Except Errno Place := do
  match (← kernel.spotOf id path followsLast).place? with
  | some place => .ok place
  | none => .error .noEntry

/-! ### Back to paths -/

/-- The names of the directories that lead to a directory, if it can be reached at all. They are
looked for from the directory upwards, at most `fuel` times. -/
def climb? (kernel : Kernel) : Nat → Place → Location → Option Location
  | 0, _, _ => none
  | fuel + 1, place, names =>
    if place = root then some names
    else
      let parent := kernel.parentOf place
      let name? := match kernel.contentAt? parent with
        | some (.directory _ entries) => (entries.find? (·.2 = place)).map (·.1)
        | _ => match place with
          | .process id => some (Bytes.ofString (Decimal.ofNat id))
          | .descriptors _ => some (Bytes.ofString "fd")
          | .namespaces _ => some (Bytes.ofString "ns")
          | _ => none
      let name? := match name?, place with
        | none, .process id => some (Bytes.ofString (Decimal.ofNat id))
        | name?, _ => name?
      match name? with
      | some name => climb? kernel fuel parent (name :: names)
      | none => none

/-- The location of a directory, if it can be reached. -/
def locationOf? (kernel : Kernel) (place : Place) : Option Location :=
  kernel.climb? (kernel.inodes.size + 4) place []

/-- A directory that holds a file, with the name of the file in it. -/
def holder? (kernel : Kernel) (place : Place) : Option (Place × Bytes) :=
  (List.range kernel.inodes.size).findSome? fun number =>
    match kernel.contentAt? (.inode number) with
    | some (.directory _ entries) =>
      (entries.find? (·.2 = place)).map fun entry => (.inode number, entry.1)
    | _ => none

/-- The text under which a link to a place is shown. -/
def textOf (kernel : Kernel) (place : Place) : Bytes :=
  match place with
  | .namespace kind inode =>
    kind ++ Bytes.ofString (":[" ++ Decimal.ofNat inode ++ "]")
  | .pipe number => Bytes.ofString ("pipe:[" ++ Decimal.ofNat (number + 1) ++ "]")
  | place =>
    if kernel.isDirectory place then
      match kernel.locationOf? place with
      | some location => pathTo location
      | none => Bytes.ofString "(deleted)"
    else match kernel.holder? place with
      | some (directory, name) =>
        pathTo ((kernel.locationOf? directory).getD [] ++ [name])
      | none => Bytes.ofString "(deleted)"

/-- What a symbolic link at a path holds. -/
def linkText (kernel : Kernel) (id : Nat) (path : Bytes) : Except Errno Bytes := do
  match kernel.link? (← kernel.find id path false) with
  | some (.path target) => .ok target
  | some (.place place) => .ok (kernel.textOf place)
  | none => .error .invalidArgument

end Kernel

end Relocation.Machine
