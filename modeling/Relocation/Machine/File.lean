import Relocation.Bytes
import Relocation.Errno.Text

/-!
# Files

What a machine keeps in its files, and the places in the tree of files. Most places are
inodes; what is seen under `/proc` about processes has places of its own, as it is
made up when it is looked at.
-/

namespace Relocation.Machine

/-- A device that is not a file of its own. -/
inductive Device where
  /-- Empty when read; what is written is forgotten. -/
  | null
  /-- Zero bytes without end; what is written is forgotten. -/
  | zero
  /-- Zero bytes without end; nothing can be written. -/
  | full
  /-- Arbitrary bytes without end. -/
  | random
  /-- The terminal of the process, which has none. -/
  | terminal
  deriving DecidableEq, Repr

/-- A place in the tree of files. -/
inductive Place where
  | inode (number : Nat)
  /-- The directory of a process. -/
  | process (id : Nat)
  /-- A file in the directory of a process. -/
  | processFile (id : Nat) (name : Bytes)
  /-- The directory of the descriptors of a process. -/
  | descriptors (id : Nat)
  /-- The name of an open descriptor. -/
  | descriptor (id number : Nat)
  /-- The directory of the namespaces of a process. -/
  | namespaces (id : Nat)
  /-- The name of a namespace of a process. -/
  | namespaceName (id : Nat) (kind : Bytes)
  /-- A namespace. -/
  | namespace (kind : Bytes) (inode : Nat)
  /-- A pipe without a name. -/
  | pipe (number : Nat)
  deriving DecidableEq, Repr, Inhabited

/-- The path from the root to a file, by names. -/
abbrev Location := List Bytes

/-- What is kept under an inode. -/
inductive Content where
  | regular (bytes : ByteArray)
  /-- The names in a directory in the order of their creation, and the directory that holds it. -/
  | directory (parent : Place) (entries : List (Bytes × Place))
  | link (path : Bytes)
  /-- The program of a name. -/
  | program (name : Bytes)
  | device (device : Device)
  /-- A pipe with a name, by the number of the pipe. -/
  | fifo (pipe : Nat)

instance : Inhabited Content := ⟨.regular ByteArray.empty⟩

/-- A file with its attributes. -/
structure Inode where
  content : Content
  /-- The permission bits. -/
  mode : Nat
  /-- When the content was last changed. -/
  changed : Nat := 0
  deriving Inhabited

/-- The slash between the names of a path. -/
def slashByte : UInt8 := 47

/-- The name by which a directory calls itself. -/
def dotName : Bytes := [46]

/-- The name by which a directory calls the one that holds it. -/
def dotDotName : Bytes := [46, 46]

/-- The longest name of a file. -/
def maxNameLength : Nat := 255

/-- A path has to be shorter than this. -/
def pathLengthLimit : Nat := 4096

/-- How many symbolic links a path may lead through. -/
def maxLinks : Nat := 40

/-- The names of a path. One that ends in a slash has to lead to a directory, as if a dot
followed. -/
def namesOf (path : Bytes) : List Bytes :=
  let names := (path.splitOn (· = slashByte)).filter (fun name => !name.isEmpty)
  if path.getLast? = some slashByte then names ++ [dotName] else names

/-- The names of a path given as text. -/
def location (path : String) : Location :=
  namesOf (Bytes.ofString path)

/-- The path of a location. -/
def pathTo (location : Location) : Bytes :=
  if location.isEmpty then [slashByte] else location.flatMap (slashByte :: ·)

/-- The first inode, which is the root. -/
def root : Place := .inode 0

/-- The permission bits of directories and programs that come with a machine. -/
def commonMode : Nat := 0o755

end Relocation.Machine
