import Relocation.Target

/-!
# Kinds of namespaces

Five kinds of namespaces can be entered. Each has a name under `/proc/<pid>/ns` and a
flag by which system calls name the kind. They are entered in a fixed order, the
mount namespace last because entering it changes what the paths under `/proc` mean.
-/

namespace Relocation.Namespace

/-- A kind of namespace. -/
inductive Kind where
  | ipc
  | uts
  | net
  | pid
  | mnt
  deriving DecidableEq, Repr

namespace Kind

/-- The order in which namespaces are entered. -/
def entryOrder : List Kind := [.ipc, .uts, .net, .pid, .mnt]

/-- The name of the kind's file under `/proc/<pid>/ns`. -/
def name : Kind → String
  | .ipc => "ipc"
  | .uts => "uts"
  | .net => "net"
  | .pid => "pid"
  | .mnt => "mnt"

/-- The kind that has a name. -/
def ofName? (name : String) : Option Kind :=
  entryOrder.find? (·.name = name)

/-- The flag by which system calls name the kind. -/
def flag : Kind → UInt32
  | .ipc => 0x08000000
  | .uts => 0x04000000
  | .net => 0x40000000
  | .pid => 0x20000000
  | .mnt => 0x00020000

/-- The handle of the launcher's own namespace. -/
def ownPath (kind : Kind) : Bytes :=
  Bytes.ofString "/proc/self/ns/" ++ Bytes.ofString kind.name

/-- The handle of the target's namespace. -/
def targetPath (kind : Kind) (target : Target) : Bytes :=
  target.directory ++ Bytes.ofString "/ns/" ++ Bytes.ofString kind.name

end Kind

end Relocation.Namespace
