import Relocation.Namespace.Kind
import Relocation.Wording

/-!
# Selections of namespaces

A selection is a set of kinds. It is listed in the order of entry, and shown in
diagnostics by the flags of its kinds.
-/

namespace Relocation.Namespace

/-- A set of kinds of namespaces. -/
structure Selection where
  ipc : Bool := false
  uts : Bool := false
  net : Bool := false
  pid : Bool := false
  mnt : Bool := false
  deriving DecidableEq, Repr

namespace Selection

/-- The empty selection. -/
def empty : Selection := {}

/-- Whether a kind is selected. -/
def contains (selection : Selection) : Kind → Bool
  | .ipc => selection.ipc
  | .uts => selection.uts
  | .net => selection.net
  | .pid => selection.pid
  | .mnt => selection.mnt

/-- The selection with a kind put in or taken out. -/
def set (selection : Selection) (kind : Kind) (enabled : Bool) : Selection :=
  match kind with
  | .ipc => { selection with ipc := enabled }
  | .uts => { selection with uts := enabled }
  | .net => { selection with net := enabled }
  | .pid => { selection with pid := enabled }
  | .mnt => { selection with mnt := enabled }

/-- The selected kinds in the order of entry. -/
def kinds (selection : Selection) : List Kind :=
  Kind.entryOrder.filter selection.contains

/-- Whether no kind is selected. -/
def isEmpty (selection : Selection) : Bool :=
  selection = empty

/-- The selection of the kinds in a list. -/
def ofKinds (kinds : List Kind) : Selection :=
  kinds.foldl (fun selection kind => selection.set kind true) empty

/-- The word with the flags of the selected kinds. -/
def flags (selection : Selection) : UInt32 :=
  (selection.kinds.map Kind.flag).foldl (· ||| ·) 0

/-- A selection as diagnostics show it. -/
def textIn (words : Wording) (selection : Selection) : String :=
  "NamespaceSelection \x7b flags: " ++ words.flags selection.flags ++ " \x7d"

end Selection

end Relocation.Namespace
