import Relocation.Environment.Variables

/-!
# Overlays

An overlay is a list of variables to be set on top of an inherited environment. It
keeps every record in the order in which it was added, and a later record of a key
wins over an earlier one.
-/

namespace Relocation.Environment

/-- Variables to be set on top of an inherited environment. -/
structure Overlay where
  records : List Entry
  deriving DecidableEq, Repr

namespace Overlay

/-- The overlay that sets nothing. -/
def empty : Overlay := ⟨[]⟩

/-- The overlay with one more record at its end. -/
def set (overlay : Overlay) (key value : Bytes) : Overlay :=
  ⟨overlay.records ++ [(key, value)]⟩

/-- The value that a key has once the overlay is applied, if the overlay sets it. -/
def get? (overlay : Overlay) (key : Bytes) : Option Bytes :=
  (overlay.records.reverse.find? (·.1 = key)).map (·.2)

/-- The number of records, those that a later one overrides included. -/
def length (overlay : Overlay) : Nat :=
  overlay.records.length

/-- Whether the overlay has no record. -/
def isEmpty (overlay : Overlay) : Bool :=
  overlay.records.isEmpty

/-- The environment with every record set on top of it. -/
def apply (overlay : Overlay) (base : Variables) : Variables :=
  base.insertAll overlay.records

end Overlay

end Relocation.Environment
