import Relocation.Environment.Block
import Relocation.System

/-!
# Importing the target's environment

The environment with which the target was started is read from its file under
`/proc` and split into variables. A file that is too large is refused, and a file
that cannot be read to its end is an error; what was read is never cut short.
-/

namespace Relocation.Environment

/-- The size of the largest environment that is accepted. -/
def maxBlockLength : Nat := 4 * 1024 * 1024

/-- The memory that is reserved before reading. -/
def initialCapacity : Nat := 16 * 1024

/-- The memory that has to be left for another read. -/
def spareLength : Nat := 32

/-- The memory that is reserved until so many bytes are read. What was reserved at first can be
filled to its end; else the memory is doubled when too little of it is left. -/
def capacityFor (length : Nat) : Nat :=
  if length = initialCapacity then initialCapacity
  else max initialCapacity (length + spareLength).nextPowerOfTwo

/-- Read a file piece by piece until a read gives nothing or fails, or until `limit` bytes are
there. -/
def readUpTo (file : Descriptor) (limit : Nat) : Session (Except Errno Bytes) := do
  if hlimit : limit = 0 then return .ok []
  else
    match (← Session.call (.read file limit)).piece with
    | .ended => return .ok []
    | .failed errno _ => return .error errno
    | .data bytes hbytes _ =>
      have : limit - bytes.length < limit :=
        Nat.sub_lt (Nat.pos_of_ne_zero hlimit) (List.length_pos_iff.mpr hbytes)
      return (← readUpTo file (limit - bytes.length)).map (bytes ++ ·)
termination_by limit
decreasing_by assumption

/-- A block that was read, unless there is no memory for it or it is too large. -/
def acceptBlock (path : Bytes) (reserves : Nat → Bool) (block : Bytes) : Except Failure Bytes :=
  if !reserves (capacityFor block.length) then .error (.environmentUnreadable path .outOfMemory)
  else if maxBlockLength < block.length then .error (.environmentTooLarge path maxBlockLength)
  else .ok block

/-- Read an environment block from a file. -/
def readBlock (path : Bytes) : Session Bytes := do
  match ← Session.call (.openFile path) with
  | .error error => Session.fail (.environmentUnreadable path error)
  | .ok file =>
    let reserves ← Session.reserves
    if reserves initialCapacity then
      match ← readUpTo file (maxBlockLength + 1) with
      | .error errno => Session.fail (.environmentUnreadable path (.kernel errno))
      | .ok block => Session.ofExcept (acceptBlock path reserves block)
    else
      Session.fail (.environmentUnreadable path .outOfMemory)

/-- Import the environment of a target. -/
def importFrom (target : Target) : Session Overlay := do
  let block ← readBlock target.environmentPath
  match parseBlock block with
  | .error text => Session.fail (.malformedVariable text)
  | .ok overlay =>
    Session.record (.environmentRead block.length overlay.length target.environmentPath)
    return overlay

end Relocation.Environment
