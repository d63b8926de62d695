import Relocation.Bytes
import Relocation.Errno

/-!
# Reading from a file

A read asks for some bytes and gets as many of the next ones as the system likes to
give. It gives nothing at the end of the file, and it can fail. A read that a signal
interrupts has given nothing yet and is made again.
-/

namespace Relocation.Environment

/-- What a read gives that asks for at most `most` bytes and is not interrupted. -/
inductive Piece (most : Nat) where
  /-- The next bytes of the file. -/
  | data (bytes : Bytes) (hbytes : bytes ≠ []) (hlength : bytes.length ≤ most)
  /-- There are no more bytes. -/
  | ended
  /-- The read failed. -/
  | failed (errno : Errno) (herrno : errno ≠ .interrupted)
  deriving DecidableEq

namespace Piece

variable {most : Nat}

/-- The bytes that a read gives. -/
def bytes : Piece most → Bytes
  | .data bytes _ _ => bytes
  | .ended => []
  | .failed _ _ => []

/-- The error of a read that failed. -/
def errno? : Piece most → Option Errno
  | .failed errno _ => some errno
  | _ => none

/-- The piece that a read gives when these bytes come next. -/
def ofBytes (most : Nat) (next : Bytes) : Piece most :=
  if h : next.take most = [] then .ended
  else .data (next.take most) h (List.length_take_le most next)

end Piece

/-- A read of a file that asks for at most `most` bytes, made again as often as it was
interrupted. -/
structure Reading (most : Nat) where
  interruptions : Nat
  piece : Piece most
  deriving DecidableEq

end Relocation.Environment
