/-!
# Byte strings

Paths, commands and environment variables are strings of bytes in no particular
encoding. This file names that type and the few operations the other files share:
the UTF-8 bytes of a text, and the test for a zero byte.
-/

namespace Relocation

/-- A string of bytes in no particular encoding. -/
abbrev Bytes := List UInt8

namespace Bytes

/-- The UTF-8 bytes of a text. -/
def ofString (text : String) : Bytes :=
  text.toList.flatMap String.utf8EncodeChar

/-- Whether a byte string holds a zero byte, which ends a string in a system call. -/
def hasNul (bytes : Bytes) : Bool :=
  bytes.contains 0

/-- The pieces of a byte string between the bytes that satisfy `isSeparator`. There is
always one piece more than there are separators. -/
def splitOn (isSeparator : UInt8 → Bool) (bytes : Bytes) : List Bytes :=
  bytes.foldr (fun byte pieces =>
    if isSeparator byte then [] :: pieces
    else match pieces with
      | [] => [[byte]]
      | piece :: rest => (byte :: piece) :: rest) [[]]

/-- The part of a byte string before the first byte that satisfies `isSeparator` and the part
after it, if there is such a byte. -/
def cut? (isSeparator : UInt8 → Bool) (bytes : Bytes) : Option (Bytes × Bytes) :=
  match bytes.dropWhile (fun byte => !isSeparator byte) with
  | [] => none
  | _ :: rest => some (bytes.takeWhile (fun byte => !isSeparator byte), rest)

end Bytes

end Relocation
