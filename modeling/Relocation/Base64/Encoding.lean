import Relocation.Base64.Symbol

/-!
# Encoding in Base64

The standard padded encoding writes three bytes as four letters. A last group of two
bytes makes three letters and a pad, and a last single byte two letters and two pads.
-/

namespace Relocation.Base64

/-- The letters of a full group of three bytes. -/
def encodeGroup (a b c : UInt8) : Bytes :=
  [letter (a >>> 2), letter ((a &&& 0x03) <<< 4 ||| b >>> 4),
    letter ((b &&& 0x0f) <<< 2 ||| c >>> 6), letter (c &&& 0x3f)]

/-- The standard padded encoding of a byte string, without line breaks. -/
def encode : Bytes → Bytes
  | [] => []
  | [a] => [letter (a >>> 2), letter ((a &&& 0x03) <<< 4), padByte, padByte]
  | [a, b] =>
    [letter (a >>> 2), letter ((a &&& 0x03) <<< 4 ||| b >>> 4), letter ((b &&& 0x0f) <<< 2),
      padByte]
  | a :: b :: c :: rest => encodeGroup a b c ++ encode rest

end Relocation.Base64
