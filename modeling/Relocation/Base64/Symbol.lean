import Relocation.Bytes

/-!
# Symbols of Base64

Encoded text is made of 64 letters, each of which carries six bits, the pad sign and
three blanks that carry nothing. Any other byte is foreign.
-/

namespace Relocation.Base64

/-- What a byte of encoded text stands for. -/
inductive Symbol where
  | letter (value : UInt8)
  | pad
  | blank
  | foreign
  deriving DecidableEq, Repr

/-- The pad sign, `=`. -/
def padByte : UInt8 := 61

/-- The bytes that carry nothing: line feed, carriage return and space. -/
def isBlank (byte : UInt8) : Bool :=
  byte = 10 || byte = 13 || byte = 32

/-- The six bits that a letter carries: `A` to `Z`, `a` to `z`, `0` to `9`, `+` and `/` count
from 0 to 63. -/
def value? (byte : UInt8) : Option UInt8 :=
  if 65 ≤ byte ∧ byte ≤ 90 then some (byte - 65)
  else if 97 ≤ byte ∧ byte ≤ 122 then some (byte - 71)
  else if 48 ≤ byte ∧ byte ≤ 57 then some (byte + 4)
  else if byte = 43 then some 62
  else if byte = 47 then some 63
  else none

/-- What a byte stands for. -/
def Symbol.ofByte (byte : UInt8) : Symbol :=
  match value? byte with
  | some value => .letter value
  | none => if byte = padByte then .pad else if isBlank byte then .blank else .foreign

/-- The letter that carries six bits. -/
def letter (value : UInt8) : UInt8 :=
  if value < 26 then value + 65
  else if value < 52 then value + 71
  else if value < 62 then value - 4
  else if value = 62 then 43
  else 47

end Relocation.Base64
