/-!
# Decimal numbers

Numbers are written in decimal without leading zeros and read in decimal with any
number of them. A byte in a diagnostic is written with two hexadecimal digits.
-/

namespace Relocation.Decimal

/-- The character of a digit below sixteen. -/
def digitChar (digit : Nat) : Char :=
  if digit < 10 then Char.ofNat (48 + digit) else Char.ofNat (87 + digit)

/-- The decimal digits of a number, without leading zeros. -/
def digits (n : Nat) : List Char :=
  if n < 10 then [digitChar n] else digits (n / 10) ++ [digitChar (n % 10)]

/-- A number in decimal. -/
def ofNat (n : Nat) : String :=
  String.ofList (digits n)

/-- An integer in decimal, with a sign if it is negative. -/
def ofInt : Int → String
  | .ofNat n => ofNat n
  | .negSucc n => "-" ++ ofNat (n + 1)

/-- A byte as two lower-case hexadecimal digits. -/
def hexByte (byte : UInt8) : String :=
  String.ofList [digitChar (byte.toNat / 16), digitChar (byte.toNat % 16)]

/-- The value of a decimal digit. -/
def digit? (c : Char) : Option Nat :=
  if '0' ≤ c ∧ c ≤ '9' then some (c.toNat - 48) else none

/-- The number that a text of ASCII digits denotes. The empty text denotes none. -/
def natural? (text : List Char) : Option Nat :=
  if text.isEmpty then none
  else text.foldl (fun value c => do return (← value) * 10 + (← digit? c)) (some 0)

/-- The integer that a text denotes: an optional sign and then one or more ASCII digits. -/
def integer? : List Char → Option Int
  | '-' :: rest => (natural? rest).map fun n => -(n : Int)
  | '+' :: rest => (natural? rest).map fun n => (n : Int)
  | text => (natural? text).map fun n => (n : Int)

end Relocation.Decimal
