import Relocation.Text.Decimal

/-!
# Floating-point numbers

Numbers of 53 significant bits, as a whole number times a power of two. A text is read as
the number nearest to what it denotes, and a number is written with the digits nearest to
its exact value; of two that are equally near, the even one counts.
-/

namespace Relocation

/-- A floating-point number without its sign. -/
inductive Magnitude where
  /-- A whole number times a power of two. -/
  | finite (mantissa : Nat) (exponent : Int)
  | infinite
  | undefined
  deriving DecidableEq, Repr

/-- A floating-point number. -/
structure Floating where
  isNegative : Bool
  magnitude : Magnitude
  deriving DecidableEq, Repr

namespace Floating

/-- A quotient rounded to a whole number, to the even one if two are equally near. -/
def roundDiv (num den : Nat) : Nat :=
  let quotient := num / den
  let rest := 2 * (num % den)
  if rest < den then quotient
  else if den < rest then quotient + 1
  else quotient + quotient % 2

/-- A whole number times a power of two, as a quotient. -/
def scaled (num : Nat) (exponent : Int) : Nat × Nat :=
  if 0 ≤ exponent then (num <<< exponent.toNat, 1) else (num, 1 <<< exponent.natAbs)

/-- The number of significant bits. -/
def precision : Nat := 53

/-- The least exponent of a mantissa. -/
def minExponent : Int := -1074

/-- The greatest exponent of a mantissa. -/
def maxExponent : Int := 971

/-- The nearest magnitude to a quotient, and whether it is out of range: too large, or so small that
bits were lost. -/
def ofRatio (num den : Nat) : Magnitude × Bool :=
  if num = 0 then (.finite 0 0, false)
  else
    let least := (Nat.log2 num : Int) - (Nat.log2 den : Int) - (precision : Int)
    -- the quotient by this power of two has one bit too many or just enough
    let exponentOf (exponent : Int) : Int := max exponent minExponent
    let shifted (exponent : Int) : Nat × Nat :=
      let (top, bottom) := scaled 1 (-exponent)
      (num * top, den * bottom)
    let first := exponentOf least
    let (top, bottom) := shifted first
    let exponent := if (1 <<< precision) ≤ top / bottom then first + 1 else first
    let (top, bottom) := shifted exponent
    let mantissa := roundDiv top bottom
    let (mantissa, exponent) := if mantissa = 1 <<< precision then (mantissa / 2, exponent + 1)
      else (mantissa, exponent)
    if maxExponent < exponent then (.infinite, true)
    else (.finite mantissa exponent, decide (mantissa < 1 <<< (precision - 1)) && top % bottom ≠ 0)

/-! ### Reading -/

/-- The value of a hexadecimal digit. -/
def hexDigit? (c : Char) : Option Nat :=
  if c.isDigit then some (c.toNat - 48)
  else
    let c := c.toLower
    if 'a' ≤ c ∧ c ≤ 'f' then some (c.toNat - 87) else none

/-- The number that digits denote in a base. -/
def ofDigits (base : Nat) (digits : List Char) : Nat :=
  digits.foldl (fun value c => value * base + (hexDigit? c).getD 0) 0

/-- The digits before and after the point at the start of a text, and what follows them. There has
to be a digit. -/
def digitsOf? (isDigit : Char → Bool) (text : List Char) :
    Option (List Char × List Char × List Char) :=
  let whole := text.takeWhile isDigit
  let rest := text.drop whole.length
  let (part, rest) := match rest with
    | '.' :: behind =>
      let part := behind.takeWhile isDigit
      if whole.isEmpty && part.isEmpty then ([], rest) else (part, behind.drop part.length)
    | _ => ([], rest)
  if whole.isEmpty && part.isEmpty then none else some (whole, part, rest)

/-- The exponent behind a letter, if one follows, and the text behind it. -/
def exponentOf (letter : Char) (text : List Char) : Int × List Char :=
  match text with
  | c :: rest =>
    if c.toLower ≠ letter then (0, text)
    else
      let (sign, body) : Int × List Char := match rest with
        | '-' :: body => (-1, body)
        | '+' :: body => (1, body)
        | body => (1, body)
      let digits := body.takeWhile Char.isDigit
      if digits.isEmpty then (0, text)
      else (sign * (ofDigits 10 digits : Int), body.drop digits.length)
  | [] => (0, [])

/-- No power of ten that is larger than this matters. -/
def maxPower : Int := 20000

/-- The magnitude at the start of a text, whether it is out of range, and what follows it. -/
def magnitude? (text : List Char) : Option (Magnitude × Bool × List Char) :=
  let beginsWith (word : String) : Bool :=
    word.toList = (text.take word.length).map Char.toLower
  let isHex (c : Char) : Bool := (hexDigit? c).isSome
  let hex? := match text with
    | '0' :: x :: rest => if x.toLower = 'x' then digitsOf? isHex rest else none
    | _ => none
  if beginsWith "infinity" then some (.infinite, false, text.drop 8)
  else if beginsWith "inf" then some (.infinite, false, text.drop 3)
  else if beginsWith "nan" then some (.undefined, false, text.drop 3)
  else match hex? with
    | some (whole, part, rest) =>
      let (exponent, rest) := exponentOf 'p' rest
      let exponent := max (-maxPower) (min maxPower (exponent - 4 * (part.length : Int)))
      let (num, den) := scaled (ofDigits 16 (whole ++ part)) exponent
      let (magnitude, isOutOfRange) := ofRatio num den
      some (magnitude, isOutOfRange, rest)
    | none =>
      match digitsOf? Char.isDigit text with
      | none => none
      | some (whole, part, rest) =>
        let (exponent, rest) := exponentOf 'e' rest
        let exponent := max (-maxPower) (min maxPower (exponent - (part.length : Int)))
        let digits := ofDigits 10 (whole ++ part)
        let (magnitude, isOutOfRange) :=
          if 0 ≤ exponent then ofRatio (digits * Nat.pow 10 exponent.toNat) 1
          else ofRatio digits (Nat.pow 10 exponent.natAbs)
        some (magnitude, isOutOfRange, rest)

/-- A number that was read from the start of a text. -/
structure Read where
  value : Floating
  isOutOfRange : Bool
  /-- What follows the number; if there is none, this is the whole text. -/
  rest : List Char

/-- Read the number at the start of a text, behind blanks. -/
def read (text : List Char) : Read :=
  let isBlank (c : Char) : Bool := c = ' ' || ('\t' ≤ c && c ≤ '\r')
  let (isNegative, body) := match text.dropWhile isBlank with
    | '-' :: body => (true, body)
    | '+' :: body => (false, body)
    | body => (false, body)
  match magnitude? body with
  | some (magnitude, isOutOfRange, rest) => ⟨⟨isNegative, magnitude⟩, isOutOfRange, rest⟩
  | none => ⟨⟨false, .finite 0 0⟩, false, text⟩

/-! ### Writing -/

/-- Digits with zeros before them up to a length. -/
def padded (length : Nat) (digits : List Char) : List Char :=
  List.replicate (length - digits.length) '0' ++ digits

/-- A whole number of units of the last of some decimal places, with its point, which is left out
before no places unless `keepsPoint` holds. -/
def withPoint (keepsPoint : Bool) (places : Nat) (units : Nat) : List Char :=
  let digits := padded (places + 1) (Decimal.digits units)
  let whole := digits.take (digits.length - places)
  let part := digits.drop (digits.length - places)
  whole ++ if part.isEmpty && !keepsPoint then [] else '.' :: part

/-- A value with so many decimal places. -/
def fixed (keepsPoint : Bool) (places mantissa : Nat) (exponent : Int) : List Char :=
  let (num, den) := scaled (mantissa * Nat.pow 10 places) exponent
  withPoint keepsPoint places (roundDiv num den)

/-- The greatest power of ten that is not above a value other than zero, found from an estimate. -/
def decimalExponent (num den : Nat) : Int :=
  let isAtMost (exponent : Int) : Bool :=
    if 0 ≤ exponent then decide (den * Nat.pow 10 exponent.toNat ≤ num)
    else decide (den ≤ num * Nat.pow 10 exponent.natAbs)
  let bits := (Nat.log2 num : Int) - (Nat.log2 den : Int)
  let estimate := bits * 30103 / 100000
  ([estimate + 2, estimate + 1, estimate, estimate - 1].find? isAtMost).getD (estimate - 2)

/-- A value other than zero as a number of units of a decimal place behind its first digit, and the
power of ten of that digit. -/
def leading (places mantissa : Nat) (exponent : Int) : Nat × Int :=
  let (num, den) := scaled mantissa exponent
  let power := decimalExponent num den
  let shift := (places : Int) - power
  let units := if 0 ≤ shift then roundDiv (num * Nat.pow 10 shift.toNat) den
    else roundDiv num (den * Nat.pow 10 shift.natAbs)
  if units = Nat.pow 10 (places + 1) then (units / 10, power + 1) else (units, power)

/-- The digits of an exponent with its sign, at least so many. -/
def exponentText (least : Nat) (exponent : Int) : List Char :=
  (if exponent < 0 then '-' else '+') :: padded least (Decimal.digits exponent.natAbs)

/-- A value with an exponent. -/
def scientific (keepsPoint : Bool) (places mantissa : Nat) (exponent : Int) : List Char :=
  let (units, power) := if mantissa = 0 then (0, 0) else leading places mantissa exponent
  withPoint keepsPoint places units ++ 'e' :: exponentText 2 power

/-- A text without the zeros at the end of its decimal places. -/
def withoutZeros (text : List Char) : List Char :=
  if text.contains '.' then
    match (text.reverse.dropWhile (· = '0')) with
    | '.' :: rest => rest.reverse
    | rest => rest.reverse
  else text

/-- A value with so many digits, with an exponent if it is small or large. -/
def general (keepsZeros : Bool) (digits mantissa : Nat) (exponent : Int) : List Char :=
  let digits := max digits 1
  let (units, power) := if mantissa = 0 then (0, 0) else leading (digits - 1) mantissa exponent
  let strip (text : List Char) : List Char := if keepsZeros then text else withoutZeros text
  if -4 ≤ power ∧ power < (digits : Int) then
    strip (fixed keepsZeros ((digits : Int) - 1 - power).toNat mantissa exponent)
  else strip (withPoint keepsZeros (digits - 1) units) ++ 'e' :: exponentText 2 power

/-- The hexadecimal digits of a number. -/
def hexDigits : Nat → Nat → List Char → List Char
  | 0, _, digits => digits
  | count + 1, n, digits => hexDigits count (n / 16) (Decimal.digitChar (n % 16) :: digits)

/-- The number of hexadecimal places of a mantissa. -/
def hexPlaces : Nat := 13

/-- A value in hexadecimal with a binary exponent, rounded to so many places if a number is
given. -/
def hexadecimal (keepsPoint : Bool) (places? : Option Nat) (mantissa : Nat) (exponent : Int) :
    List Char :=
  -- the mantissa is shifted so that its first bit stands before the point
  let shift := if mantissa = 0 then 0 else (precision - 1) - Nat.log2 mantissa
  let shift := min shift ((exponent - minExponent).toNat)
  let mantissa := mantissa <<< shift
  let power := if mantissa = 0 then 0
    else exponent - (shift : Int) + ((precision - 1 : Nat) : Int)
  let units := match places? with
    | some places =>
      if places < hexPlaces then
        let unit := 1 <<< (4 * (hexPlaces - places))
        roundDiv mantissa unit * unit
      else mantissa
    | none => mantissa
  let unit := 1 <<< (4 * hexPlaces)
  let part := hexDigits hexPlaces (units % unit) []
  let part := match places? with
    | some places => part.take places ++ List.replicate (places - hexPlaces) '0'
    | none => (part.reverse.dropWhile (· = '0')).reverse
  '0' :: 'x' :: Decimal.digits (units / unit) ++
    (if part.isEmpty && !keepsPoint then [] else '.' :: part) ++ 'p' :: exponentText 1 power

/-- The digits of a number by the letter of a format, without its sign. -/
def digitsFor (letter : Char) (alternative : Bool) (places? : Option Nat) (value : Floating) :
    List Char :=
  let text := match value.magnitude with
    | .infinite => "inf".toList
    | .undefined => "nan".toList
    | .finite mantissa exponent =>
      match letter.toLower with
      | 'a' => hexadecimal alternative places? mantissa exponent
      | 'e' => scientific alternative (places?.getD 6) mantissa exponent
      | 'g' => general alternative (places?.getD 6) mantissa exponent
      | _ => fixed alternative (places?.getD 6) mantissa exponent
  if letter.isUpper then text.map Char.toUpper else text

end Floating

end Relocation
