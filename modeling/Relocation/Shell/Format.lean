import Relocation.Errno.Text
import Relocation.Shell.Arithmetic
import Relocation.Text.Floating

/-!
# Formatted output

The texts that `echo` and `printf` write. Both know backslash escapes; `printf` also
has directives, each of which takes an argument, and goes through its format again
as long as arguments are left. An argument that is no number is reported, and what can be
read of it counts.
-/

namespace Relocation.Shell.Format

/-- The byte that a single letter behind a backslash stands for. -/
def escapedLetter? (byte : UInt8) : Option UInt8 :=
  match Char.ofNat byte.toNat with
  | '\\' => some 92
  | 'a' => some 7
  | 'b' => some 8
  | 'e' => some 27
  | 'f' => some 12
  | 'n' => some 10
  | 'r' => some 13
  | 't' => some 9
  | 'v' => some 11
  | _ => none

/-- Whether a byte is an octal digit. -/
def isOctal (byte : UInt8) : Bool := decide (48 ≤ byte) && decide (byte ≤ 55)

/-- The byte that octal digits denote. -/
def ofOctal (digits : Bytes) : UInt8 :=
  digits.foldl (fun value digit => value * 8 + (digit - 48)) 0

/-- The byte that the text behind a backslash denotes, and the text behind that. A backslash that
begins no escape stands for itself. -/
def escape (text : Bytes) : UInt8 × Bytes :=
  let digits := (text.take 3).takeWhile isOctal
  if digits.isEmpty then
    match text with
    | byte :: rest => match escapedLetter? byte with
      | some escaped => (escaped, rest)
      | none => (92, text)
    | [] => (92, [])
  else (ofOctal digits, text.drop digits.length)

/-- A text with its escapes replaced, and whether an escape ends all output. Octal escapes begin
with a zero of their own. The bytes written so far are kept in reverse. -/
def unescape : Nat → Bytes → Bytes → Bytes × Bool
  | 0, written, _ => (written.reverse, false)
  | _, written, [] => (written.reverse, false)
  | fuel + 1, written, 92 :: rest =>
    match rest with
    | 99 :: _ => (written.reverse, true)
    | 48 :: digit :: more =>
      let (byte, rest) := escape (if isOctal digit then digit :: more else rest)
      unescape fuel (byte :: written) rest
    | _ =>
      let (byte, rest) := escape rest
      unescape fuel (byte :: written) rest
  | fuel + 1, written, byte :: rest => unescape fuel (byte :: written) rest

/-- A text with its escapes replaced, and whether an escape ends all output. -/
def unescapeAll (text : Bytes) : Bytes × Bool :=
  unescape (text.length + 1) [] text

/-- The words that `echo` writes, joined by spaces up to an escape that ends all output, and whether
there was one. -/
def joinEchoed : List Bytes → Bytes × Bool
  | [] => ([], false)
  | [word] => unescapeAll word
  | word :: rest =>
    let (text, ends) := unescapeAll word
    if ends then (text, true)
    else
      let (more, ends) := joinEchoed rest
      (text ++ 32 :: more, ends)

/-- What `echo` writes. -/
def echo (arguments : List Bytes) : Bytes :=
  let (breaksLine, words) := match arguments with
    | first :: rest => if first = [45, 110] then (false, rest) else (true, arguments)
    | [] => (true, [])
  let (text, ends) := joinEchoed words
  if breaksLine && !ends then text ++ [10] else text

/-! ### Directives -/

/-- How the value of a directive is laid out. -/
structure Layout where
  leftAligned : Bool := false
  zeroPadded : Bool := false
  plusSign : Bool := false
  spaceSign : Bool := false
  alternative : Bool := false
  width : Nat := 0
  precision? : Option Nat := none

namespace Layout

/-- The layout with a flag. -/
def withFlag (layout : Layout) (flag : Char) : Layout :=
  match flag with
  | '-' => { layout with leftAligned := true }
  | '0' => { layout with zeroPadded := true }
  | '+' => { layout with plusSign := true }
  | ' ' => { layout with spaceSign := true }
  | '#' => { layout with alternative := true }
  | _ => layout

/-- The layout with a width, which aligns to the left if it is negative. -/
def withWidth (layout : Layout) (width : Int) : Layout :=
  if width < 0 then { layout with leftAligned := true, width := width.natAbs }
  else { layout with width := width.toNat }

/-- A text padded with spaces to the width. -/
def pad (layout : Layout) (text : Bytes) : Bytes :=
  let spaces := List.replicate (layout.width - text.length) 32
  if layout.leftAligned then text ++ spaces else spaces ++ text

/-- A text cut to the precision and padded. -/
def string (layout : Layout) (text : Bytes) : Bytes :=
  layout.pad (match layout.precision? with
    | some precision => text.take precision
    | none => text)

/-- A number with a sign or base mark before its digits, laid out. -/
def number (layout : Layout) (mark digits : Bytes) : Bytes :=
  let zeros (count : Nat) : Bytes := List.replicate count 48
  match layout.precision? with
  | some precision =>
    let digits := if precision = 0 ∧ digits = [48] then [] else digits
    layout.pad (mark ++ zeros (precision - digits.length) ++ digits)
  | none =>
    if layout.zeroPadded && !layout.leftAligned then
      mark ++ zeros (layout.width - mark.length - digits.length) ++ digits
    else layout.pad (mark ++ digits)

end Layout

/-- The digits of a number in a base. -/
def digitsIn (base : Nat) (upper : Bool) : Nat → Nat → Bytes → Bytes
  | 0, _, digits => digits
  | fuel + 1, n, digits =>
    let c := Decimal.digitChar (n % base)
    let digits := (if upper then c.toUpper else c).toUInt8 :: digits
    if n < base ∨ base < 2 then digits else digitsIn base upper fuel (n / base) digits

/-- The digits of a 64-bit number in a base. -/
def digits (base : Nat) (upper : Bool) (n : Nat) : Bytes :=
  digitsIn base upper 64 n []

/-- A signed number, laid out. -/
def signed (layout : Layout) (value : Int) : Bytes :=
  let mark : Bytes :=
    if value < 0 then [45]
    else if layout.plusSign then [43]
    else if layout.spaceSign then [32]
    else []
  layout.number mark (digits 10 false value.natAbs)

/-- An unsigned number in the base of a directive, laid out. -/
def unsigned (layout : Layout) (directive : Char) (value : Int) : Bytes :=
  let n := (UInt64.ofInt value).toNat
  match directive with
  | 'o' =>
    let text := digits 8 false n
    let text := if layout.alternative && text.head? ≠ some 48 then 48 :: text else text
    if layout.alternative && n = 0 && layout.precision? = some 0 then
      Layout.number { layout with precision? := some 1 } [] text
    else layout.number [] text
  | 'x' => layout.number (if layout.alternative && n ≠ 0 then [48, 120] else []) (digits 16 false n)
  | 'X' => layout.number (if layout.alternative && n ≠ 0 then [48, 88] else []) (digits 16 true n)
  | _ => layout.number [] (digits 10 false n)

/-- A signed value in digits, laid out. Zeros stand between its sign and a finite value. -/
def floating (layout : Layout) (letter : Char) (value : Floating) : Bytes :=
  let mark : Bytes := if value.isNegative then [45] else if layout.plusSign then [43]
    else if layout.spaceSign then [32] else []
  let digits : Bytes := (Floating.digitsFor letter layout.alternative layout.precision? value).map
    fun c => c.toUInt8
  let isFinite := match value.magnitude with
    | .finite _ _ => true
    | _ => false
  let (mark, digits) : Bytes × Bytes := match digits with
    | 48 :: x :: rest => if x = 120 || x = 88 then (mark ++ [48, x], rest) else (mark, digits)
    | digits => (mark, digits)
  if layout.zeroPadded && !layout.leftAligned && isFinite then
    mark ++ List.replicate (layout.width - mark.length - digits.length) 48 ++ digits
  else layout.pad (mark ++ digits)

/-! ### Arguments that are numbers -/

/-- What is wrong with an argument that has to be a number. -/
inductive Misreading where
  | noNumber
  | unfinished
  | outOfRange
  deriving DecidableEq, Repr

/-- What is wrong, in words. -/
def Misreading.text : Misreading → String
  | .noNumber => "expected numeric value"
  | .unfinished => "not completely converted"
  | .outOfRange => "Numerical result out of range"

/-- What is wrong with a text of which only the beginning was read as a number. -/
def misreading? (text rest : Bytes) (isOutOfRange : Bool) : Option Misreading :=
  if !rest.isEmpty then some (if rest.length = text.length then .noNumber else .unfinished)
  else if isOutOfRange then some .outOfRange
  else none

/-- The code of the byte behind a quotation mark. -/
def quotedCode? (argument : Bytes) : Option Nat :=
  match argument with
  | 34 :: rest => some ((rest.head?.map UInt8.toNat).getD 0)
  | 39 :: rest => some ((rest.head?.map UInt8.toNat).getD 0)
  | _ => none

/-- The integer that an argument begins with, in the base that its first digits tell, and what is
wrong with it. A value without a sign counts modulo `2 ^ 64`. -/
def integerOf (isSigned : Bool) (argument : Bytes) : Int × Option Misreading :=
  match quotedCode? argument with
  | some code => (code, none)
  | none =>
    let (sign, body) : Int × Bytes := match argument.dropWhile Arithmetic.isBlank with
      | 45 :: body => (-1, body)
      | 43 :: body => (1, body)
      | body => (1, body)
    let isHex := match body with
      | 48 :: x :: digit :: _ => (x = 120 || x = 88) && (Arithmetic.digit? 16 digit).isSome
      | _ => false
    let base := if isHex then 16 else if body.head? = some 48 then 8 else 10
    let body := if isHex then body.drop 2 else body
    let digits := body.takeWhile fun byte => (Arithmetic.digit? base byte).isSome
    let rest := if digits.isEmpty then argument else body.drop digits.length
    let size := (Arithmetic.ofDigits? base digits).getD 0
    let value := sign * (size : Int)
    if isSigned then
      let clamped := Arithmetic.clamp value
      (clamped, misreading? argument rest (clamped ≠ value))
    else if 0x10000000000000000 ≤ size then (-1, misreading? argument rest true)
    else (value, misreading? argument rest false)

/-- The floating-point number that an argument begins with, and what is wrong with it. -/
def floatingOf (argument : Bytes) : Floating × Option Misreading :=
  match quotedCode? argument with
  | some code => (⟨false, .finite code 0⟩, none)
  | none =>
    let read := Floating.read (argument.map fun byte => Char.ofNat byte.toNat)
    let rest := argument.drop (argument.length - read.rest.length)
    (read.value, misreading? argument rest read.isOutOfRange)

/-! ### Formats -/

/-- Where `printf` stands: what it has written and what it has complained about, the last piece
first, and the arguments that are left. -/
structure Printer where
  written : List Bytes := []
  complaints : List Bytes := []
  arguments : List Bytes
  usedAny : Bool := false

namespace Printer

/-- Add a piece of output. -/
def write (printer : Printer) (text : Bytes) : Printer :=
  { printer with written := text :: printer.written }

/-- Take the next argument. -/
def next (printer : Printer) : Option Bytes × Printer :=
  match printer.arguments with
  | [] => (none, { printer with usedAny := true })
  | argument :: rest => (some argument, { printer with arguments := rest, usedAny := true })

/-- Take the next argument as a number. One that is missing counts as zero. -/
def nextNumber {α : Type} (printer : Printer) (zero : α) (read : Bytes → α × Option Misreading) :
    α × Printer :=
  match printer.next with
  | (none, printer) => (zero, printer)
  | (some argument, printer) =>
    match read argument with
    | (value, none) => (value, printer)
    | (value, some misreading) =>
      let complaint := argument ++ Bytes.ofString (": " ++ misreading.text)
      (value, { printer with complaints := complaint :: printer.complaints })

/-- Take the next argument as an integer. -/
def nextInteger (printer : Printer) (isSigned : Bool) : Int × Printer :=
  printer.nextNumber 0 (integerOf isSigned)

end Printer

/-- How one pass through a format ends. -/
inductive PassEnd where
  | complete
  /-- An escape ends all output. -/
  | ended
  /-- There is no letter behind a percent sign. -/
  | unfinished
  /-- There is no such directive. -/
  | invalid (directive : Bytes)
  /-- A width or a precision is too large. -/
  | tooLong
  deriving DecidableEq

/-- The largest width and precision. -/
def maxSize : Nat := 0x7fffffff

/-- Read a width or a precision: a number, or a star that takes an argument, of which 32 bits
count. -/
def readSize (printer : Printer) (format : Bytes) : Option Int × Printer × Bytes :=
  match format with
  | 42 :: rest =>
    let (value, printer) := printer.nextInteger true
    (some (Int.bmod value 0x100000000), printer, rest)
  | _ =>
    let digits := format.takeWhile fun byte => decide (48 ≤ byte) && decide (byte ≤ 57)
    if digits.isEmpty then (none, printer, format)
    else
      let value := (Arithmetic.ofDigits? 10 digits).getD 0
      (some (value : Int), printer, format.drop digits.length)

/-- Write the next argument as the letter of a directive says. It gives whether an escape ends all
output, if there is such a letter. -/
def writeNext? (printer : Printer) (layout : Layout) (letter : Char) : Option (Printer × Bool) :=
  match letter with
  | 's' =>
    let (argument?, printer) := printer.next
    some (printer.write (layout.string (argument?.getD [])), false)
  | 'b' =>
    let (argument?, printer) := printer.next
    let (text, ends) := unescapeAll (argument?.getD [])
    some (printer.write (layout.string text), ends)
  | 'c' =>
    let (argument?, printer) := printer.next
    let text := match argument? with
      | some (byte :: _) => [byte]
      | _ => [0]
    some (printer.write (layout.pad text), false)
  | c =>
    if c = 'd' ∨ c = 'i' then
      let (value, printer) := printer.nextInteger true
      some (printer.write (signed layout value), false)
    else if ['o', 'u', 'x', 'X'].contains c then
      let (value, printer) := printer.nextInteger false
      some (printer.write (unsigned layout c value), false)
    else if ['a', 'A', 'e', 'E', 'f', 'F', 'g', 'G'].contains c then
      let (value, printer) := printer.nextNumber ⟨false, .finite 0 0⟩ floatingOf
      some (printer.write (floating layout c value), false)
    else none

/-- Carry out a directive, given what follows its percent sign. -/
def directive (printer : Printer) (format : Bytes) : Printer × Bytes × PassEnd :=
  let whole := format
  let flags := format.takeWhile fun byte => [45, 43, 32, 35, 48].contains byte
  let layout := flags.foldl (fun (layout : Layout) byte =>
    layout.withFlag (Char.ofNat byte.toNat)) {}
  let (width?, printer, format) := readSize printer (format.drop flags.length)
  let layout := match width? with
    | some width => layout.withWidth width
    | none => layout
  let (layout, printer, format) : Layout × Printer × Bytes := match format with
    | 46 :: rest =>
      let (precision?, printer, format) := readSize printer rest
      let precision := precision?.getD 0
      ({ layout with precision? := if precision < 0 then none else some precision.toNat }, printer,
        format)
    | _ => (layout, printer, format)
  match format with
  | [] => (printer, [], .unfinished)
  | byte :: rest =>
    let isTooLong := decide (maxSize < layout.width) ||
      layout.precision?.any fun precision => decide (maxSize < precision)
    let layout := if isTooLong then {} else layout
    match writeNext? printer layout (Char.ofNat byte.toNat) with
    | some (after, ends) =>
      if isTooLong then ({ after with written := printer.written }, rest, .tooLong)
      else (after, rest, if ends then .ended else .complete)
    | none => (printer, rest, .invalid (37 :: whole.take (whole.length - rest.length)))

/-- Go through a format once. -/
def pass : Nat → Printer → Bytes → Printer × PassEnd
  | 0, printer, _ => (printer, .complete)
  | _, printer, [] => (printer, .complete)
  | fuel + 1, printer, 92 :: rest =>
    let (byte, rest) := escape rest
    pass fuel (printer.write [byte]) rest
  | fuel + 1, printer, 37 :: 37 :: rest => pass fuel (printer.write [37]) rest
  | fuel + 1, printer, 37 :: rest =>
    match directive printer rest with
    | (printer, rest, .complete) => pass fuel printer rest
    | (printer, _, state) => (printer, state)
  | fuel + 1, printer, byte :: rest => pass fuel (printer.write [byte]) rest

/-- Go through a format until no argument is left. -/
def passes (format : Bytes) : Nat → Printer → Printer × PassEnd
  | 0, printer => (printer, .complete)
  | fuel + 1, printer =>
    let (printer, state) := pass (format.length + 1) { printer with usedAny := false } format
    if state = .complete ∧ printer.usedAny ∧ printer.arguments ≠ [] then passes format fuel printer
    else (printer, state)

/-- What becomes of a use of `printf`. -/
structure Result where
  output : Bytes
  complaints : List Bytes
  /-- What ends it early, if it is an error. -/
  failure? : Option Bytes

/-- What `printf` writes, and what it complains about. -/
def printf (format : Bytes) (arguments : List Bytes) : Result :=
  let (printer, state) := passes format (arguments.length + 1) { arguments := arguments }
  { output := printer.written.reverse.flatten
    complaints := printer.complaints.reverse
    failure? := match state with
      | .unfinished => some (Bytes.ofString "missing format character")
      | .invalid directive => some (directive ++ Bytes.ofString ": invalid directive")
      | .tooLong => some (Bytes.ofString "xvsnprintf failed")
      | _ => none }

end Relocation.Shell.Format
