import Relocation.Base64.Encoding
import Relocation.Utility.Copy
import Relocation.Utility.Count

/-!
# Utilities for encodings

The programs that write bytes as text, and back.
-/

namespace Relocation.Utility

open Machine (Program)

/-! ### Letters for bits -/

/-- Four symbols as three bytes, again and again. It gives whether all symbols could be read. -/
def ofSymbols : Nat → Bytes → Bytes × Bool
  | 0, _ => ([], true)
  | _, [] => ([], true)
  | fuel + 1, symbols =>
    let group := symbols.take 4
    let values := (group.takeWhile (· ≠ Base64.padByte)).map Base64.value?
    let value := values.foldl (fun value digit? =>
      value * 64 + ((digit?.map UInt8.toNat).getD 0)) 0
    let value := value * Nat.pow 64 (4 - values.length)
    let bytes := [(value / 65536).toUInt8, (value / 256 % 256).toUInt8, (value % 256).toUInt8].take
      (values.length - 1)
    let isKnown := values.all Option.isSome
    if !isKnown || group.length < 4 || values.length < 2 then
      (if isKnown then bytes else [], false)
    else
      let (rest, isWhole) := ofSymbols fuel (symbols.drop 4)
      (bytes ++ rest, isWhole)

/-- A text in lines of a width. -/
def wrapped (width : Nat) (text : Bytes) : Bytes :=
  if width = 0 then text else joinLines (foldLine width (text.length + 1) text)
where
  /-- The lines of the text. -/
  foldLine (width : Nat) : Nat → Bytes → List Bytes
    | 0, _ => []
    | _, [] => []
    | fuel + 1, text => text.take width :: foldLine width fuel (text.drop width)

/-- Write bytes as symbols of six bits, or the other way. -/
def base64 : Work := fun task => do
  let (options, paths) ← task.read {
    letters := "diw:", names := [("decode", 'd'), ("ignore-garbage", 'i'), ("wrap", 'w')] }
  match ← task.readFile? (paths.headD standardInput) with
  | none => return 1
  | some content =>
    if has 'd' options then
      let symbols := content.filter fun byte => byte ≠ 10 &&
        (!has 'i' options || (Base64.value? byte).isSome || byte = Base64.padByte)
      let (bytes, isWhole) := ofSymbols (symbols.length + 1) symbols
      task.put bytes
      if isWhole then return 0 else task.fail (Bytes.ofString "invalid input")
    else
      let width := ((argumentOf? 'w' options).bind number?).getD 76
      task.put (wrapped width (Base64.encode content))
      return 0

/-! ### Dumps -/

/-- How the bytes of a dump are written. -/
structure DumpFormat where
  /-- How many bytes make a unit. -/
  size : Nat
  /-- How many columns a unit takes. -/
  width : Nat
  text : Bytes → Bytes

/-- A number in a base with leading zeros. -/
def digitsOf (base width value : Nat) : Bytes :=
  let digits := (Nat.toDigits base value).map fun c => c.toNat.toUInt8
  List.replicate (width - digits.length) 48 ++ digits

/-- The number that bytes make, the lowest ones first. -/
def littleEndian (bytes : Bytes) : Nat :=
  bytes.foldr (fun byte value => value * 256 + byte.toNat) 0

/-- A byte as a character or an escape. -/
def characterText (byte : UInt8) : Bytes :=
  let named : List (UInt8 × String) :=
    [(0, "\\0"), (7, "\\a"), (8, "\\b"), (12, "\\f"), (10, "\\n"), (13, "\\r"), (9, "\\t"),
      (11, "\\v")]
  match named.lookup byte with
  | some text => Bytes.ofString text
  | none => if 32 ≤ byte && byte < 127 then [byte] else digitsOf 8 3 byte.toNat

/-- The names of the bytes that are not printed. -/
def controlNames : List String :=
  ["nul", "soh", "stx", "etx", "eot", "enq", "ack", "bel", "bs", "ht", "nl", "vt", "ff", "cr", "so",
    "si", "dle", "dc1", "dc2", "dc3", "dc4", "nak", "syn", "etb", "can", "em", "sub", "esc", "fs",
    "gs", "rs", "us", "sp"]

/-- A byte by its name. -/
def nameText (byte : UInt8) : Bytes :=
  let low := byte &&& 127
  match controlNames[low.toNat]? with
  | some name => Bytes.ofString name
  | none => if low = 127 then Bytes.ofString "del" else [low]

/-- The signed number of so many bytes. -/
def signedText (size value : Nat) : Bytes :=
  let bound := Nat.pow 256 size
  if 2 * value < bound then numberText value else 45 :: numberText (bound - value)

/-- The number of columns of units in a base. -/
def columnsOf (letter : UInt8) (size : Nat) : Nat :=
  match letter with
  | 120 => 2 * size
  | 111 => (8 * size + 2) / 3
  | _ => ([(1, 3), (2, 5), (4, 10), (8, 20)].lookup size).getD 5

/-- The format of a letter and a size. -/
def formatOf? (letter : UInt8) (size : Nat) : Option DumpFormat :=
  let width := columnsOf letter size
  match letter with
  | 97 => some { size := 1, width := 3, text := fun bytes => nameText (bytes.headD 0) }
  | 99 => some { size := 1, width := 3, text := fun bytes => characterText (bytes.headD 0) }
  | 120 => some { size, width, text := fun bytes => digitsOf 16 width (littleEndian bytes) }
  | 111 => some { size, width, text := fun bytes => digitsOf 8 width (littleEndian bytes) }
  | 117 => some { size, width, text := fun bytes => numberText (littleEndian bytes) }
  | 100 => some {
      size, width := width + 1, text := fun bytes => signedText size (littleEndian bytes) }
  | _ => none

/-- Read the formats that a word lists. -/
def readFormats? : Nat → Bytes → Option (List DumpFormat)
  | 0, _ => none
  | _, [] => some []
  | fuel + 1, letter :: rest => do
    let digits := rest.takeWhile fun byte => 48 ≤ byte && byte ≤ 57
    let (size, rest) := match rest with
      | 67 :: rest => (1, rest)
      | 83 :: rest => (2, rest)
      | 73 :: rest => (4, rest)
      | 76 :: rest => (8, rest)
      | rest => ((number? digits).getD 4, rest.drop digits.length)
    if !([1, 2, 4, 8].contains size) then none
    else
      let format ← formatOf? letter size
      return format :: (← readFormats? fuel rest)

/-- The formats that single letters stand for. -/
def letterFormat? (letter : Char) : Option DumpFormat :=
  match letter with
  | 'a' => formatOf? 97 1
  | 'b' => formatOf? 111 1
  | 'c' => formatOf? 99 1
  | 'd' => formatOf? 117 2
  | 'o' => formatOf? 111 2
  | 's' => formatOf? 100 2
  | 'x' => formatOf? 120 2
  | 'B' => formatOf? 111 2
  | 'h' => formatOf? 120 2
  | 'i' => formatOf? 100 4
  | _ => none

/-- A list in runs of so many items. -/
def runsOf {α : Type} (size : Nat) : Nat → List α → List (List α)
  | 0, _ => []
  | _, [] => []
  | fuel + 1, items => items.take size :: runsOf size fuel (items.drop size)

/-- A row of a dump in a format, in columns that are as wide as those of all formats have to be. -/
def dumpRow (format : DumpFormat) (perByte : Nat) (row : Bytes) : Bytes :=
  (runsOf format.size (row.length + 1) row).flatMap fun unit =>
    padLeft (perByte * format.size) (format.text unit)

/-- How a place in a file is written. -/
def placeText (letter : UInt8) (place : Nat) : Bytes :=
  match letter with
  | 110 => []
  | 120 => digitsOf 16 6 place
  | 100 => digitsOf 10 7 place
  | _ => digitsOf 8 7 place

/-- Write bytes in numbers or characters. -/
def od : Work := fun task => do
  let (options, paths) ← task.read {
    letters := "A:t:N:j:w:vabcdosxBhiS:",
    names := [("address-radix", 'A'), ("format", 't'), ("read-bytes", 'N'), ("skip-bytes", 'j'),
      ("width", 'w'), ("output-duplicates", 'v')] }
  let formats ← options.flatMapM fun option => do
    if option.letter = 't' then
      match readFormats? (option.argument.length + 1) option.argument with
      | some formats => pure formats
      | none => task.fail (Bytes.ofString "invalid type string " ++ quoted option.argument)
    else pure (letterFormat? option.letter).toList
  let formats := if formats.isEmpty then (letterFormat? 'o').toList else formats
  let radix := ((argumentOf? 'A' options).bind List.head?).getD 111
  let width := max 1 (((argumentOf? 'w' options).bind number?).getD 16)
  let skip := ((argumentOf? 'j' options).bind number?).getD 0
  let (content, isWhole) ← task.readTogether paths
  let content := content.drop skip
  let content := match (argumentOf? 'N' options).bind number? with
    | some most => content.take most
    | none => content
  let perByte := (formats.map fun format =>
    (format.width + 1 + format.size - 1) / format.size).foldl max 0
  let rows := (runsOf width (content.length + 1) content).zipIdx
  let (_, _, lines) := rows.foldl
    (fun ((last?, isStarred, done) : Option Bytes × Bool × List Bytes) (row, index) =>
      if last? = some row && row.length = width && !has 'v' options then
        (last?, true, if isStarred then done else [42, 10] :: done)
      else
        let front := placeText radix (skip + index * width)
        let texts := formats.zipIdx.map fun (format, number) =>
          (if number = 0 then front else List.replicate front.length 32) ++
            dumpRow format perByte row ++ [10]
        (some row, false, texts.flatten :: done)) (none, false, [])
  task.put lines.reverse.flatten
  if radix ≠ 110 then task.putLine (placeText radix (skip + content.length))
  return if isWhole then 0 else 1

end Relocation.Utility
