import Relocation.Utility.Options

/-!
# Utilities that count

The programs that count what is in files, and those that write numbers.
-/

namespace Relocation.Utility

open Machine (FileKind Kernel Program)

/-! ### Counts of files -/

/-- What is counted in a file. -/
structure Counts where
  lines : Nat := 0
  words : Nat := 0
  bytes : Nat := 0
  /-- The width of the widest line. -/
  width : Nat := 0

/-- Whether a byte stands between words. -/
def isBlank (byte : UInt8) : Bool := byte = 32 || (9 ≤ byte && byte ≤ 13)

/-- The width of a line. Tabs reach to the next multiple of eight columns. -/
def widthOf (line : Bytes) : Nat :=
  line.foldl (fun width byte =>
    if byte = 9 then (width / 8 + 1) * 8
    else if 32 ≤ byte && byte < 127 then width + 1
    else width) 0

/-- Count what is in a text. -/
def Counts.ofText (text : Bytes) : Counts where
  lines := text.count 10
  words := (text.splitOn isBlank).countP fun word => !word.isEmpty
  bytes := text.length
  width := (text.splitOn fun byte => byte = 10 || byte = 13 || byte = 12).foldl
    (fun width line => max width (widthOf line)) 0

/-- The counts of two files together. -/
def Counts.add (a b : Counts) : Counts where
  lines := a.lines + b.lines
  words := a.words + b.words
  bytes := a.bytes + b.bytes
  width := max a.width b.width

/-- The counts that are asked for, in their order. -/
def Counts.shown (counts : Counts) (letters : List Char) : List Nat :=
  [('l', counts.lines), ('w', counts.words), ('m', counts.bytes), ('c', counts.bytes),
    ('L', counts.width)].filterMap fun (letter, count) =>
      if letters.contains letter then some count else none

/-- The size of what is read, if that is known before. -/
def sizeOf (path : Bytes) : Program (Option Nat) :=
  Program.look fun process kernel =>
    let place? := if path = standardInput then
        (kernel.openFile? process 0).map fun (_, file) => Kernel.placeBehind file
      else (kernel.find process path).toOption
    match place? with
    | none => some 0
    | some place =>
      let facts := kernel.factsAt place
      if facts.kind = .regular then some facts.size else none

/-- The number of columns that counts of files take. -/
def columnsFor (sizes : List (Option Nat)) : Nat :=
  let total := (sizes.map (·.getD 0)).foldl (· + ·) 0
  let least := if sizes.all Option.isSome then 1 else 7
  max least (Decimal.ofNat total).length

/-- Count the lines, words and bytes of files. -/
def wc : Work := fun task => do
  let (options, paths) ← task.read {
    letters := "lwcmL",
    names := [("lines", 'l'), ("words", 'w'), ("bytes", 'c'), ("chars", 'm'),
      ("max-line-length", 'L')] }
  let letters := if options.isEmpty then ['l', 'w', 'c'] else options.map (·.letter)
  let inputs := Task.inputs paths
  let columns ← if inputs.length = 1 && (({} : Counts).shown letters).length = 1 then pure 1
    else do pure (columnsFor (← inputs.mapM sizeOf))
  let line (counts : Counts) (name : Bytes) : Program Unit :=
    task.putLine ([32].intercalate ((counts.shown letters).map fun count =>
      padLeft columns (numberText count)) ++ name)
  let mut total : Counts := {}
  let mut status := 0
  for path in inputs do
    match ← task.readFile? path with
    | none => status := 1
    | some content =>
      let counts := Counts.ofText content
      line counts (if paths.isEmpty then [] else 32 :: path)
      total := total.add counts
  if 1 < inputs.length then line total (Bytes.ofString " total")
  return status

/-! ### Sequences -/

/-- A decimal number as a count of parts, of which so many decimal places make one. -/
structure Amount where
  count : Int
  places : Nat := 0

/-- Read a decimal number. -/
def Amount.parse? (word : Bytes) : Option Amount := do
  let (sign, body) : Int × Bytes := match word with
    | 45 :: body => (-1, body)
    | 43 :: body => (1, body)
    | body => (1, body)
  let (whole, fraction) := (Bytes.cut? (· = 46) body).getD (body, [])
  let digits := whole ++ fraction
  let count ← number? digits
  return { count := sign * (count : Int), places := fraction.length }

/-- The number of parts if there are more decimal places. -/
def Amount.scaled (amount : Amount) (places : Nat) : Int :=
  amount.count * ((Nat.pow 10 (places - amount.places) : Nat) : Int)

/-- The text of a number of parts. -/
def partsText (places : Nat) (count : Int) : Bytes :=
  let digits := Decimal.ofNat count.natAbs
  let digits := String.ofList (List.replicate (places + 1 - digits.length) '0') ++ digits
  let whole := (digits.toList.take (digits.length - places))
  let fraction := digits.toList.drop (digits.length - places)
  let text := whole ++ if places = 0 then [] else '.' :: fraction
  Bytes.ofString (String.ofList (if count < 0 then '-' :: text else text))

/-- A number with zeros in front up to a width. -/
def withZeros (width : Nat) (text : Bytes) : Bytes :=
  let zeros := List.replicate (width - text.length) 48
  match text with
  | 45 :: digits => 45 :: zeros ++ digits
  | digits => zeros ++ digits

/-- Write numbers from one to another in steps, at most so many. -/
def putSteps (task : Task) (text : Int → Bytes) (separator : Bytes) (step last : Int) :
    Nat → Int → (isFirst : Bool) → Program Unit
  | 0, _, _ => return
  | fuel + 1, next, isFirst => do
    if (0 < step && last < next) || (step < 0 && next < last) then
      if !isFirst then task.put [10]
    else
      let count := 512
      let run := (List.range count).map fun (i : Nat) => next + step * (i : Int)
      let run := run.takeWhile fun value =>
        !((0 < step && last < value) || (step < 0 && value < last))
      let body := separator.intercalate (run.map text)
      task.put (if isFirst then body else separator ++ body)
      putSteps task text separator step last fuel (next + step * (run.length : Int)) false

/-- The words of a task with numbers kept apart from the options. -/
def guardNumbers (arguments : List Bytes) : List Bytes :=
  let isNegative (word : Bytes) : Bool := match word with
    | 45 :: byte :: _ => byte = 46 || (48 ≤ byte && byte ≤ 57)
    | _ => false
  match arguments.findIdx? isNegative with
  | some index =>
    if (arguments.take index).contains [45, 45] then arguments
    else arguments.take index ++ [45, 45] :: arguments.drop index
  | none => arguments

/-- Write the numbers of a sequence. -/
def seq : Work := fun task => do
  let (options, words) ← { task with arguments := guardNumbers task.arguments }.read {
    letters := "s:wf:", stopsEarly := true,
    names := [("separator", 's'), ("equal-width", 'w'), ("format", 'f')] }
  let amounts ← words.mapM fun word => do
    match Amount.parse? word with
    | some amount => pure amount
    | none => task.misuse (Bytes.ofString "invalid floating point argument: " ++ quoted word)
  let one : Amount := { count := 1 }
  let (first, step, last) ← match amounts with
    | [] => task.misuse (Bytes.ofString "missing operand")
    | [last] => pure (one, one, last)
    | [first, last] => pure (first, one, last)
    | [first, step, last] => pure (first, step, last)
    | _ => task.misuse (Bytes.ofString "extra operand " ++ quoted ((words[3]?).getD []))
  if step.count = 0 then
    task.misuse (Bytes.ofString "invalid Zero increment value: " ++ quoted ((words[1]?).getD []))
  let places := max first.places step.places
  let scale := max places last.places
  let unit : Int := ((Nat.pow 10 (scale - places) : Nat) : Int)
  let text (value : Int) : Bytes := partsText places (value / unit)
  let start := first.scaled scale
  let stop := last.scaled scale
  let stride := step.scaled scale
  let final := start + (stop - start) / stride * stride
  let width := if has 'w' options then max (text start).length (text final).length else 0
  putSteps task (fun value => withZeros width (text value)) ((argumentOf? 's' options).getD [10])
    stride stop Program.unbounded start true
  return 0

end Relocation.Utility
