import Relocation.Utility.Options

/-!
# Utilities that copy

The programs that write what they read, the whole of it or its start or its end. They
pass on each piece as soon as they have it, and read no more than they need.
-/

namespace Relocation.Utility

open Machine (Program)

/-! ### Whole files -/

/-- How `cat` shows what it reads. -/
structure Showing where
  numbersAll : Bool := false
  numbersFilled : Bool := false
  squeezes : Bool := false
  marksEnds : Bool := false
  marksTabs : Bool := false
  marksOthers : Bool := false

/-- The options of `cat`. -/
def showingOf (options : List Given) : Showing :=
  let any (letters : List Char) : Bool := letters.any fun letter => has letter options
  { numbersAll := any ['n']
    numbersFilled := any ['b']
    squeezes := any ['s']
    marksEnds := any ['E', 'e', 'A']
    marksTabs := any ['T', 't', 'A']
    marksOthers := any ['v', 'e', 't', 'A'] }

/-- Whether everything is shown as it is. -/
def Showing.isPlain (showing : Showing) : Bool :=
  !(showing.numbersAll || showing.numbersFilled || showing.squeezes || showing.marksEnds ||
    showing.marksTabs || showing.marksOthers)

/-- A byte as text in which nothing is hidden. -/
def visible (byte : UInt8) : Bytes :=
  let low := byte &&& 127
  let body := if low < 32 then [94, low + 64] else if low = 127 then [94, 63] else [low]
  if byte < 128 then body else [77, 45] ++ body

/-- A byte of a line as it is shown. -/
def Showing.byte (showing : Showing) (byte : UInt8) : Bytes :=
  if byte = 9 then if showing.marksTabs then [94, 73] else [9]
  else if showing.marksOthers then visible byte
  else [byte]

/-- Show lines, the first of which gets a number. -/
def Showing.lines (showing : Showing) : Nat → (afterBlank : Bool) → List Bytes → List Bytes
  | _, _, [] => []
  | _, _, [[]] => []
  | number, afterBlank, line :: rest =>
    let isBlank := line.isEmpty
    if isBlank && afterBlank && showing.squeezes then showing.lines number true rest
    else
      let isNumbered := if showing.numbersFilled then !isBlank else showing.numbersAll
      let front := if isNumbered then padLeft 6 (numberText number) ++ [9] else []
      let back := if rest.isEmpty then [] else if showing.marksEnds then [36, 10] else [10]
      (front ++ line.flatMap showing.byte ++ back) ::
        showing.lines (if isNumbered then number + 1 else number) isBlank rest

/-- Write files one after the other. -/
def cat : Work := fun task => do
  let (options, paths) ← task.read {
    letters := "AbeEnstTuv",
    names := [("show-all", 'A'), ("number-nonblank", 'b'), ("show-ends", 'E'), ("number", 'n'),
      ("squeeze-blank", 's'), ("show-tabs", 'T'), ("show-nonprinting", 'v')] }
  let showing := showingOf options
  if showing.isPlain then
    let mut status := 0
    for path in Task.inputs paths do
      let isDone ← task.withFile path fun descriptor =>
        Program.forPieces descriptor task.put Program.unbounded
      if !isDone then status := 1
    return status
  else
    let (content, isWhole) ← task.readTogether paths
    task.put (showing.lines 1 false (content.splitOn (· = 10))).flatten
    return if isWhole then 0 else 1

/-- Write the standard input to files and to the standard output. -/
def tee : Work := fun task => do
  let (options, paths) ← task.read {
    letters := "aip", names := [("append", 'a'), ("ignore-interrupts", 'i')] }
  let appends := has 'a' options
  let mut status := 0
  let mut targets : List Nat := []
  for path in paths do
    match ← Program.openPath path
        { writes := true, creates := true, truncates := !appends, appends := appends } with
    | .ok descriptor => targets := targets ++ [descriptor]
    | .error errno =>
      task.reportFile path errno
      status := 1
  let opened := targets
  match ← Program.forPieces 0 (fun piece => do
      task.put piece
      for target in opened do
        let _ ← Program.write target piece) Program.unbounded with
  | none => return status
  | some errno =>
    task.report (Bytes.ofString ("read error: " ++ errno.libraryText))
    return 1

/-! ### Parts of files -/

/-- The units that a number of bytes can be given in. -/
def units : List (String × Nat) :=
  [("b", 512), ("kB", 1000), ("K", 1024), ("KiB", 1024), ("k", 1024), ("MB", 1000000),
    ("M", 1048576), ("MiB", 1048576), ("m", 1048576), ("GB", 1000000000), ("G", 1073741824)]

/-- A number with a unit. -/
def amount? (word : Bytes) : Option Nat := do
  let isDigit (byte : UInt8) : Bool := 48 ≤ byte && byte ≤ 57
  let digits := word.takeWhile isDigit
  let number ← number? digits
  match word.dropWhile isDigit with
  | [] => some number
  | unit => (units.find? fun entry => Bytes.ofString entry.1 = unit).map (number * ·.2)

/-- A part of a file: a number of lines or bytes, counted from its start or its end. -/
structure Part where
  count : Nat := 10
  countsBytes : Bool := false
  /-- Whether a sign stood in front of the number. -/
  sign? : Option UInt8 := none

/-- The part that an option asks for. -/
def Part.ofOption (task : Task) (option : Given) : Program Part := do
  let countsBytes := option.letter = 'c'
  let (sign?, word) : Option UInt8 × Bytes := match option.argument with
    | 45 :: word => (some 45, word)
    | 43 :: word => (some 43, word)
    | word => (none, word)
  match amount? word with
  | some count => return { count, countsBytes, sign? }
  | none =>
    let unit := if countsBytes then "bytes" else "lines"
    task.fail (Bytes.ofString ("invalid number of " ++ unit ++ ": ") ++ quoted word)

/-- The arguments with a number behind a minus sign in the first of them written as an option. -/
def modernArguments (arguments : List Bytes) : List Bytes :=
  match arguments with
  | (45 :: word) :: rest =>
    let isDigit (byte : UInt8) : Bool := 48 ≤ byte && byte ≤ 57
    let digits := word.takeWhile isDigit
    if digits.isEmpty then arguments
    else
      let letters := word.dropWhile isDigit
      let unit : UInt8 := if letters.contains 99 then 99 else 110
      let marks := letters.filter fun byte => byte = 113 || byte = 118
      (45 :: unit :: digits) :: (if marks.isEmpty then rest else (45 :: marks) :: rest)
  | arguments => arguments

/-- What `head` and `tail` are asked for: the part, the files, and whether their names are shown. -/
structure PartRequest where
  part : Part
  paths : List Bytes
  showsNames : Bool

/-- Read the arguments of `head` and `tail`. -/
def readPart (task : Task) : Program PartRequest := do
  let task := { task with arguments := modernArguments task.arguments }
  let (options, paths) ← task.read {
    letters := "n:c:qvzf",
    names := [("lines", 'n'), ("bytes", 'c'), ("quiet", 'q'), ("silent", 'q'), ("verbose", 'v')] }
  let amounts := options.filter fun option => option.letter = 'n' || option.letter = 'c'
  let parts ← amounts.mapM (Part.ofOption task)
  let showsNames := match (options.filter fun option =>
      option.letter = 'q' || option.letter = 'v').getLast? with
    | some option => option.letter = 'v'
    | none => 1 < paths.length
  return { part := parts.getLast?.getD {}, paths := Task.inputs paths, showsNames }

/-- The line that shows the name of a file, with an empty line in front of all but the first one. -/
def nameLine (isFirst : Bool) (path : Bytes) : Bytes :=
  let name := if path = standardInput then Bytes.ofString "standard input" else path
  (if isFirst then [] else [10]) ++ Bytes.ofString "==> " ++ name ++ Bytes.ofString " <==\n"

/-- The number of bytes up to the end of a line, counted from one on, if there are so many lines. -/
def lengthOfLines : Nat → Bytes → Option Nat
  | 0, _ => some 0
  | _ + 1, [] => none
  | count + 1, 10 :: rest => (lengthOfLines count rest).map (· + 1)
  | count + 1, _ :: rest => (lengthOfLines (count + 1) rest).map (· + 1)

/-- Write lines or bytes from the start of a descriptor, and move back to their end. -/
def copyStart (task : Task) (descriptor : Nat) (countsBytes : Bool) : Nat → Nat →
    Program (Option Errno)
  | 0, _ => return none
  | fuel + 1, count => do
    if count = 0 then return none
    match ← Program.read descriptor 8192 with
    | .error errno => return some errno
    | .ok [] => return none
    | .ok piece =>
      let length? := if countsBytes then if count ≤ piece.length then some count else none
        else if piece.count 10 < count then none
        else lengthOfLines count piece
      match length? with
      | some length =>
        Program.moveBack descriptor (piece.length - length)
        task.put (piece.take length)
        return none
      | none =>
        task.put piece
        copyStart task descriptor countsBytes fuel
          (count - if countsBytes then piece.length else piece.count 10)

/-- The pieces of a text that end with a line end each, apart from the last one. -/
def endedLines (text : Bytes) : List Bytes :=
  let lines := text.splitOn (· = 10)
  let ended := lines.dropLast.map (· ++ [10])
  match lines.getLast? with
  | some [] => ended
  | some line => ended ++ [line]
  | none => ended

/-- The lines or bytes of a text. -/
def unitsOf (countsBytes : Bool) (text : Bytes) : List Bytes :=
  if countsBytes then text.map ([·]) else endedLines text

/-- Write all but the end of a descriptor. -/
def copyAllBut (task : Task) (descriptor : Nat) (part : Part) : Program (Option Errno) := do
  match ← Program.readAll descriptor with
  | .error errno => return some errno
  | .ok content =>
    let items := unitsOf part.countsBytes content
    task.put (items.take (items.length - part.count)).flatten
    return none

/-- Apply something to the descriptors of files whose names are shown if that is asked for. -/
def forParts (task : Task) (request : PartRequest) (act : String)
    (action : Nat → Program (Option Errno)) : Program Nat := do
  let mut status := 0
  let mut isFirst := true
  for path in request.paths do
    let opened : Except Errno Nat ← if path = standardInput then pure (.ok 0)
      else Program.openPath path { reads := true }
    match opened with
    | .error errno =>
      task.report (Bytes.ofString "cannot open " ++ quoted path ++
        Bytes.ofString (" for reading: " ++ errno.libraryText))
      status := 1
    | .ok descriptor =>
      if request.showsNames then task.put (nameLine isFirst path)
      isFirst := false
      match ← action descriptor with
      | none => pure ()
      | some errno =>
        task.reportAct act path errno
        status := 1
      if descriptor ≠ 0 then Program.close descriptor
  return status

/-- The text of an error about a file that could be opened, but not be read. -/
def readingAct : String := "error reading"

/-- Write the start of files. -/
def head : Work := fun task => do
  let request ← readPart task
  let part := request.part
  forParts task request readingAct fun descriptor =>
    if part.sign? = some 45 then copyAllBut task descriptor part
    else copyStart task descriptor part.countsBytes Program.unbounded part.count

/-- Write the end of files. -/
def tail : Work := fun task => do
  let request ← readPart task
  let part := request.part
  forParts task request readingAct fun descriptor => do
    match ← Program.readAll descriptor with
    | .error errno => return some errno
    | .ok content =>
      let items := unitsOf part.countsBytes content
      let start := if part.sign? = some 43 then part.count - 1 else items.length - part.count
      task.put (items.drop start).flatten
      return none

/-- Write the lines of files in reverse. -/
def tac : Work := fun task => do
  let (_, paths) ← task.read { letters := "" }
  task.forFiles paths fun _ content => task.put (endedLines content).reverse.flatten

/-! ### Endless output -/

/-- How many bytes are written at once. -/
def chunkSize : Nat := 4096

/-- Write a line again and again until nobody wants it. -/
def yes : Work := fun task => do
  let words := if task.arguments.isEmpty then [[121]] else task.arguments
  let line := [32].intercalate words ++ [10]
  let chunk := (List.replicate (chunkSize / line.length + 1) line).flatten
  let rec repeats : Nat → Program Nat
    | 0 => return 0
    | fuel + 1 => do
      task.put chunk
      repeats fuel
  repeats Program.unbounded

end Relocation.Utility
