import Relocation.Utility.Copy

/-!
# Utilities for lines

The programs that drop repeated lines, cut parts out of lines, and put lines together.
-/

namespace Relocation.Utility

open Machine (Program)

/-! ### Repeated lines -/

/-- What `uniq` compares and writes. -/
structure Repeats where
  fields : Nat := 0
  bytes : Nat := 0
  width? : Option Nat := none
  foldsCase : Bool := false
  counts : Bool := false
  onlyRepeated : Bool := false
  onlyUnique : Bool := false

/-- The part of a line that is compared. -/
def Repeats.view (repeats : Repeats) (line : Bytes) : Bytes :=
  let isGap (byte : UInt8) : Bool := byte = 32 || byte = 9
  let rec drop : Nat → Bytes → Bytes
    | 0, line => line
    | count + 1, line => drop count ((line.dropWhile isGap).dropWhile (!isGap ·))
  let rest := (drop repeats.fields line).drop repeats.bytes
  let rest := match repeats.width? with
    | some width => rest.take width
    | none => rest
  if repeats.foldsCase then rest.map fun byte => if 65 ≤ byte && byte ≤ 90 then byte + 32 else byte
  else rest

/-- Lines with how often each is repeated. -/
def Repeats.runs (repeats : Repeats) (lines : List Bytes) : List (Bytes × Nat) :=
  (lines.foldl (fun (runs : List (Bytes × Nat)) line => match runs with
    | (first, count) :: rest =>
      if repeats.view first = repeats.view line then (first, count + 1) :: rest
      else (line, 1) :: runs
    | [] => [(line, 1)]) []).reverse

/-- Write lines, but repeated ones only once. -/
def uniq : Work := fun task => do
  let (options, operands) ← task.read {
    letters := "cduif:s:w:zD",
    names := [("count", 'c'), ("repeated", 'd'), ("unique", 'u'), ("ignore-case", 'i'),
      ("skip-fields", 'f'), ("skip-chars", 's'), ("check-chars", 'w')] }
  let number (letter : Char) : Nat := ((argumentOf? letter options).bind number?).getD 0
  let repeats : Repeats := {
    fields := number 'f'
    bytes := number 's'
    width? := (argumentOf? 'w' options).bind number?
    foldsCase := has 'i' options
    counts := has 'c' options
    onlyRepeated := has 'd' options
    onlyUnique := has 'u' options }
  match operands[2]? with
  | some extra => task.misuse (Bytes.ofString "extra operand " ++ quoted extra)
  | none => pure ()
  match ← task.readFile? (operands.headD standardInput) with
  | none => return 1
  | some content =>
    let runs := (repeats.runs (linesOf content)).filter fun (_, count) =>
      (!repeats.onlyRepeated || 1 < count) && (!repeats.onlyUnique || count = 1)
    let output := runs.flatMap fun (line, count) =>
      (if repeats.counts then padLeft 7 (numberText count) ++ [32] else []) ++ line ++ [10]
    match operands[1]? with
    | none => task.put output
    | some path =>
      match ← Program.openPath path { writes := true, creates := true, truncates := true } with
      | .ok descriptor =>
        let _ ← Program.write descriptor output
      | .error errno =>
        task.reportFile path errno
        Program.exit 1
    return 0

/-! ### Parts of lines -/

/-- The numbers from one to another, or from one on. -/
structure Span where
  first : Nat
  last? : Option Nat

/-- Whether a number is in a span. -/
def Span.contains (span : Span) (number : Nat) : Bool :=
  span.first ≤ number && span.last?.all fun last => decide (number ≤ last)

/-- Read a list of spans. -/
def readSpans? (word : Bytes) : Option (List Span) :=
  (word.splitOn fun byte => byte = 44 || byte = 32).mapM fun item =>
    match Bytes.cut? (· = 45) item with
    | none => (number? item).bind fun number =>
      if number = 0 then none else some { first := number, last? := some number }
    | some (first, last) =>
      if first.isEmpty && last.isEmpty then none
      else do
        let first ← if first.isEmpty then some 1 else number? first
        let last? ← if last.isEmpty then some none else (number? last).map some
        if first = 0 || last?.any fun last => decide (last < first) then none
        else some { first, last? }

/-- Write parts of lines. -/
def cut : Work := fun task => do
  let (options, paths) ← task.read {
    letters := "b:c:f:d:snCO:z",
    names := [("bytes", 'b'), ("characters", 'c'), ("fields", 'f'), ("delimiter", 'd'),
      ("only-delimited", 's'), ("complement", 'C'), ("output-delimiter", 'O')] }
  let lists := options.filter fun option => ['b', 'c', 'f'].contains option.letter
  let list ← match lists with
    | [] => task.misuse (Bytes.ofString "you must specify a list of bytes, characters, or fields")
    | [list] => pure list
    | _ => task.misuse (Bytes.ofString "only one list may be specified")
  let byFields := list.letter = 'f'
  let separator ← match argumentOf? 'd' options with
    | none => pure 9
    | some [byte] => pure byte
    | some [] => pure 0
    | some _ => task.misuse (Bytes.ofString "the delimiter must be a single character")
  if !byFields && (argumentOf? 'd' options).isSome then
    task.misuse
      (Bytes.ofString "an input delimiter may be specified only when operating on fields")
  if !byFields && has 's' options then
    task.misuse (Bytes.ofString ("suppressing non-delimited lines makes sense\n" ++
      "\tonly when operating on fields"))
  let spans ← match readSpans? list.argument with
    | some spans => pure spans
    | none =>
      let kind := if byFields then "field" else "byte or character"
      task.misuse (Bytes.ofString ("invalid " ++ kind ++ " range"))
  let isChosen (number : Nat) : Bool :=
    (spans.any fun span => span.contains number) != has 'C' options
  let choose {α : Type} (items : List α) : List α :=
    ((items.zipIdx 1).filter fun item => isChosen item.2).map (·.1)
  let between := (argumentOf? 'O' options).getD (if byFields then [separator] else [])
  let line (line : Bytes) : Bytes :=
    if !byFields then choose line ++ [10]
    else if !line.contains separator then if has 's' options then [] else line ++ [10]
    else between.intercalate (choose (line.splitOn (· = separator))) ++ [10]
  task.forFiles paths fun _ content => task.put ((linesOf content).flatMap line)

/-! ### Lines put together -/

/-- The separators that a word lists, with escapes in it. -/
def readSeparators : Bytes → List Bytes
  | [] => []
  | 92 :: byte :: rest =>
    (match byte with
      | 110 => [10]
      | 116 => [9]
      | 48 => []
      | byte => [byte]) :: readSeparators rest
  | byte :: rest => [byte] :: readSeparators rest

/-- Items with separators between them, which take turns. -/
def joinInTurn (separators : List Bytes) (items : List Bytes) : Bytes :=
  (items.zipIdx.flatMap fun (item, index) =>
    (if index = 0 then []
      else (separators[(index - 1) % max separators.length 1]?).getD []) ++ item)

/-- Write lines of files side by side, or those of each file on one line. -/
def paste : Work := fun task => do
  let (options, paths) ← task.read {
    letters := "d:sz", names := [("delimiters", 'd'), ("serial", 's')] }
  let separators := match argumentOf? 'd' options with
    | none => [[9]]
    | some word => readSeparators word
  let mut columns : List (List Bytes) := []
  let input ← if paths.contains standardInput || paths.isEmpty then do
      pure (linesOf ((← Program.readAll 0).toOption.getD []))
    else pure []
  let all := Task.inputs paths
  let shares := all.count standardInput
  let mut turn := 0
  for path in all do
    if path = standardInput then
      let share := turn
      columns := columns ++ [(input.zipIdx.filter fun item => item.2 % shares = share).map (·.1)]
      turn := turn + 1
    else
      match ← task.readFile? path with
      | some content => columns := columns ++ [linesOf content]
      | none => Program.exit 1
  if has 's' options then
    for column in columns do
      task.putLine (joinInTurn separators column)
  else
    let height := (columns.map (·.length)).foldl max 0
    let rows := (List.range height).map fun index =>
      columns.map fun column => column[index]?.getD []
    task.put (joinLines (rows.map (joinInTurn separators)))
  return 0

/-- The lines of two sorted files with the column each belongs to. -/
def mergeLines : Nat → List Bytes → List Bytes → List (Nat × Bytes)
  | 0, _, _ => []
  | _, [], bs => bs.map (1, ·)
  | _, as, [] => as.map (0, ·)
  | fuel + 1, a :: as, b :: bs =>
    if a = b then (2, a) :: mergeLines fuel as bs
    else if a < b then (0, a) :: mergeLines fuel as (b :: bs)
    else (1, b) :: mergeLines fuel (a :: as) bs

/-- Compare two sorted files line by line. -/
def comm : Work := fun task => do
  let (options, paths) ← task.read { letters := "123" }
  match paths with
  | [first, second] =>
    match ← task.readFile? first, ← task.readFile? second with
    | some a, some b =>
      let (a, b) := (linesOf a, linesOf b)
      let isShown (column : Nat) : Bool := !has (Char.ofNat (49 + column)) options
      let merged := (mergeLines (a.length + b.length + 1) a b).filter fun line => isShown line.1
      task.put (merged.flatMap fun (column, line) =>
        ((List.range column).filter isShown).map (fun _ => 9) ++ line ++ [10])
      return 0
    | _, _ => return 1
  | [] => task.misuse (Bytes.ofString "missing operand")
  | [only] => task.misuse (Bytes.ofString "missing operand after " ++ quoted only)
  | _ :: _ :: extra :: _ => task.misuse (Bytes.ofString "extra operand " ++ quoted extra)

/-! ### Changed lines -/

/-- Write lines backwards. -/
def rev : Work := fun task => do
  let (_, paths) ← task.read { letters := "" }
  task.forFiles paths fun _ content =>
    task.put ((endedLines content).flatMap fun line =>
      if line.getLast? = some 10 then line.dropLast.reverse ++ [10] else line.reverse)

/-- Write lines with numbers. -/
def nl : Work := fun task => do
  let (options, paths) ← task.read {
    letters := "b:w:s:v:i:n:h:f:d:l:p",
    names := [("body-numbering", 'b'), ("number-width", 'w'), ("number-separator", 's'),
      ("starting-line-number", 'v'), ("line-increment", 'i'), ("number-format", 'n')] }
  let number (letter : Char) (default : Nat) : Nat :=
    ((argumentOf? letter options).bind number?).getD default
  let width := number 'w' 6
  let separator := (argumentOf? 's' options).getD [9]
  let style := ((argumentOf? 'b' options).bind List.head?).getD 116
  let format := (argumentOf? 'n' options).getD (Bytes.ofString "rn")
  let isNumbered (line : Bytes) : Bool := style = 97 || (style = 116 && !line.isEmpty)
  let place (value : Nat) : Bytes :=
    let text := numberText value
    if format = Bytes.ofString "ln" then text ++ List.replicate (width - text.length) 32
    else if format = Bytes.ofString "rz" then List.replicate (width - text.length) 48 ++ text
    else padLeft width text
  let (content, isWhole) ← task.readTogether paths
  let (_, lines) := (linesOf content).foldl (fun ((next, lines) : Nat × List Bytes) line =>
    if isNumbered line then (next + number 'i' 1, (place next ++ separator ++ line) :: lines)
    else
      (next, (List.replicate (width + separator.length) 32 ++ line) :: lines)) (number 'v' 1, [])
  task.put (joinLines lines.reverse)
  return if isWhole then 0 else 1

/-- A line in pieces of a width. Pieces end behind a blank if `atBlanks` holds and there is one. -/
def foldLine (width : Nat) (atBlanks : Bool) : Nat → Bytes → List Bytes
  | 0, line => [line]
  | fuel + 1, line =>
    if line.length ≤ width || width = 0 then [line]
    else
      let piece := line.take width
      let length := if atBlanks then
          match piece.reverse.findIdx? fun byte => byte = 32 || byte = 9 with
          | some index => piece.length - index
          | none => width
        else width
      line.take length :: foldLine width atBlanks fuel (line.drop length)

/-- Write long lines in several pieces. -/
def fold : Work := fun task => do
  let (options, paths) ← task.read {
    letters := "w:sbc", names := [("width", 'w'), ("spaces", 's'), ("bytes", 'b')] }
  let width := ((argumentOf? 'w' options).bind number?).getD 80
  task.forFiles paths fun _ content =>
    task.put ((endedLines content).flatMap fun line =>
      let body := if line.getLast? = some 10 then line.dropLast else line
      let pieces := foldLine width (has 's' options) (body.length + 1) body
      [10].intercalate pieces ++ if line.getLast? = some 10 then [10] else [])

/-- A line with its tabs written as spaces. -/
def expandLine (stop : Nat) (line : Bytes) : Bytes :=
  (line.foldl (fun ((column, done) : Nat × Bytes) byte =>
    if byte = 9 then
      let count := stop - column % stop
      (column + count, List.replicate count 32 ++ done)
    else (column + 1, byte :: done)) (0, [])).2.reverse

/-- Write lines with their tabs as spaces. -/
def expand : Work := fun task => do
  let (options, paths) ← task.read { letters := "t:i", names := [("tabs", 't')] }
  let stop := max 1 (((argumentOf? 't' options).bind number?).getD 8)
  task.forFiles paths fun _ content =>
    task.put ((endedLines content).flatMap (expandLine stop))

end Relocation.Utility
