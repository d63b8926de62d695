import Relocation.Utility.Copy
import Relocation.Utility.Files
import Relocation.Utility.Regular

/-!
# Searching lines

The utility that writes the lines that some patterns match.
-/

namespace Relocation.Utility

open Machine (Program)

namespace Search

open Regular (Match Pattern Subject)

/-- Which part of a line has to match. -/
inductive Extent where
  | anywhere
  | word
  | line

/-- What is searched and what is written of it. -/
structure Query where
  patterns : List Pattern
  ignoresCase : Bool
  extent : Extent
  isInverted : Bool
  /-- Whether only the parts that match are written. -/
  onlyMatches : Bool := false
  showsNumbers : Bool := false
  showsNames : Bool := false
  showsOffsets : Bool := false
  before : Nat := 0
  after : Nat := 0
  most? : Option Nat := none
  readsBinary : Bool := false

/-- Whether a match is a word of its own. -/
def isWhole (subject : Subject) (start stop : Nat) : Bool :=
  !subject.hasWordBefore start && !subject.hasWordAt stop

/-- The longest match of a pattern from a place that counts for a query. -/
def Query.matchAt? (query : Query) (subject : Subject) (start : Nat) (pattern : Pattern) :
    Option Nat :=
  let ways := (pattern.ways subject { position := start }).map (·.position)
  let ways := match query.extent with
    | .anywhere => ways
    | .word => ways.filter (isWhole subject start)
    | .line => if start = 0 then ways.filter (· = subject.text.size) else []
  ways.max?

/-- The first match from a place on, by its start and its end. -/
def Query.find? (query : Query) (subject : Subject) (start : Nat) : Option (Nat × Nat) :=
  (List.range (subject.text.size + 1 - start)).findSome? fun offset =>
    let place := start + offset
    ((query.patterns.filterMap (query.matchAt? subject place)).max?).map (place, ·)

/-- The subject of a line. -/
def Query.subject (query : Query) (line : Bytes) : Subject :=
  { text := ⟨line.toArray⟩, ignoresCase := query.ignoresCase }

/-- Whether a line is wanted. -/
def Query.wants (query : Query) (line : Bytes) : Bool :=
  (query.find? (query.subject line) 0).isSome != query.isInverted

/-- All parts of a line that match, with their places. -/
def Query.parts (query : Query) (subject : Subject) : Nat → Nat → List (Nat × Bytes)
  | 0, _ => []
  | fuel + 1, start =>
    match query.find? subject start with
    | none => []
    | some (first, last) =>
      if first = last then
        if subject.text.size ≤ first then [] else query.parts subject fuel (first + 1)
      else (first, subject.slice first last) :: query.parts subject fuel last

/-- A line with its number, its place in the text, and whether it is wanted. -/
structure Line where
  text : Bytes
  number : Nat
  offset : Nat
  isWanted : Bool

/-- The lines of a text. Once enough are found, no more are wanted. -/
def Query.lines (query : Query) (content : Bytes) : List Line :=
  let step (state : Nat × Nat × Nat × List Line) (text : Bytes) : Nat × Nat × Nat × List Line :=
    let (number, offset, found, lines) := state
    let isWanted := query.most?.all (fun most => decide (found < most)) && query.wants text
    (number + 1, offset + text.length + 1, if isWanted then found + 1 else found,
      { text, number, offset, isWanted } :: lines)
  ((linesOf content).foldl step (1, 0, 0, [])).2.2.2.reverse

/-- What stands in front of a line, with a mark behind each part. -/
def Query.front (query : Query) (name : Bytes) (mark : UInt8) (number offset : Nat) : Bytes :=
  (if query.showsNames then name ++ [mark] else []) ++
    (if query.showsNumbers then numberText number ++ [mark] else []) ++
    (if query.showsOffsets then numberText offset ++ [mark] else [])

/-- What is written for a wanted line. -/
def Query.render (query : Query) (name : Bytes) (line : Line) : Bytes :=
  if query.onlyMatches then
    if query.isInverted then []
    else
      let subject := query.subject line.text
      (query.parts subject (line.text.length + 1) 0).flatMap fun (place, part) =>
        query.front name 58 line.number (line.offset + place) ++ part ++ [10]
  else query.front name 58 line.number line.offset ++ line.text ++ [10]

/-- Whether a line is near a wanted one. -/
def Query.isNear (query : Query) (wanted : List Nat) (number : Nat) : Bool :=
  wanted.any fun place => (number ≤ place && place ≤ number + query.before) ||
    (place ≤ number && number ≤ place + query.after)

/-- What is written for lines, with those around the wanted ones. -/
def Query.renderAll (query : Query) (name : Bytes) (lines : List Line) : Bytes :=
  if query.before = 0 && query.after = 0 then
    (lines.filter (·.isWanted)).flatMap (query.render name)
  else
    let wanted := (lines.filter (·.isWanted)).map (·.number)
    let near := lines.filter fun line => query.isNear wanted line.number
    let step (state : Option Nat × List Bytes) (line : Line) : Option Nat × List Bytes :=
      let (last?, done) := state
      let gap := match last? with
        | some last => if last + 1 < line.number then Bytes.ofString "--\n" else []
        | none => []
      let text := if line.isWanted then query.render name line
        else if query.onlyMatches then []
        else query.front name 45 line.number line.offset ++ line.text ++ [10]
      (some line.number, (gap ++ text) :: done)
    ((near.foldl step (none, [])).2.reverse).flatten

/-- How the patterns of a query are written. -/
inductive Kind where
  | text
  | regular (form : Regular.Form)

/-- Read the patterns of a query, one a line. -/
def readPatterns (kind : Kind) (text : Bytes) : Except String (List Pattern) :=
  (text.splitOn (· = 10)).mapM fun line => match kind with
    | .text => .ok (Regular.ofText line)
    | .regular form => Regular.parse form line

/-- The files below some paths. -/
def filesBelow (paths : List Bytes) : Nat → Program (List Bytes)
  | 0 => return []
  | fuel + 1 => do
    let mut files : List Bytes := []
    for path in paths do
      if ← isDirectory path then
        match ← namesIn path with
        | .ok names =>
          files := files ++ (← filesBelow (names.map fun name =>
            if path = Machine.dotName && paths.length = 0 then name else inside path name) fuel)
        | .error _ => pure ()
      else files := files ++ [path]
    return files

end Search

open Search in
/-- Search lines in a way of writing patterns that options can change. -/
def grepAs (usual : Search.Kind) : Work := fun task => do
  let (options, operands) ← task.read {
    letters := "EFGPe:f:iyvwxclLm:oqsnbHhrRA:B:C:aIzZUTd:D:0123456789", status := 2,
    names := [("extended-regexp", 'E'), ("fixed-strings", 'F'), ("basic-regexp", 'G'),
      ("regexp", 'e'), ("file", 'f'), ("ignore-case", 'i'), ("invert-match", 'v'),
      ("word-regexp", 'w'), ("line-regexp", 'x'), ("count", 'c'), ("files-with-matches", 'l'),
      ("files-without-match", 'L'), ("max-count", 'm'), ("only-matching", 'o'), ("quiet", 'q'),
      ("silent", 'q'), ("no-messages", 's'), ("line-number", 'n'), ("byte-offset", 'b'),
      ("with-filename", 'H'), ("no-filename", 'h'), ("recursive", 'r'), ("after-context", 'A'),
      ("before-context", 'B'), ("context", 'C'), ("text", 'a')] }
  let any (letter : Char) : Bool := has letter options
  let kind : Search.Kind := match (options.filter fun option =>
      ['E', 'F', 'G', 'P'].contains option.letter).getLast?.map (·.letter) with
    | some 'F' => .text
    | some 'G' => .regular .basic
    | some _ => .regular .extended
    | none => usual
  let mut texts : List Bytes := []
  for option in options do
    if option.letter = 'e' then texts := texts ++ [option.argument]
    else if option.letter = 'f' then
      match ← task.readFile? option.argument with
      | some content => texts := texts ++ linesOf content
      | none => Program.exit 2
  let isGiven := any 'e' || any 'f'
  if !isGiven && operands.isEmpty then
    let _ ← Program.write 2 (Bytes.ofString ("Usage: grep [OPTION]... PATTERNS [FILE]...\n" ++
      "Try 'grep --help' for more information.\n"))
    Program.exit 2
  if !isGiven then texts := operands.take 1
  let paths := if isGiven then operands else operands.drop 1
  let patterns ← match texts.mapM (readPatterns kind) with
    | .ok patterns => pure patterns.flatten
    | .error message => task.fail (Bytes.ofString message) 2
  let isDeep := any 'r' || any 'R'
  let paths := if paths.isEmpty && isDeep then [Machine.dotName] else paths
  let files ← if isDeep then filesBelow paths maxDepth else pure (Task.inputs paths)
  let number (letter : Char) : Option Nat := (argumentOf? letter options).bind number?
  let around := (number 'C').getD 0
  let query : Query := {
    patterns
    ignoresCase := any 'i' || any 'y'
    extent := if any 'x' then .line else if any 'w' then .word else .anywhere
    isInverted := any 'v'
    onlyMatches := any 'o'
    showsNumbers := any 'n'
    showsOffsets := any 'b'
    showsNames := match (options.filter fun option =>
        option.letter = 'H' || option.letter = 'h').getLast?.map (·.letter) with
      | some letter => letter = 'H'
      | none => 1 < paths.length || isDeep
    before := (number 'B').getD around
    after := (number 'A').getD around
    most? := number 'm'
    readsBinary := any 'a' }
  let mut isFound := false
  let mut isBad := false
  for path in files do
    let content? ← if path = standardInput then Program.readAll 0
      else match ← Program.openPath path { reads := true } with
        | .error errno => pure (.error errno)
        | .ok descriptor => do
          let content ← Program.readAll descriptor
          Program.close descriptor
          pure content
    match content? with
    | .error errno =>
      if !any 's' then
        task.report (path ++ Bytes.ofString (": " ++ errno.libraryText))
      isBad := true
    | .ok content =>
      let name := if path = standardInput then Bytes.ofString "(standard input)" else path
      let lines := query.lines content
      let count := lines.countP (·.isWanted)
      if count ≠ 0 then isFound := true
      let title := if query.showsNames then name ++ [58] else []
      if any 'q' then
        if isFound then Program.exit 0
      else if any 'l' then
        if count ≠ 0 then task.putLine name
      else if any 'L' then
        if count = 0 then task.putLine name
      else if any 'c' then task.put (title ++ numberText count ++ [10])
      else if content.contains 0 && !query.readsBinary then
        if count ≠ 0 then
          task.put (Bytes.ofString "grep: " ++ name ++ Bytes.ofString ": binary file matches\n")
      else task.put (query.renderAll name lines)
  return if isBad && !(any 'q' && isFound) then 2 else if isFound then 0 else 1

/-- Write the lines that patterns match. -/
def grep : Work := grepAs (.regular .basic)

/-- Write the lines that extended patterns match. -/
def egrep : Work := fun task =>
  grepAs (.regular .extended) { task with name := Bytes.ofString "grep" }

/-- Write the lines that hold texts. -/
def fgrep : Work := fun task => grepAs .text { task with name := Bytes.ofString "grep" }

end Relocation.Utility
