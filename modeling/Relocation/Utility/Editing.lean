import Relocation.Utility.Copy
import Relocation.Utility.Editing.Script

/-!
# Editing lines

The utility that edits the lines of its input by a script. Each line is taken into a space
on which the commands of the script work one after the other; a second space keeps a
text from one line to the next.
-/

namespace Relocation.Utility

namespace Editing

open Machine (Program)
open Regular (Match Pattern Subject)

/-! ### Running -/

/-- A machine that edits. -/
structure State where
  /-- The lines that were not taken yet, and whether the last of them has an end. -/
  input : List Bytes
  lastHasEnd : Bool
  space : Bytes := []
  hold : Bytes := []
  line : Nat := 0
  hasEnd : Bool := true
  isReplaced : Bool := false
  lastPattern? : Option Pattern := none
  /-- The ranges that are open, with the lines at which they end if these are known. -/
  ranges : List (Nat × Option Nat) := []
  /-- What is written after the line. -/
  after : List Bytes := []
  output : List Bytes := []
  lacksEnd : Bool := false
  files : List (Bytes × List Bytes) := []
  quit? : Option Nat := none

namespace State

/-- Whether the line is the last one. -/
def isLast (state : State) : Bool := state.input.isEmpty

/-- Write a text. -/
def write (state : State) (text : Bytes) : State :=
  { state with
    output := text :: (if state.lacksEnd then [10] :: state.output else state.output)
    lacksEnd := false }

/-- Write a line, with an end unless it is the last one and had none. -/
def writeLine (state : State) (line : Bytes) : State :=
  if state.hasEnd then state.write (line ++ [10])
  else { state.write line with lacksEnd := true }

/-- Write a line to a file. -/
def writeTo (state : State) (path line : Bytes) : State :=
  if path = Bytes.ofString "/dev/stdout" then state.writeLine line
  else
    let old := (state.files.lookup path).getD []
    { state with files := (path, (line ++ [10]) :: old) :: state.files.filter (·.1 ≠ path) }

/-- Write what was to be written after the line. -/
def flush (state : State) : State :=
  let texts := state.after.reverse
  texts.foldl State.write { state with after := [] }

/-- Take the next line, if there is one. -/
def advance? (state : State) : Option State :=
  match state.input with
  | [] => none
  | line :: rest => some { state with
    space := line
    input := rest
    line := state.line + 1
    hasEnd := !rest.isEmpty || state.lastHasEnd }

/-- The match of a pattern in the space. -/
def search (state : State) (searched : Searched) : Bool × State :=
  let pattern? := searched.pattern?.orElse fun _ => state.lastPattern?
  let state := { state with lastPattern? := pattern? }
  match pattern? with
  | none => (false, state)
  | some pattern =>
    let subject : Subject := {
      text := ⟨state.space.toArray⟩, ignoresCase := searched.ignoresCase,
      hasLines := searched.hasLines }
    ((pattern.find? subject 0).isSome, state)

/-- Whether an address means the line. -/
def isAt (state : State) : Address → Bool × State
  | .number number => (state.line = number, state)
  | .last => (state.isLast, state)
  | .search searched => state.search searched
  | .stride first step =>
    (if step = 0 then state.line = first
      else first ≤ state.line && (state.line - first) % step = 0, state)

/-- Open a range at the line. -/
def openRange (state : State) (id : Nat) (last : RangeEnd) : State :=
  let until? (stop : Nat) : State :=
    if stop ≤ state.line then state else { state with ranges := (id, some stop) :: state.ranges }
  match last with
  | .address (.number number) => until? number
  | .after count => until? (state.line + count)
  | .multiple count =>
    if count = 0 then state else until? ((state.line + count - 1) / count * count)
  | .address _ => { state with ranges := (id, none) :: state.ranges }

/-- Whether lines are selected. -/
def selects (state : State) : Selection → Bool × State
  | .all => (true, state)
  | .one address => state.isAt address
  | .range id first last =>
    let close (state : State) : State :=
      { state with ranges := state.ranges.filter (·.1 ≠ id) }
    match state.ranges.lookup id, last with
    | some (some stop), _ =>
      if stop ≤ state.line then (stop = state.line, close state) else (true, state)
    | some none, .address address =>
      let (isEnd, state) := state.isAt address
      (true, if isEnd then close state else state)
    | some none, _ => (true, close state)
    | none, _ =>
      match first, last with
      | .number 0, .address address =>
        if state.line = 1 then
          let (isEnd, state) := state.isAt address
          (true, if isEnd then state else state.openRange id last)
        else (false, state)
      | first, last =>
        let (isStart, state) := state.isAt first
        (isStart, if isStart then state.openRange id last else state)

end State

/-- A byte in upper or lower case. -/
def cased (isUpper : Bool) (byte : UInt8) : UInt8 :=
  if isUpper then if 97 ≤ byte && byte ≤ 122 then byte - 32 else byte else Regular.lowered byte

/-- The text that replaces a match. -/
def replacement (subject : Subject) (found : Match) (inserts : List Insert) : Bytes :=
  let change (mode next : UInt8) (text : Bytes) : Bytes :=
    let text := if mode = 85 then text.map (cased true)
      else if mode = 76 then text.map (cased false)
      else text
    match text with
    | byte :: rest =>
      if next = 117 then cased true byte :: rest
      else if next = 108 then cased false byte :: rest
      else text
    | [] => []
  let step (state : UInt8 × UInt8 × List Bytes) (insert : Insert) : UInt8 × UInt8 × List Bytes :=
    let (mode, next, done) := state
    match insert with
    | .casing letter =>
      if letter = 117 || letter = 108 then (mode, letter, done) else (letter, 0, done)
    | .text bytes => (mode, if bytes.isEmpty then next else 0, change mode next bytes :: done)
    | .group number =>
      let text := if number = 0 then subject.slice found.start found.stop
        else match found.groups.lookup number with
          | some (start, stop) => subject.slice start stop
          | none => []
      (mode, if text.isEmpty then next else 0, change mode next text :: done)
  ((inserts.foldl step (0, 0, [])).2.2.reverse).flatten

/-- Replace matches from a position on, of which so many were passed. It gives the new text and
whether anything was replaced. -/
def replaceFrom (subject : Subject) (pattern : Pattern) (inserts : List Insert) (isGlobal : Bool)
    (occurrence : Nat) : Nat → (position : Nat) → (passed : Nat) → (lastStop? : Option Nat) →
    Bytes × Bool
  | 0, position, _, _ => (subject.slice position subject.text.size, false)
  | fuel + 1, position, passed, lastStop? =>
    match pattern.find? subject position with
    | none => (subject.slice position subject.text.size, false)
    | some found =>
      let before := subject.slice position found.start
      let isRepeat := found.start = found.stop && lastStop? = some found.start
      let count := if isRepeat then passed else passed + 1
      let isReplaced := !isRepeat && (count = occurrence || (isGlobal && occurrence < count))
      let here := if isReplaced then replacement subject found inserts
        else subject.slice found.start found.stop
      if isReplaced && !isGlobal then
        (before ++ here ++ subject.slice found.stop subject.text.size, true)
      else if found.start = found.stop then
        if subject.text.size ≤ found.stop then (before ++ here, isReplaced)
        else
          let (rest, others) := replaceFrom subject pattern inserts isGlobal occurrence fuel
            (found.stop + 1) count none
          (before ++ here ++ subject.slice found.stop (found.stop + 1) ++ rest,
            isReplaced || others)
      else
        let (rest, others) := replaceFrom subject pattern inserts isGlobal occurrence fuel
          found.stop count (some found.stop)
        (before ++ here ++ rest, isReplaced || others)

/-- A byte as `l` shows it. -/
def shown (byte : UInt8) : Bytes :=
  let named : List (UInt8 × UInt8) :=
    [(92, 92), (7, 97), (8, 98), (12, 102), (10, 110), (13, 114), (9, 116), (11, 118)]
  match named.lookup byte with
  | some letter => [92, letter]
  | none =>
    if 32 ≤ byte && byte < 127 then [byte]
    else [92, 48 + byte / 64, 48 + byte / 8 % 8, 48 + byte % 8]

/-- The pieces of a shown text in lines of seventy columns. -/
def showLines : Nat → List Bytes → Bytes → Bytes
  | _, [], line => line ++ [36, 10]
  | 0, _, line => line
  | fuel + 1, piece :: rest, line =>
    if 69 < line.length + piece.length then
      line ++ [92, 10] ++ showLines fuel (piece :: rest) []
    else showLines fuel rest (line ++ piece)

/-- What comes after a command. -/
inductive Step where
  | goOn
  /-- Go to another command. -/
  | goTo (index : Nat)
  /-- End the cycle, with the space written if that is usual. -/
  | endCycle (writes : Bool)
  /-- Start the script again with what is in the space. -/
  | again

/-- The place behind a label, or behind all commands. -/
def placeOf (commands : Array Command) (name : Bytes) : Nat :=
  if name.isEmpty then commands.size
  else
    let isLabel (command : Command) : Bool := match command.action with
      | .label other => other = name
      | _ => false
    (commands.findIdx? isLabel).getD commands.size

/-- The place behind the brace that closes one, from a place on. -/
def behindBrace (commands : Array Command) : Nat → Nat → Nat → Nat
  | 0, index, _ => index
  | fuel + 1, index, depth =>
    match commands[index]? with
    | none => index
    | some command =>
      match command.action, depth with
      | .blockEnd, 0 => index + 1
      | .blockEnd, depth + 1 => behindBrace commands fuel (index + 1) depth
      | .block, depth => behindBrace commands fuel (index + 1) (depth + 1)
      | _, depth => behindBrace commands fuel (index + 1) depth

/-- The first line of the space, and what follows its end. -/
def cutSpace (space : Bytes) : Bytes × Option Bytes :=
  match Bytes.cut? (· = 10) space with
  | some (first, rest) => (first, some rest)
  | none => (space, none)

/-- Do what a command does. -/
def act (commands : Array Command) (isQuiet : Bool) (reads : List (Bytes × Bytes))
    (command : Command) (state : State) : Step × State :=
  match command.action with
  | .delete => (.endCycle false, state)
  | .deleteFirst =>
    match cutSpace state.space with
    | (_, none) => (.endCycle false, state)
    | (_, some rest) => (.again, { state with space := rest })
  | .print => (.goOn, state.writeLine state.space)
  | .printFirst =>
    let line := (cutSpace state.space).1
    (.goOn, if (cutSpace state.space).2.isSome then state.write (line ++ [10])
      else state.writeLine line)
  | .next =>
    if state.isLast then (.endCycle true, { state with quit? := some 0 })
    else
      let state := if isQuiet then state else state.writeLine state.space
      match state.flush.advance? with
      | some state => (.goOn, state)
      | none => (.endCycle true, state)
  | .append =>
    match state.flush.advance? with
    | some next => (.goOn, { next with space := state.space ++ 10 :: next.space })
    | none => (.endCycle true, { state with quit? := some 0 })
  | .copyToHold => (.goOn, { state with hold := state.space })
  | .appendToHold => (.goOn, { state with hold := state.hold ++ 10 :: state.space })
  | .copyFromHold => (.goOn, { state with space := state.hold })
  | .appendFromHold => (.goOn, { state with space := state.space ++ 10 :: state.hold })
  | .exchange => (.goOn, { state with space := state.hold, hold := state.space })
  | .number => (.goOn, state.write (numberText state.line ++ [10]))
  | .display =>
    let pieces := state.space.map shown
    (.goOn, state.write (showLines (2 * pieces.length + 1) pieces []))
  | .clear => (.goOn, { state with space := [] })
  | .quit status isSilent => (.endCycle (!isSilent), { state with quit? := some status })
  | .textAfter text => (.goOn, { state with after := text :: state.after })
  | .textBefore text => (.goOn, state.write text)
  | .change text =>
    let isInside : Bool := match command.selection with
      | .range id _ _ => !command.isInverted && (state.ranges.lookup id).isSome
      | _ => false
    (.endCycle false, if isInside then state else state.write text)
  | .readFile path =>
    (.goOn, { state with after := (reads.lookup path).getD [] :: state.after })
  | .writeFile path => (.goOn, state.writeTo path state.space)
  | .translate table =>
    (.goOn, { state with space := state.space.map fun byte => (table.lookup byte).getD byte })
  | .replace searched inserts isGlobal occurrence prints path? =>
    let pattern? := searched.pattern?.orElse fun _ => state.lastPattern?
    let state := { state with lastPattern? := pattern? }
    match pattern? with
    | none => (.goOn, state)
    | some pattern =>
      let subject : Subject := {
        text := ⟨state.space.toArray⟩, ignoresCase := searched.ignoresCase,
        hasLines := searched.hasLines }
      let (text, isDone) := replaceFrom subject pattern inserts isGlobal occurrence
        (state.space.length + 2) 0 0 none
      if !isDone then (.goOn, state)
      else
        let state := { state with space := text, isReplaced := true }
        let state := if prints then state.writeLine text else state
        (.goOn, match path? with
          | some path => state.writeTo path text
          | none => state)
  | .label _ => (.goOn, state)
  | .jump name => (.goTo (placeOf commands name), state)
  | .jumpIfReplaced name =>
    if state.isReplaced then (.goTo (placeOf commands name), { state with isReplaced := false })
    else (.goOn, state)
  | .jumpUnlessReplaced name =>
    if state.isReplaced then (.goOn, { state with isReplaced := false })
    else (.goTo (placeOf commands name), state)
  | .block => (.goOn, state)
  | .blockEnd => (.goOn, state)

/-- Run the commands from a place on for the line in the space. It gives whether the space is
written if that is usual, and whether the script starts again with it. -/
def runCommands (commands : Array Command) (isQuiet : Bool) (reads : List (Bytes × Bytes)) :
    Nat → Nat → State → Bool × Bool × State
  | 0, _, state => (false, false, { state with quit? := some 1 })
  | fuel + 1, index, state =>
    match commands[index]? with
    | none => (true, false, state)
    | some command =>
      let (isSelected, state) := state.selects command.selection
      if isSelected = command.isInverted then
        let next := match command.action with
          | .block => behindBrace commands commands.size (index + 1) 0
          | _ => index + 1
        runCommands commands isQuiet reads fuel next state
      else match act commands isQuiet reads command state with
        | (.goOn, state) => runCommands commands isQuiet reads fuel (index + 1) state
        | (.goTo index, state) => runCommands commands isQuiet reads fuel index state
        | (.endCycle writes, state) => (writes, false, state)
        | (.again, state) => (false, true, state)

/-- How many commands are run for one line. -/
def maxSteps : Nat := 10000000

/-- Run a script for all lines. -/
def runCycles (commands : Array Command) (isQuiet : Bool) (reads : List (Bytes × Bytes)) :
    Nat → (keepsSpace : Bool) → State → State
  | 0, _, state => state
  | fuel + 1, keepsSpace, state =>
    match if keepsSpace then some state else state.advance? with
    | none => state
    | some state =>
      let (writes, again, state) :=
        runCommands commands isQuiet reads maxSteps 0 { state with isReplaced := false }
      let state := if writes && !isQuiet then state.writeLine state.space else state
      let state := state.flush
      if state.quit?.isSome then state
      else runCycles commands isQuiet reads fuel again state

/-- The files that a script reads. -/
def filesRead (commands : List Command) : List Bytes :=
  commands.filterMap fun command => match command.action with
    | .readFile path => some path
    | _ => none

/-- The files that a script writes. -/
def filesWritten (commands : List Command) : List Bytes :=
  commands.filterMap fun command => match command.action with
    | .writeFile path => some path
    | .replace _ _ _ _ _ path? => path?
    | _ => none

/-- A machine that is to edit a text. -/
def State.ofText (content : Bytes) : State :=
  { input := linesOf content, lastHasEnd := content.getLast? = some 10 }

/-- Put a text into a file. -/
def putFile (task : Task) (path content : Bytes) : Program Unit := do
  match ← Program.openPath path { writes := true, creates := true, truncates := true } with
  | .ok descriptor =>
    let _ ← Program.write descriptor content
    Program.close descriptor
  | .error errno =>
    task.fail (Bytes.ofString "couldn't open file " ++ path ++
      Bytes.ofString (": " ++ errno.libraryText)) 4

end Editing

open Machine (Program)

open Editing in
/-- Edit lines by a script. -/
def sed : Work := fun task => do
  let (options, operands) ← task.read {
    letters := "ne:f:ErsuzIib", status := 1,
    names := [("quiet", 'n'), ("silent", 'n'), ("expression", 'e'), ("file", 'f'),
      ("regexp-extended", 'E'), ("in-place", 'i'), ("separate", 's')] }
  let mut scripts : List Bytes := []
  for option in options do
    if option.letter = 'e' then scripts := scripts ++ [option.argument]
    else if option.letter = 'f' then
      match ← task.readFile? option.argument with
      | some content => scripts := scripts ++ [if content.getLast? = some 10 then content.dropLast
          else content]
      | none => Program.exit 1
  let isGiven := has 'e' options || has 'f' options
  if !isGiven && operands.isEmpty then
    let _ ← Program.write 2 (Bytes.ofString
      "Usage: sed [OPTION]... \x7bscript-only-if-no-other-script\x7d [input-file]...\n")
    Program.exit 1
  let text := [10].intercalate (if isGiven then scripts else operands.take 1)
  let paths := if isGiven then operands else operands.drop 1
  let form := if has 'E' options || has 'r' options then Regular.Form.extended else .basic
  let isQuiet := has 'n' options || text.take 3 = [35, 110, 10] || text = [35, 110]
  let commands ← match parse form text with
    | .ok commands => pure commands
    | .error message =>
      task.fail (Bytes.ofString ("-e expression #1, char " ++ Decimal.ofNat text.length ++ ": " ++
        message))
  let mut reads : List (Bytes × Bytes) := []
  for path in filesRead commands do
    match ← Program.openPath path { reads := true } with
    | .ok descriptor =>
      reads := (path, (← Program.readAll descriptor).toOption.getD []) :: reads
      Program.close descriptor
    | .error _ => pure ()
  let program := commands.toArray
  let run (content : Bytes) : State :=
    runCycles program isQuiet reads (2 * content.length + 2) false (State.ofText content)
  let save (state : State) : Program Unit := do
    for path in filesWritten commands do
      if path ≠ Bytes.ofString "/dev/stdout" then
        putFile task path ((state.files.lookup path).getD []).reverse.flatten
  if has 'i' options then
    let mut status := 0
    for path in paths do
      match ← task.readFile? path with
      | some content =>
        let state := run content
        putFile task path state.output.reverse.flatten
        save state
        status := max status (state.quit?.getD 0)
      | none => status := 4
    return status
  else
    let mut contents : List Bytes := []
    let mut isWhole := true
    for path in Task.inputs paths do
      let content? ← if path = standardInput then pure (← Program.readAll 0)
        else match ← Program.openPath path { reads := true } with
          | .ok descriptor => do
            let content ← Program.readAll descriptor
            Program.close descriptor
            pure content
          | .error errno => pure (.error errno)
      match content? with
      | .ok content =>
        let joined := match contents with
          | last :: _ => if last.isEmpty || last.getLast? = some 10 then content else 10 :: content
          | [] => content
        contents := joined :: contents
      | .error errno =>
        task.report ((if errno = .isDirectory then Bytes.ofString "couldn't edit " ++ path
          else Bytes.ofString "can't read " ++ path) ++
          Bytes.ofString (": " ++ errno.libraryText))
        isWhole := false
    let state := run contents.reverse.flatten
    task.put state.output.reverse.flatten
    save state
    return state.quit?.getD (if isWhole then 0 else 2)

end Relocation.Utility
