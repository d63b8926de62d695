import Relocation.Utility.Regular

/-!
# Scripts for editing lines

A script is a list of commands, each for the lines that its addresses select. What follows
the letter of a command depends on the command.
-/

namespace Relocation.Utility.Editing

open Regular (Pattern)

/-! ### Scripts -/

/-- A pattern, or the last one that was used. -/
structure Searched where
  pattern? : Option Pattern
  ignoresCase : Bool := false
  hasLines : Bool := false

/-- Which lines are meant. -/
inductive Address where
  | number (number : Nat)
  | last
  | search (searched : Searched)
  /-- Every so many lines from one on. -/
  | stride (first step : Nat)

/-- Where a range of lines ends. -/
inductive RangeEnd where
  | address (address : Address)
  /-- So many lines after its start. -/
  | after (count : Nat)
  /-- At the next line whose number is a multiple. -/
  | multiple (count : Nat)

/-- The lines that a command is for. -/
inductive Selection where
  | all
  | one (address : Address)
  /-- From one line to another. Ranges are told apart by their numbers. -/
  | range (id : Nat) (first : Address) (last : RangeEnd)

/-- A part of the text that replaces a match. -/
inductive Insert where
  | text (bytes : Bytes)
  /-- The text of a group, or of the whole match. -/
  | group (number : Nat)
  /-- From here on letters change their case: to upper case, to lower case, or not at all. -/
  | casing (letter : UInt8)

/-- What a command does. -/
inductive Action where
  | delete
  | deleteFirst
  | print
  | printFirst
  | next
  | append
  | copyToHold
  | appendToHold
  | copyFromHold
  | appendFromHold
  | exchange
  | number
  | display
  | clear
  | quit (status : Nat) (isQuiet : Bool)
  | textAfter (text : Bytes)
  | textBefore (text : Bytes)
  | change (text : Bytes)
  | readFile (path : Bytes)
  | writeFile (path : Bytes)
  | translate (table : List (UInt8 × UInt8))
  | replace (searched : Searched) (inserts : List Insert) (isGlobal : Bool) (occurrence : Nat)
      (prints : Bool) (path? : Option Bytes)
  | label (name : Bytes)
  | jump (name : Bytes)
  | jumpIfReplaced (name : Bytes)
  | jumpUnlessReplaced (name : Bytes)
  /-- Go behind the brace that closes, unless the lines are selected. -/
  | block
  | blockEnd

/-- A command. -/
structure Command where
  selection : Selection
  isInverted : Bool
  action : Action

/-! ### Reading -/

/-- A script as far as it was read. -/
structure Source where
  text : Bytes
  form : Regular.Form
  ranges : Nat := 0

/-- A step of reading. -/
abbrev Reader := StateT Source (Except String)

/-- Whether a byte is a blank. -/
def isBlank (byte : UInt8) : Bool := byte = 32 || byte = 9

/-- Pass bytes. -/
def passWhile (isPassed : UInt8 → Bool) : Reader Unit :=
  modify fun source => { source with text := source.text.dropWhile isPassed }

/-- The next byte, which is left where it is. -/
def peek : Reader (Option UInt8) := return (← get).text.head?

/-- Take the next byte. -/
def take : Reader (Option UInt8) := do
  let source ← get
  set { source with text := source.text.drop 1 }
  return source.text.head?

/-- Whether a byte is a digit. -/
def isDigit (byte : UInt8) : Bool := 48 ≤ byte && byte ≤ 57

/-- Take a number, if there is one. -/
def takeNumber : Reader (Option Nat) := do
  let source ← get
  let digits := source.text.takeWhile isDigit
  set { source with text := source.text.drop digits.length }
  return number? digits

/-- The text up to a mark, in which a backslash in front of the mark is dropped, and what follows.
Marks within brackets count as text in patterns. -/
def upTo? (mark : UInt8) (isPattern : Bool) : Nat → (inBracket : Bool) → Bytes →
    Option (Bytes × Bytes)
  | 0, _, _ => none
  | _, _, [] => none
  | fuel + 1, inBracket, byte :: rest =>
    if byte = mark && !inBracket then some ([], rest)
    else if byte = 10 && isPattern then none
    else if byte = 92 && !inBracket then
      match rest with
      | next :: rest =>
        let kept := if next = mark then [next]
          else if next = 110 && isPattern then [10]
          else [92, next]
        (upTo? mark isPattern fuel false rest).map fun (text, rest) => (kept ++ text, rest)
      | [] => none
    else
      let inBracket := isPattern && if inBracket then byte ≠ 93 else byte = 91 && rest.contains 93
      (upTo? mark isPattern fuel inBracket rest).map fun (text, rest) => (byte :: text, rest)

/-- Take the text up to a mark. -/
def takeUpTo (mark : UInt8) (isPattern : Bool) (message : String) : Reader Bytes := do
  let source ← get
  match upTo? mark isPattern (source.text.length + 1) false source.text with
  | some (text, rest) =>
    set { source with text := rest }
    return text
  | none => throw message

/-- The special bytes that a backslash and a letter stand for, written as themselves. -/
def plainEscapes : Bytes → Bytes
  | 92 :: 116 :: rest => 9 :: plainEscapes rest
  | 92 :: byte :: rest => 92 :: byte :: plainEscapes rest
  | byte :: rest => byte :: plainEscapes rest
  | [] => []

/-- Read a pattern. The empty one stands for the last one that was used. -/
def readPattern (text : Bytes) : Reader (Option Pattern) := do
  if text.isEmpty then return none
  match Regular.parse (← get).form (plainEscapes text) with
  | .ok pattern => return some pattern
  | .error message => throw message

/-- Take the flags of a pattern in an address. -/
def takeFlags (searched : Searched) : Nat → Reader Searched
  | 0 => return searched
  | fuel + 1 => do
    match ← peek with
    | some 73 =>
      let _ ← take
      takeFlags { searched with ignoresCase := true } fuel
    | some 77 =>
      let _ ← take
      takeFlags { searched with hasLines := true } fuel
    | _ => return searched

/-- Take an address, if there is one. -/
def takeAddress : Reader (Option Address) := do
  match ← peek with
  | some 36 =>
    let _ ← take
    return some .last
  | some byte =>
    if isDigit byte then
      let first := (← takeNumber).getD 0
      if (← peek) = some 126 then
        let _ ← take
        return some (.stride first ((← takeNumber).getD 0))
      else return some (.number first)
    else if byte = 47 || byte = 92 then
      let _ ← take
      let mark ← if byte = 47 then pure 47 else do pure ((← take).getD 47)
      let text ← takeUpTo mark true "unterminated address regex"
      return some (.search (← takeFlags { pattern? := ← readPattern text } 3))
    else return none
  | none => return none

/-- Take the end of a range. -/
def takeRangeEnd : Reader RangeEnd := do
  match ← peek with
  | some 43 =>
    let _ ← take
    return .after ((← takeNumber).getD 0)
  | some 126 =>
    let _ ← take
    return .multiple ((← takeNumber).getD 0)
  | _ =>
    match ← takeAddress with
    | some address => return .address address
    | none => throw "unexpected `,'"

/-- Take the lines that a command is for. -/
def takeSelection : Reader Selection := do
  match ← takeAddress with
  | none => return .all
  | some first =>
    passWhile isBlank
    if (← peek) = some 44 then
      let _ ← take
      passWhile isBlank
      let last ← takeRangeEnd
      let source ← get
      set { source with ranges := source.ranges + 1 }
      return .range source.ranges first last
    else return .one first

/-- Take the rest of a line. -/
def takeLine : Reader Bytes := do
  let source ← get
  let line := source.text.takeWhile (· ≠ 10)
  set { source with text := source.text.drop (line.length + 1) }
  return line

/-- The text of a command up to the first line end without a backslash in front of it. -/
def textLines : Nat → Bytes → Bytes × Bytes
  | 0, text => ([], text)
  | _, [] => ([], [])
  | fuel + 1, 92 :: byte :: rest =>
    let (text, rest) := textLines fuel rest
    (byte :: text, rest)
  | fuel + 1, byte :: rest =>
    if byte = 10 then ([], rest)
    else
      let (text, rest) := textLines fuel rest
      (byte :: text, rest)

/-- Take the text that a command writes. -/
def takeText : Reader Bytes := do
  passWhile isBlank
  let source ← get
  let body := match source.text with
    | 92 :: rest =>
      match rest.dropWhile isBlank with
      | 10 :: rest => rest
      | _ => rest
    | text => text
  if body.isEmpty then throw "expected \\ after `a', `c' or `i'"
  let (text, rest) := textLines (body.length + 1) body
  set { source with text := rest }
  return text ++ [10]

/-- Take a label, up to the end of the line or a semicolon. -/
def takeLabel : Reader Bytes := do
  passWhile isBlank
  let source ← get
  let name := source.text.takeWhile fun byte => byte ≠ 10 && byte ≠ 59 && byte ≠ 125
  set { source with text := source.text.drop name.length }
  return (name.reverse.dropWhile isBlank).reverse

/-- The text that replaces a match, in parts. -/
def inserts : Nat → Bytes → List Insert
  | 0, _ => []
  | _, [] => []
  | fuel + 1, 38 :: rest => .group 0 :: inserts fuel rest
  | fuel + 1, 92 :: byte :: rest =>
    let part : Insert :=
      if isDigit byte then .group (byte.toNat - 48)
      else if byte = 110 then .text [10]
      else if byte = 116 then .text [9]
      else if [76, 85, 69, 108, 117].contains byte then .casing byte
      else .text [byte]
    part :: inserts fuel rest
  | fuel + 1, byte :: rest => .text [byte] :: inserts fuel rest

/-- The flags of a replacement. -/
structure Flags where
  isGlobal : Bool := false
  prints : Bool := false
  ignoresCase : Bool := false
  hasLines : Bool := false
  occurrence : Nat := 1
  path? : Option Bytes := none

/-- Take the flags of a replacement. -/
def takeReplaceFlags (flags : Flags) : Nat → Reader Flags
  | 0 => return flags
  | fuel + 1 => do
    match ← peek with
    | some 103 =>
      let _ ← take
      takeReplaceFlags { flags with isGlobal := true } fuel
    | some 112 =>
      let _ ← take
      takeReplaceFlags { flags with prints := true } fuel
    | some 77 =>
      let _ ← take
      takeReplaceFlags { flags with hasLines := true } fuel
    | some 109 =>
      let _ ← take
      takeReplaceFlags { flags with hasLines := true } fuel
    | some 119 =>
      let _ ← take
      passWhile isBlank
      return { flags with path? := some (← takeLine) }
    | some byte =>
      if byte = 105 || byte = 73 then
        let _ ← take
        takeReplaceFlags { flags with ignoresCase := true } fuel
      else if isDigit byte then
        let number := (← takeNumber).getD 0
        if number = 0 then throw "number option to `s' command may not be zero"
        takeReplaceFlags { flags with occurrence := number } fuel
      else if [10, 59, 125, 35].contains byte || isBlank byte then return flags
      else throw "unknown option to `s'"
    | none => return flags

/-- The bytes of a list for a translation. -/
def translated : Bytes → Bytes
  | 92 :: 110 :: rest => 10 :: translated rest
  | 92 :: 116 :: rest => 9 :: translated rest
  | 92 :: byte :: rest => byte :: translated rest
  | byte :: rest => byte :: translated rest
  | [] => []

/-- Take what stands behind the letter of a command. -/
def takeAction (letter : UInt8) : Reader Action := do
  match Char.ofNat letter.toNat with
  | '\x7b' => return .block
  | '\x7d' => return .blockEnd
  | '=' => return .number
  | 'a' => return .textAfter (← takeText)
  | 'i' => return .textBefore (← takeText)
  | 'c' => return .change (← takeText)
  | 'd' => return .delete
  | 'D' => return .deleteFirst
  | 'p' => return .print
  | 'P' => return .printFirst
  | 'n' => return .next
  | 'N' => return .append
  | 'g' => return .copyFromHold
  | 'G' => return .appendFromHold
  | 'h' => return .copyToHold
  | 'H' => return .appendToHold
  | 'x' => return .exchange
  | 'l' =>
    let _ ← takeNumber
    return .display
  | 'z' => return .clear
  | 'q' =>
    passWhile isBlank
    return .quit ((← takeNumber).getD 0) false
  | 'Q' =>
    passWhile isBlank
    return .quit ((← takeNumber).getD 0) true
  | 'r' =>
    passWhile isBlank
    return .readFile (← takeLine)
  | 'w' =>
    passWhile isBlank
    return .writeFile (← takeLine)
  | ':' => return .label (← takeLabel)
  | 'b' => return .jump (← takeLabel)
  | 't' => return .jumpIfReplaced (← takeLabel)
  | 'T' => return .jumpUnlessReplaced (← takeLabel)
  | 'y' =>
    let mark := (← take).getD 47
    let old ← takeUpTo mark false "unterminated `y' command"
    let new ← takeUpTo mark false "unterminated `y' command"
    let (old, new) := (translated old, translated new)
    if old.length ≠ new.length then throw "strings for `y' command are different lengths"
    return .translate (old.zip new)
  | 's' =>
    let mark := (← take).getD 47
    let text ← takeUpTo mark true "unterminated `s' command"
    let new ← takeUpTo mark false "unterminated `s' command"
    let flags ← takeReplaceFlags {} 64
    let searched : Searched := {
      pattern? := ← readPattern text, ignoresCase := flags.ignoresCase, hasLines := flags.hasLines }
    return .replace searched (inserts (new.length + 1) new) flags.isGlobal flags.occurrence
      flags.prints flags.path?
  | letter => throw ("unknown command: `" ++ String.singleton letter ++ "'")

/-- Whether nothing else may stand behind a command on its line. -/
def endsAtLine (action : Action) : Bool :=
  match action with
  | .textAfter _ => true
  | .textBefore _ => true
  | .change _ => true
  | .readFile _ => true
  | .writeFile _ => true
  | .block => true
  | .blockEnd => false
  | .replace _ _ _ _ _ (some _) => true
  | _ => false

/-- Read commands. -/
def readCommands : Nat → Reader (List Command)
  | 0 => return []
  | fuel + 1 => do
    passWhile fun byte => isBlank byte || byte = 10 || byte = 59
    let selection ← takeSelection
    passWhile isBlank
    let isInverted := (← peek) = some 33
    passWhile fun byte => byte = 33
    passWhile isBlank
    match ← take with
    | none =>
      match selection with
      | .all => return []
      | _ => throw "missing command"
    | some 35 =>
      let _ ← takeLine
      readCommands fuel
    | some letter =>
      let action ← takeAction letter
      if !endsAtLine action then
        passWhile isBlank
        match ← peek with
        | none => pure ()
        | some byte =>
          if !([10, 59, 125, 35].contains byte) then throw "extra characters after command"
      return { selection, isInverted, action } :: (← readCommands fuel)

/-- Read a script. -/
def parse (form : Regular.Form) (text : Bytes) : Except String (List Command) := do
  let (commands, _) ← (readCommands (text.length + 1)).run { text, form }
  return commands

end Relocation.Utility.Editing
