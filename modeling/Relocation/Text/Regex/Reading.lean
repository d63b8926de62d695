import Relocation.Text.Blank
import Relocation.Text.Decimal
import Relocation.Text.Regex

/-!
# Reading regular expressions

The usual way to write a regular expression down: a backslash gives a character its other
meaning, brackets hold a class, parentheses group, and a question mark behind an opening
parenthesis begins a group with flags or a name. A text that is not of this form denotes
no expression. Neither does one that depends on properties of characters beyond ASCII, for
which there are no tables: those of digits, blanks and words, and which letters differ only in
case. They are known where the flag `u` is turned off.
-/

namespace Relocation.Regex

/-- What the characters of an expression mean at a place in it. -/
structure Flags where
  ignoresCase : Bool := false
  matchesLines : Bool := false
  dotMatchesLineEnd : Bool := false
  /-- Whether characters are those of Unicode, and not bytes. -/
  hasUnicode : Bool := true
  skipsBlanks : Bool := false
  hasReturns : Bool := false

/-- Where reading stands: the text that is left, the flags that hold there, and the names of the
groups so far. -/
structure Reading where
  input : List Char
  flags : Flags := {}
  names : List (List Char) := []

/-- A reader of a part of an expression. -/
abbrev Reader := StateT Reading Option

namespace Reader

/-- Drop blanks and comments if they mean nothing here. -/
def skipBlanks : Reader Unit := modify fun reading =>
  if reading.flags.skipsBlanks then
    { reading with input := skip reading.input.length reading.input }
  else reading
where
  /-- Drop at most so many blanks and comments. -/
  skip : Nat → List Char → List Char
    | 0, text => text
    | _, [] => []
    | fuel + 1, c :: rest =>
      if Blank.isBlank c then skip fuel rest
      else if c = '#' then skip fuel (rest.dropWhile (· ≠ '\n'))
      else c :: rest

/-- The next character. -/
def peek? : Reader (Option Char) := return (← get).input.head?

/-- Take the next character, which has to exist. -/
def take : Reader Char := do
  match (← get).input with
  | c :: rest =>
    modify fun reading => { reading with input := rest }
    return c
  | [] => failure

/-- Take a text if it comes next. -/
def takes (text : String) : Reader Bool := do
  if text.toList.isPrefixOf (← get).input then
    modify fun reading => { reading with input := reading.input.drop text.length }
    return true
  else return false

/-- Take a text that has to come next. -/
def expect (text : String) : Reader Unit := do
  if !(← takes text) then failure

/-- Take characters as long as they satisfy a condition. -/
def takeWhile (condition : Char → Bool) : Reader (List Char) := modifyGet fun reading =>
  (reading.input.takeWhile condition, { reading with input := reading.input.dropWhile condition })

/-- Take a decimal number, perhaps with blanks around it. -/
def number? : Reader (Option Nat) := do
  let _ ← takeWhile Blank.isBlank
  let digits ← takeWhile Char.isDigit
  let _ ← takeWhile Blank.isBlank
  return Decimal.natural? digits

/-! ### Escapes -/

/-- What stands behind a backslash. -/
inductive Escape where
  | char (c : Char)
  | set (set : CharClass)
  | boundary (boundary : Boundary)

/-- The character with a number that is written with hexadecimal digits. -/
def ofHex (digits : List Char) : Reader Char := do
  let digit? (c : Char) : Option Nat :=
    if c.isDigit then some (c.toNat - 48)
    else if 'a' ≤ c.toLower ∧ c.toLower ≤ 'f' then some (c.toLower.toNat - 87)
    else none
  let value? := digits.foldl (fun value? c => do return (← value?) * 16 + (← digit? c)) (some 0)
  match value? with
  | some value => if digits.isEmpty || !value.isValidChar then failure else return Char.ofNat value
  | none => failure

/-- Read the number of a character, in braces or with a fixed number of digits. Two digits stand for
a byte where characters are bytes, and then a byte by itself has to be a character. -/
def readHex (count : Nat) : Reader Char := do
  if ← takes "\x7b" then
    let digits ← takeWhile (· ≠ '\x7d')
    expect "\x7d"
    ofHex digits
  else
    let digits := (← get).input.take count
    if digits.length < count then failure
    modify fun reading => { reading with input := reading.input.drop count }
    let c ← ofHex digits
    if count = 2 && !(← get).flags.hasUnicode && 0x80 ≤ c.toNat then failure else return c

/-- A class that may not hold bytes by themselves where characters are bytes. -/
def checked (set : CharClass) : Reader CharClass := do
  if !(← get).flags.hasUnicode && set.contains '\x80' then failure else return set

/-- What is known about characters of ASCII only. -/
def inAscii {α : Type} (meaning : α) : Reader α := do
  if (← get).flags.hasUnicode then failure else return meaning

/-- Read the name of an edge of a word in braces, if one stands here. -/
def readEdge : Reader Boundary := do
  let edges := [("\x7bstart\x7d", Boundary.wordStart), ("\x7bend\x7d", .wordEnd),
    ("\x7bstart-half\x7d", .noWordBefore), ("\x7bend-half\x7d", .noWordAfter)]
  for (text, boundary) in edges do
    if ← takes text then return boundary
  match (← get).input with
  | '\x7b' :: c :: _ => if c.isAlpha || c = '-' then failure else return .wordEdge
  | _ => return .wordEdge

/-- Read what stands behind a backslash. -/
def readEscape : Reader Escape := do
  match ← take with
  | 'd' => return .set (← inAscii .digit)
  | 's' => return .set (← inAscii .space)
  | 'w' => return .set (← inAscii .word)
  | 'x' => return .char (← readHex 2)
  | 'u' => return .char (← readHex 4)
  | 'U' => return .char (← readHex 8)
  | 'a' => return .char '\x07'
  | 'f' => return .char '\x0c'
  | 't' => return .char '\t'
  | 'n' => return .char '\n'
  | 'r' => return .char '\r'
  | 'v' => return .char '\x0b'
  | 'A' => return .boundary .textStart
  | 'z' => return .boundary .textEnd
  | 'b' => return .boundary (← inAscii (← readEdge))
  | 'B' => return .boundary (← inAscii .noWordEdge)
  | '<' => return .boundary (← inAscii .wordStart)
  | '>' => return .boundary (← inAscii .wordEnd)
  | c => if c.isAlphanum || 0x80 ≤ c.toNat then failure else return .char c

/-! ### Classes -/

/-- A class that matches letters in both cases if the flags say so. -/
def inCase (set : CharClass) : Reader CharClass := do
  if (← get).flags.ignoresCase then inAscii (.folded set) else return set

/-- A member of a class: a character, which can begin a range, or a class. -/
def readMember : Reader Escape := do
  if ← takes "\\" then
    match ← readEscape with
    | .boundary _ => failure
    | member => return member
  else return .char (← take)

/-- Read a character or a range of characters, or a class with a name of one letter. -/
def readRange : Reader CharClass := do
  let first ← readMember
  skipBlanks
  let isRange := match (← get).input with
    | '-' :: c :: _ => c ≠ ']' && c ≠ '-'
    | _ => false
  match first, isRange with
  | .char low, true =>
    expect "-"
    skipBlanks
    match ← readMember with
    | .char high => if low ≤ high then checkedRange low high else failure
    | _ => failure
  | .char c, false => checkedRange c c
  | .set set, false => inCase set
  | _, _ => failure
where
  /-- The class of a range, which has to lie in ASCII where characters are bytes. -/
  checkedRange (low high : Char) : Reader CharClass := do
    if !(← get).flags.hasUnicode && 0x80 ≤ high.toNat then failure else inCase (.range low high)

/-- Read the name of a class between brackets and colons, if one stands here. -/
def readNamed? : Reader (Option CharClass) := do
  let start ← get
  if ← takes "[:" then
    let isNegated ← takes "^"
    let name ← takeWhile Char.isAlpha
    match CharClass.named.lookup (String.ofList name), ← takes ":]" with
    | some set, true =>
      let set ← inCase set
      return some (← checked (if isNegated then .complement set else set))
    | _, _ =>
      set start
      return none
  else return none

/-- Something that was read, and how deeply its parts are nested. -/
structure Part (α : Type) where
  value : α
  depth : Nat := 0

/-- Put a part into another one. -/
def Part.inside {α β : Type} (part : Part α) (wrap : α → β) : Part β :=
  { value := wrap part.value, depth := part.depth + 1 }

/-- The depth of parts that stand together. -/
def depthOf {α : Type} (parts : List (Part α)) : Nat :=
  let depth := parts.foldl (fun depth part => max depth part.depth) 0
  if 1 < parts.length then depth + 1 else depth

/-- How two classes are joined. -/
def joins : List (String × (CharClass → CharClass → CharClass)) :=
  [("&&", .both), ("--", fun a b => .both a (.complement b)),
    ("~~", fun a b => .both (.either a b) (.complement (.both a b)))]

/-- The class of some members. -/
def union (members : List (Part CharClass)) : Part CharClass where
  value := members.foldl (fun set member => .either set member.value) .none
  depth := depthOf members

/-- Read the members of a class behind its opening bracket. `join` is applied to the members up to
the next operator, of which `members` are those read so far in reverse. -/
def readMembers : Nat → (Part CharClass → Part CharClass) → List (Part CharClass) →
    Reader (Part CharClass)
  | 0, _, _ => failure
  | fuel + 1, join, members => do
    skipBlanks
    match ← readNamed? with
    | some set => readMembers fuel join ({ value := set } :: members)
    | none =>
      if ← takes "]" then return join (union members)
      else if ← takes "[" then
        let inner ← readBracket fuel
        readMembers fuel join (inner :: members)
      else
        let input := (← get).input
        match joins.find? fun operator => operator.1.toList.isPrefixOf input with
        | some (operator, next) =>
          expect operator
          let left := join (union members)
          let join (right : Part CharClass) : Part CharClass :=
            { value := next left.value right.value, depth := max left.depth right.depth + 1 }
          readMembers fuel join []
        | none => readMembers fuel join ({ value := ← readRange } :: members)
where
  /-- Read a class behind its opening bracket. Minus signs at its start are members, and so is a
  closing bracket that comes first. -/
  readBracket : Nat → Reader (Part CharClass)
    | 0 => failure
    | fuel + 1 => do
      skipBlanks
      let isNegated ← takes "^"
      skipBlanks
      let signs ← takeWhile (· = '-')
      let bracket ← if signs.isEmpty then takes "]" else pure false
      let start ← (signs ++ if bracket then [']'] else []).mapM fun c => do
        return { value := ← inCase (.one c) }
      let inner ← readMembers fuel id start
      let set ← checked (if isNegated then .complement inner.value else inner.value)
      return inner.inside fun _ => set

/-- Read a class behind its opening bracket. -/
def readClass : Reader (Part Regex) := do
  let set ← readMembers.readBracket ((← get).input.length + 1)
  return { value := .one set.value, depth := set.depth }

/-! ### Groups and sequences -/

/-- A flag turned on or off. -/
def withFlag (flags : Flags) (isOn : Bool) : Char → Option Flags
  | 'i' => some { flags with ignoresCase := isOn }
  | 'm' => some { flags with matchesLines := isOn }
  | 's' => some { flags with dotMatchesLineEnd := isOn }
  | 'u' => some { flags with hasUnicode := isOn }
  | 'x' => some { flags with skipsBlanks := isOn }
  | 'R' => some { flags with hasReturns := isOn }
  | 'U' => some flags
  | _ => none

/-- The flags that letters set, each of which may occur once. Those behind a minus sign are turned
off, and there may be only one such sign, with a letter behind it. -/
def readFlags : List Char → List Char → Bool → Flags → Option Flags
  | [], seen, _, flags => if seen.head? = some '-' then none else some flags
  | c :: rest, seen, isOn, flags =>
    if seen.contains c then none
    else if c = '-' then readFlags rest (c :: seen) false flags
    else do readFlags rest (c :: seen) isOn (← withFlag flags isOn c)

/-- Whether a text can be the name of a group. -/
def isGroupName : List Char → Bool
  | [] => false
  | first :: rest =>
    let begins (c : Char) : Bool := c = '_' || c.isAlpha || 0x80 ≤ c.toNat
    begins first && rest.all fun c => begins c || c.isDigit || ['.', '[', ']'].contains c

/-- How a group begins. -/
inductive Opening where
  /-- Flags for the rest of the group outside. -/
  | flags
  /-- A group with expressions in it. -/
  | group

/-- Read what stands behind an opening parenthesis before the expressions of the group. -/
def readOpening : Reader Opening := do
  skipBlanks
  let input := (← get).input
  if ["?=", "?!", "?<=", "?<!"].any fun text => text.toList.isPrefixOf input then failure
  let isNamed ← if ← takes "?P<" then pure true else takes "?<"
  if isNamed then
    let name ← takeWhile (· ≠ '>')
    expect ">"
    if !isGroupName name || (← get).names.contains name then failure
    modify fun reading => { reading with names := name :: reading.names }
    return .group
  else if ← takes "?" then
    let letters ← takeWhile fun c => c ≠ ':' && c ≠ ')'
    match readFlags letters [] true (← get).flags with
    | none => failure
    | some flags =>
      modify fun reading => { reading with flags := flags }
      match ← take with
      | ')' => if letters.isEmpty then failure else return .flags
      | _ => return .group
  else return .group

/-- Read the numbers of a repetition behind the opening brace. -/
def readCounts : Reader (Nat × Option Nat) := do
  let least? ← number?
  let counts ← if ← takes "," then do
      let most? ← number?
      match least?, most? with
      | some least, most? => pure (least, most?)
      | none, some most => pure (0, some most)
      | none, none => failure
    else match least? with
      | some count => pure (count, some count)
      | none => failure
  expect "\x7d"
  if counts.2.any fun most => decide (most < counts.1) then failure else return counts

/-- The expression of a character that stands for itself. -/
def literal (c : Char) : Reader Regex := do return .one (← inCase (.one c))

/-- The line ends that a dot does not match and lines end with. -/
def lineEnds : Reader (List Char) := do
  return if (← get).flags.hasReturns then ['\n', '\r'] else ['\n']

/-- The expression of a character that has a meaning by itself. -/
def readSingle (c : Char) : Reader Regex := do
  let flags := (← get).flags
  let ends ← lineEnds
  match c with
  | '\\' =>
    match ← readEscape with
    | .char c => literal c
    | .set set => return .one (← inCase set)
    | .boundary boundary => return .at boundary
  | '.' =>
    let set := if flags.dotMatchesLineEnd then .any
      else .complement (.ofRanges (ends.map fun c => (c, c)))
    return .one (← checked set)
  | '^' => return .at (if flags.matchesLines then .lineStart ends else .textStart)
  | '$' => return .at (if flags.matchesLines then .lineEnd ends else .textEnd)
  | c => literal c

/-- Repeat the last of some expressions, which are kept in reverse. Flags cannot be repeated. -/
def repeatLast (least : Nat) (most? : Option Nat) : List (Part (Option Regex)) →
    Reader (List (Part (Option Regex)))
  | last :: before => match last.value with
    | none => failure
    | some body => do
      let _ ← takes "?"
      return last.inside (fun _ => some (.repeated body least most?)) :: before
  | [] => failure

/-- Expressions one after the other, which are kept in reverse. -/
def inSequence (parts : List (Part (Option Regex))) : Part Regex where
  value := .all (parts.reverse.filterMap (·.value))
  depth := depthOf parts

/-- Alternative expressions. -/
def oneOf : List (Part Regex) → Part Regex
  | [] => { value := .empty }
  | first :: rest => {
    value := rest.foldl (fun regex part => .either regex part.value) first.value
    depth := depthOf (first :: rest) }

mutual

/-- Read alternatives up to the parenthesis that closes them or to the end. Those read so far are
kept in reverse. -/
def readAlternatives : Nat → List (Part Regex) → Reader (Part Regex)
  | 0, _ => failure
  | fuel + 1, parts => do
    let parts := (← readSequence fuel []) :: parts
    if ← takes "|" then readAlternatives fuel parts
    else return oneOf parts.reverse

/-- Read expressions one after the other. Those read so far are kept in reverse, with none in place
of flags. -/
def readSequence : Nat → List (Part (Option Regex)) → Reader (Part Regex)
  | 0, _ => failure
  | fuel + 1, parts => do
    skipBlanks
    match ← peek? with
    | none => return inSequence parts
    | some '|' => return inSequence parts
    | some ')' => return inSequence parts
    | some c =>
      let _ ← take
      match c with
      | '(' =>
        let flags := (← get).flags
        match ← readOpening with
        | .flags => readSequence fuel ({ value := none } :: parts)
        | .group =>
          let body ← readAlternatives fuel []
          expect ")"
          modify fun reading => { reading with flags := flags }
          readSequence fuel (body.inside some :: parts)
      | '[' =>
        let set ← readClass
        readSequence fuel ({ value := some set.value, depth := set.depth } :: parts)
      | '?' => readSequence fuel (← repeatLast 0 (some 1) parts)
      | '*' => readSequence fuel (← repeatLast 0 none parts)
      | '+' => readSequence fuel (← repeatLast 1 none parts)
      | '\x7b' =>
        if parts.isEmpty then failure
        let (least, most?) ← readCounts
        readSequence fuel (← repeatLast least most? parts)
      | c => readSequence fuel ({ value := some (← readSingle c) } :: parts)

end

end Reader

/-! ### Limits -/

/-- How deeply the parts of an expression can be nested. -/
def maxDepth : Nat := 250

/-- How many states there are for the matches of a class. Characters beyond ASCII are matched byte
by byte. -/
def classSize (set : CharClass) : Nat := if set.contains '\x80' then 12 else 1

/-- How many states a search for an expression has. -/
def stateCount : Regex → Nat
  | .empty => 1
  | .one set => classSize set
  | .at _ => 1
  | .sequence first second => first.stateCount + second.stateCount
  | .either first second => first.stateCount + second.stateCount + 1
  | .repeated body least none => (least + 1) * body.stateCount + 1
  | .repeated body least (some most) => most * body.stateCount + (most - least)
  | .kept _ body => body.stateCount + 2
  | .recall _ => 1

/-- How many states a search can have: those that fit in ten mebibytes. -/
def maxStates : Nat := 10 * 1024 * 1024 / 32

/-- The expression that a text denotes. -/
def parse? (text : String) : Option Regex := do
  let (part, reading) ←
    (Reader.readAlternatives (2 * text.length + 2) []).run { input := text.toList }
  if reading.input.isEmpty && part.depth ≤ maxDepth && part.value.stateCount ≤ maxStates then
    return part.value
  else none

end Relocation.Regex
