import Relocation.Bytes

/-!
# Patterns

The text of an expanded word remembers which of its bytes were escaped, and where quotation
marks stood. As a pattern, a byte that was escaped matches only itself, and so does a byte
behind a backslash that came out of an expansion.
-/

namespace Relocation.Shell

/-- A part of the text of an expanded word. -/
inductive Mark where
  /-- A byte that may have a meaning in patterns. -/
  | plain (byte : UInt8)
  /-- A byte that stands for itself. -/
  | escaped (byte : UInt8)
  /-- A place where a quotation mark stood. -/
  | quote
  deriving DecidableEq, Repr, Inhabited

namespace Mark

/-- The byte of a part, if it is one. -/
def byte? : Mark → Option UInt8
  | .plain byte => some byte
  | .escaped byte => some byte
  | .quote => none

/-- The bytes of a text. -/
def bytes (marks : List Mark) : Bytes := marks.filterMap byte?

/-- A text as a pattern in which a backslash makes the next byte stand for itself. A backslash that
came out of an expansion does so too, unless a quotation mark is behind it. -/
def escapedBytes : (follows : Bool) → List Mark → Bytes
  | _, [] => []
  | _, .quote :: rest => escapedBytes false rest
  | _, .plain 92 :: rest => 92 :: escapedBytes true rest
  | _, .plain byte :: rest => byte :: escapedBytes false rest
  | follows, .escaped byte :: rest =>
    if follows then byte :: escapedBytes false rest else 92 :: byte :: escapedBytes false rest

/-- Whether a part of a text is a byte that may have a meaning. -/
def isPlain : Mark → Bool
  | .plain _ => true
  | _ => false

/-- The pattern of a text, written with backslashes. -/
def toPattern (marks : List Mark) : Bytes :=
  let start := marks.takeWhile isPlain
  bytes start ++ escapedBytes false (marks.drop start.length)

end Mark

/-- A member of a set of bytes. -/
inductive SetMember where
  | range (low high : UInt8)
  | named (test : String)
  deriving DecidableEq, Repr

/-- A part of a pattern. -/
inductive PatternPart where
  | exactly (byte : UInt8)
  | anyByte
  | anything
  | oneOf (negated : Bool) (members : List SetMember)
  deriving DecidableEq, Repr

/-- A pattern. -/
abbrev Pattern := List PatternPart

namespace Pattern

/-- The names of the classes of ASCII bytes. -/
def classNames : List String :=
  ["alnum", "cntrl", "lower", "space", "alpha", "digit", "print", "upper", "blank", "graph",
    "punct", "xdigit"]

/-- Whether an ASCII byte belongs to a named class. -/
def inClass (name : String) (byte : UInt8) : Bool :=
  let c := Char.ofNat byte.toNat
  decide (byte < 128) && match name with
    | "alpha" => c.isAlpha
    | "digit" => c.isDigit
    | "alnum" => c.isAlphanum
    | "upper" => c.isUpper
    | "lower" => c.isLower
    | "space" => c.isWhitespace || byte = 11 || byte = 12
    | "blank" => c = ' ' || c = '\t'
    | "punct" => decide (32 < byte) && decide (byte < 127) && !c.isAlphanum
    | "print" => decide (32 ≤ byte) && decide (byte < 127)
    | "graph" => decide (32 < byte) && decide (byte < 127)
    | "cntrl" => decide (byte < 32) || byte = 127
    | "xdigit" => c.isDigit || (decide ('a' ≤ c.toLower) && decide (c.toLower ≤ 'f'))
    | _ => false

/-- Whether a byte belongs to a member of a set. Bytes are ordered as signed numbers. -/
def SetMember.contains (member : SetMember) (byte : UInt8) : Bool :=
  match member with
  | .range low high => decide (low.toInt8 ≤ byte.toInt8) && decide (byte.toInt8 ≤ high.toInt8)
  | .named name => inClass name byte

/-- Whether a part other than `anything` matches a byte. -/
def matchesByte (part : PatternPart) (byte : UInt8) : Bool :=
  match part with
  | .exactly b => b = byte
  | .anyByte => true
  | .anything => false
  | .oneOf negated members => members.any (SetMember.contains · byte) != negated

/-- Whether a pattern matches a whole text. -/
def matchesAll : Pattern → Bytes → Bool
  | [], text => text.isEmpty
  | .anything :: rest, [] => matchesAll rest []
  | .anything :: rest, byte :: text =>
    matchesAll rest (byte :: text) || matchesAll (.anything :: rest) text
  | _ :: _, [] => false
  | part :: rest, byte :: text => matchesByte part byte && matchesAll rest text
termination_by pattern text => (pattern.length, text.length)

/-- The name of a class at the start of a text, after a bracket, and what follows it. -/
def className? (text : Bytes) : Option (String × Bytes) :=
  classNames.findSome? fun name =>
    let whole := Bytes.ofString (":" ++ name ++ ":]")
    if whole.isPrefixOf text then some (name, text.drop whole.length) else none

/-- The byte at the start of a text, behind a backslash if there is one, and what follows it. -/
def unescaped? : Bytes → Option (UInt8 × Bytes)
  | 92 :: byte :: rest => some (byte, rest)
  | [92] => none
  | byte :: rest => some (byte, rest)
  | [] => none

/-- The members of a set up to the bracket that closes it, and what follows. A bracket that comes
first is a member. The members read so far are kept in reverse. -/
def members? : Nat → Bool → List SetMember → Bytes → Option (List SetMember × Bytes)
  | 0, _, _, _ => none
  | _, _, _, [] => none
  | fuel + 1, isFirst, members, byte :: rest =>
    if byte = 93 ∧ isFirst = false then some (members.reverse, rest)
    else
      match if byte = 91 then className? rest else none with
      | some (name, rest) => members? fuel false (.named name :: members) rest
      | none =>
        match unescaped? (byte :: rest) with
        | none => none
        | some (low, 45 :: next :: after) =>
          if next = 93 then members? fuel false (.range low low :: members) (45 :: next :: after)
          else match unescaped? (next :: after) with
            | some (high, rest) => members? fuel false (.range low high :: members) rest
            | none => none
        | some (low, rest) => members? fuel false (.range low low :: members) rest

/-- The pattern that bytes denote. A bracket that is never closed stands for itself. -/
def ofBytesWithin : Nat → Bytes → Pattern
  | 0, _ => []
  | _, [] => []
  | fuel + 1, byte :: rest =>
    if byte = 92 then
      match rest with
      | next :: rest => .exactly next :: ofBytesWithin fuel rest
      | [] => [.exactly 92]
    else if byte = 42 then .anything :: ofBytesWithin fuel rest
    else if byte = 63 then .anyByte :: ofBytesWithin fuel rest
    else if byte = 91 then
      let (negated, body) := match rest with
        | 33 :: body => (true, body)
        | body => (false, body)
      match members? (body.length + 1) true [] body with
      | some (members, rest) => .oneOf negated members :: ofBytesWithin fuel rest
      | none => .exactly byte :: ofBytesWithin fuel rest
    else .exactly byte :: ofBytesWithin fuel rest

/-- The pattern that bytes denote. -/
def ofBytes (bytes : Bytes) : Pattern :=
  ofBytesWithin (bytes.length + 1) bytes

/-- The pattern of the text of an expanded word. -/
def ofMarks (marks : List Mark) : Pattern := ofBytes (Mark.toPattern marks)

/-! ### Cutting values -/

/-- A text up to its first zero byte, as matching sees it. -/
def upToNul (text : Bytes) : Bytes := text.takeWhile (· ≠ 0)

/-- The byte before an escaped one in a text that is kept as bytes. -/
def escapeByte : UInt8 := 129

/-- A text as bytes, with each escaped one behind another. -/
def withEscapes (marks : List Mark) : Bytes :=
  marks.flatMap fun mark => match mark with
    | .plain byte => [byte]
    | .escaped byte => [escapeByte, byte]
    | .quote => []

/-- What a scan from the end of a value looks at, and what stands before that. The scan takes a step
for each part of the value. It goes along the bytes of the value; but where zero bytes divide the
value, these are without their escapes only up to the first one, and if there are escapes before
that, no more is seen of the value. -/
def scanned (pattern : Bytes) (value : List Mark) : Bytes × Bytes :=
  let first := value.takeWhile (· ≠ .plain 0)
  if first.length = value.length then ([], Mark.bytes value)
  else if !first.all Mark.isPlain then (withEscapes value ++ 0 :: pattern ++ [0], Mark.bytes first)
  else ([], withEscapes value)

/-- The tails of a text, the shortest one first, put before those that are given. -/
def tailsBefore : List Bytes → Bytes → List Bytes
  | found, [] => [] :: found
  | found, byte :: rest => tailsBefore ((byte :: rest) :: found) rest

/-- The tails of a text, the shortest one first. -/
def tails (text : Bytes) : List Bytes := tailsBefore [] text

/-- How much of a value is left before a match of a pattern at its end. A longest match has to begin
before the first zero byte. -/
def trimEnd (pattern : Bytes) (longest : Bool) (value : List Mark) : Nat :=
  let parts := ofBytes pattern
  if longest then
    let tails := (tails (upToNul (Mark.bytes value))).reverse
    (tails.findIdx? (matchesAll parts)).getD value.length
  else
    let (before, seen) := scanned pattern value
    let tails := (tails (before ++ seen)).take (value.length + 1)
    match tails.findIdx? fun tail => matchesAll parts (upToNul tail) with
    | some count => value.length - count
    | none => value.length

/-- Where a value goes on behind a match of a pattern at its start. A shortest match has to end
before the first zero byte. A scan for a longest match that leaves what is seen of the value goes on
along the pattern, of which only the part before it counts. -/
def trimStart (pattern : Bytes) (longest : Bool) (value : List Mark) : Nat :=
  if longest then
    let (_, seen) := scanned pattern value
    let first := upToNul seen
    let matchesAfter (count : Nat) : Bool :=
      if count ≤ seen.length then
        matchesAll (ofBytes pattern) (first.take (seen.length - count))
      else
        let taken := count - seen.length - 1
        let pattern :=
          if taken ≤ pattern.length then pattern.take (pattern.length - taken) else pattern
        matchesAll (ofBytes pattern) first
    match (List.range (value.length + 1)).find? matchesAfter with
    | some count => value.length - count
    | none => 0
  else
    let parts := ofBytes pattern
    let first := upToNul (Mark.bytes value)
    ((List.range (first.length + 1)).find? fun count => matchesAll parts (first.take count)).getD 0

end Pattern

end Relocation.Shell
