import Relocation.Utility.Replace

/-!
# Patterns of texts

The patterns with which texts are searched and edited. They come in a basic form, in which
operators are marked by backslashes, and in an extended one. A match begins as early in
the text as any can, and is as long as any that begins there.
-/

namespace Relocation.Utility.Regular

/-- A set of bytes. -/
abbrev ByteSet := Array Bool

/-- A pattern. -/
inductive Pattern where
  /-- The empty text. -/
  | nothing
  | exactly (byte : UInt8)
  | oneOf (set : ByteSet)
  | sequence (first second : Pattern)
  | choice (first second : Pattern)
  | repeated (pattern : Pattern) (least : Nat) (most? : Option Nat)
  /-- A part whose text is kept under a number. -/
  | group (number : Nat) (pattern : Pattern)
  /-- The text of a group again. -/
  | again (number : Nat)
  | lineStart
  | lineEnd
  | wordStart
  | wordEnd
  | wordEdge
  | noWordEdge
  /-- The start or the end of the whole text, also where it has several lines. -/
  | textStart
  | textEnd

/-! ### Matching -/

/-- How a text is searched. -/
structure Subject where
  text : ByteArray
  ignoresCase : Bool := false
  /-- Whether lines within the text count for the anchors. -/
  hasLines : Bool := false

/-- A match as far as it goes: where it is, and the texts of groups by their ends. -/
structure Progress where
  position : Nat
  groups : List (Nat × Nat × Nat) := []

/-- A byte without regard to the case of letters. -/
def lowered (byte : UInt8) : UInt8 := if 65 ≤ byte && byte ≤ 90 then byte + 32 else byte

/-- The other case of a letter. -/
def otherCase (byte : UInt8) : UInt8 :=
  if 65 ≤ byte && byte ≤ 90 then byte + 32
  else if 97 ≤ byte && byte ≤ 122 then byte - 32
  else byte

/-- Whether a byte is a part of words. -/
def isWordByte (byte : UInt8) : Bool :=
  byte = 95 || (48 ≤ byte && byte ≤ 57) || (65 ≤ byte && byte ≤ 90) || (97 ≤ byte && byte ≤ 122)

namespace Subject

/-- The byte at a position. -/
def byte? (subject : Subject) (position : Nat) : Option UInt8 := subject.text[position]?

/-- Whether two bytes count as the same. -/
def same (subject : Subject) (a b : UInt8) : Bool :=
  a = b || (subject.ignoresCase && lowered a = lowered b)

/-- Whether a part of a word stands in front of a position. -/
def hasWordBefore (subject : Subject) (position : Nat) : Bool :=
  position ≠ 0 && (subject.byte? (position - 1)).any isWordByte

/-- Whether a part of a word stands at a position. -/
def hasWordAt (subject : Subject) (position : Nat) : Bool :=
  (subject.byte? position).any isWordByte

/-- Whether a line begins at a position. -/
def isLineStart (subject : Subject) (position : Nat) : Bool :=
  position = 0 || (subject.hasLines && subject.byte? (position - 1) = some 10)

/-- Whether a line ends at a position. -/
def isLineEnd (subject : Subject) (position : Nat) : Bool :=
  position = subject.text.size || (subject.hasLines && subject.byte? position = some 10)

/-- A part of the text. -/
def slice (subject : Subject) (start stop : Nat) : Bytes :=
  (subject.text.extract start stop).toList

end Subject

/-- Progress with only the first way to each position. -/
def distinct (ways : List Progress) : List Progress :=
  match ways with
  | [] => ways
  | [_] => ways
  | ways => (ways.foldl (fun (seen : List Progress) way =>
      if seen.any (·.position = way.position) then seen else way :: seen) []).reverse

/-- Go on by one step after the other, as often as that is allowed, the longest ways first. -/
def iterate (step : Progress → List Progress) : Nat → (least : Nat) → (most? : Option Nat) →
    Progress → List Progress
  | 0, _, _, progress => [progress]
  | fuel + 1, least, most?, progress =>
    let more := if most? = some 0 then []
      else (step progress).flatMap fun next =>
        if next.position = progress.position then if least = 0 then [] else [next]
        else iterate step fuel (least - 1) (most?.map (· - 1)) next
    distinct (more ++ if least = 0 then [progress] else [])

/-- The ways in which a pattern matches from a position. -/
def Pattern.ways (subject : Subject) : Pattern → Progress → List Progress
  | .nothing, progress => [progress]
  | .exactly byte, progress =>
    if (subject.byte? progress.position).any (subject.same byte) then
      [{ progress with position := progress.position + 1 }] else []
  | .oneOf set, progress =>
    let holds (byte : UInt8) : Bool := (set[byte.toNat]?).getD false
    if (subject.byte? progress.position).any fun byte =>
        holds byte || (subject.ignoresCase && holds (otherCase byte)) then
      [{ progress with position := progress.position + 1 }] else []
  | .sequence first second, progress =>
    distinct ((first.ways subject progress).flatMap (second.ways subject))
  | .choice first second, progress =>
    distinct (first.ways subject progress ++ second.ways subject progress)
  | .repeated pattern least most?, progress =>
    iterate (pattern.ways subject) (subject.text.size + least + 1 - progress.position) least most?
      progress
  | .group number pattern, progress =>
    (pattern.ways subject progress).map fun next => { next with
      groups := (number, progress.position, next.position) ::
        next.groups.filter (·.1 ≠ number) }
  | .again number, progress =>
    match progress.groups.lookup number with
    | none => []
    | some (start, stop) =>
      let length := stop - start
      let here := subject.slice progress.position (progress.position + length)
      let there := subject.slice start stop
      if here.length = length && (here.zip there).all fun (a, b) => subject.same a b then
        [{ progress with position := progress.position + length }] else []
  | .lineStart, progress => if subject.isLineStart progress.position then [progress] else []
  | .lineEnd, progress => if subject.isLineEnd progress.position then [progress] else []
  | .wordStart, progress =>
    if !subject.hasWordBefore progress.position && subject.hasWordAt progress.position then
      [progress] else []
  | .wordEnd, progress =>
    if subject.hasWordBefore progress.position && !subject.hasWordAt progress.position then
      [progress] else []
  | .wordEdge, progress =>
    if subject.hasWordBefore progress.position != subject.hasWordAt progress.position then
      [progress] else []
  | .noWordEdge, progress =>
    if subject.hasWordBefore progress.position == subject.hasWordAt progress.position then
      [progress] else []
  | .textStart, progress => if progress.position = 0 then [progress] else []
  | .textEnd, progress => if progress.position = subject.text.size then [progress] else []

/-- A match: where it begins and ends, and the texts of its groups. -/
structure Match where
  start : Nat
  stop : Nat
  groups : List (Nat × Nat × Nat)

/-- The longest match that begins at a position. -/
def Pattern.matchAt? (subject : Subject) (pattern : Pattern) (start : Nat) : Option Match :=
  (pattern.ways subject { position := start }).foldl (fun best? way =>
    if best?.any fun best => decide (way.position ≤ best.stop) then best?
    else some { start, stop := way.position, groups := way.groups }) none

/-- The first match from a position on. -/
def Pattern.find? (subject : Subject) (pattern : Pattern) (start : Nat) : Option Match :=
  (List.range (subject.text.size + 1 - start)).findSome? fun offset =>
    pattern.matchAt? subject (start + offset)

/-! ### Reading -/

/-- The forms in which patterns are written. -/
inductive Form where
  | basic
  | extended
  deriving DecidableEq, Repr

/-- The set of some bytes. -/
def setOf (bytes : Bytes) : ByteSet := Replace.membership bytes

/-- The set of all other bytes. -/
def ByteSet.complement (set : ByteSet) : ByteSet := set.map (!·)

/-- The bytes of words. -/
def wordBytes : Bytes := (Replace.range 0 255).filter isWordByte

/-- The bytes that are white space. -/
def spaceBytes : Bytes := Replace.range 9 13 ++ [32]

/-- What is wrong with a pattern that does not end where it should. -/
def openBracket : String := "Unmatched [, [^, [:, [., or [="

/-- Read what stands between two marks in a bracket. -/
def named? (mark : UInt8) : Bytes → Option (Bytes × Bytes)
  | [] => none
  | byte :: rest =>
    if byte = mark && rest.head? = some 93 then some ([], rest.drop 1)
    else (named? mark rest).map fun (name, rest) => (byte :: name, rest)

/-- Read one end of a range, or a byte by itself. -/
def rangeEnd? : Bytes → Option (UInt8 × Bytes)
  | 91 :: 46 :: rest => (named? 46 rest).bind fun (name, rest) => name.head?.map (·, rest)
  | byte :: rest => some (byte, rest)
  | [] => none

/-- Read the members of a set up to the bracket that closes it. -/
def readMembers : Nat → (isFirst : Bool) → Bytes → Bytes → Except String (Bytes × Bytes)
  | 0, _, _, _ => .error openBracket
  | _, _, _, [] => .error openBracket
  | fuel + 1, isFirst, members, byte :: rest => do
    if byte = 93 && !isFirst then return (members, rest)
    else match byte, rest with
      | 91, 58 :: rest =>
        match named? 58 rest with
        | none => .error openBracket
        | some (name, rest) =>
          match Replace.classBytes? name with
          | some bytes => readMembers fuel false (bytes ++ members) rest
          | none => .error "Invalid character class name"
      | 91, 61 :: rest =>
        match named? 61 rest with
        | none => .error openBracket
        | some (name, rest) => readMembers fuel false (name ++ members) rest
      | byte, rest =>
        match rangeEnd? (byte :: rest) with
        | none => .error openBracket
        | some (first, rest) =>
          match rest with
          | 45 :: next :: others =>
            if next = 93 then readMembers fuel false (first :: members) rest
            else match rangeEnd? (next :: others) with
              | none => .error openBracket
              | some (last, rest) =>
                if last < first then .error "Invalid range end"
                else readMembers fuel false (Replace.range first last ++ members) rest
          | _ => readMembers fuel false (first :: members) rest

/-- Read a set behind the bracket that opens it. -/
def readSet (rest : Bytes) : Except String (Pattern × Bytes) := do
  let isNegated := rest.head? = some 94
  let rest := if isNegated then rest.drop 1 else rest
  let (members, rest) ← readMembers (rest.length + 1) true [] rest
  let set := setOf members
  return (.oneOf (if isNegated then set.complement else set), rest)

/-- How often something is repeated, read from inside of braces. -/
def bounds? (text : Bytes) : Option (Nat × Option Nat) :=
  match Bytes.cut? (· = 44) text with
  | none => (number? text).map fun count => (count, some count)
  | some (least, most) =>
    let least? := if least.isEmpty then some 0 else number? least
    if most.isEmpty then least?.map (·, none)
    else do
      let least ← least?
      let most ← number? most
      if most < least then none else some (least, some most)

/-- A repetition that begins a text, if one does: how often, and what follows. -/
def repetition? (form : Form) (text : Bytes) :
    Except String (Option ((Nat × Option Nat) × Bytes)) :=
  let braces (inner ending : Bytes) : Except String (Option ((Nat × Option Nat) × Bytes)) :=
    let text := inner.takeWhile fun byte => byte = 44 || (48 ≤ byte && byte ≤ 57)
    let rest := inner.drop text.length
    if ending.isPrefixOf rest then
      match bounds? text with
      | some bounds => .ok (some (bounds, rest.drop ending.length))
      | none => .error "Invalid content of \\\x7b\\\x7d"
    else if form = .extended then .ok none
    else .error "Unmatched \\\x7b"
  match form, text with
  | _, 42 :: rest => .ok (some ((0, none), rest))
  | .extended, 43 :: rest => .ok (some ((1, none), rest))
  | .extended, 63 :: rest => .ok (some ((0, some 1), rest))
  | .extended, 123 :: rest => braces rest [125]
  | .basic, 92 :: 43 :: rest => .ok (some ((1, none), rest))
  | .basic, 92 :: 63 :: rest => .ok (some ((0, some 1), rest))
  | .basic, 92 :: 123 :: rest => braces rest [92, 125]
  | _, _ => .ok none

/-- A pattern as far as it was read: the number of its groups, and what follows. -/
structure Reading where
  pattern : Pattern
  groups : Nat
  rest : Bytes

/-- Whether a choice goes on at the start of a text. -/
def isBar (form : Form) (text : Bytes) : Option Bytes :=
  match form, text with
  | .extended, 124 :: rest => some rest
  | .basic, 92 :: 124 :: rest => some rest
  | _, _ => none

/-- Whether a group is closed at the start of a text. -/
def isClosing (form : Form) (text : Bytes) : Option Bytes :=
  match form, text with
  | .extended, 41 :: rest => some rest
  | .basic, 92 :: 41 :: rest => some rest
  | _, _ => none

/-- Whether a group is opened at the start of a text. -/
def isOpening (form : Form) (text : Bytes) : Option Bytes :=
  match form, text with
  | .extended, 40 :: rest => some rest
  | .basic, 92 :: 40 :: rest => some rest
  | _, _ => none

/-- The pattern that a backslash and a byte stand for. -/
def escaped (groups : Nat) (byte : UInt8) : Except String Pattern :=
  match byte with
  | 119 => .ok (.oneOf (setOf wordBytes))
  | 87 => .ok (.oneOf (setOf wordBytes).complement)
  | 115 => .ok (.oneOf (setOf spaceBytes))
  | 83 => .ok (.oneOf (setOf spaceBytes).complement)
  | 60 => .ok .wordStart
  | 62 => .ok .wordEnd
  | 98 => .ok .wordEdge
  | 66 => .ok .noWordEdge
  | 96 => .ok .textStart
  | 39 => .ok .textEnd
  | byte =>
    if 49 ≤ byte && byte ≤ 57 then
      let number := byte.toNat - 48
      if number ≤ groups then .ok (.again number) else .error "Invalid back reference"
    else .ok (.exactly byte)

/-- Every byte. -/
def anyByte : Pattern := .oneOf (Array.replicate 256 true)

/-- Whether the start of a text ends a pattern or a part of it. -/
def endsPart (form : Form) (depth : Nat) (text : Bytes) : Bool :=
  text.isEmpty || (isBar form text).isSome || (depth ≠ 0 && (isClosing form text).isSome)

/-- Apply the repetitions that follow a pattern to it. -/
def repeatAll (form : Form) : Nat → Pattern → Bytes → Except String (Pattern × Bytes)
  | 0, pattern, text => .ok (pattern, text)
  | fuel + 1, pattern, text => do
    match ← repetition? form text with
    | none => return (pattern, text)
    | some ((least, most?), rest) => repeatAll form fuel (.repeated pattern least most?) rest

mutual

/-- Read alternatives. -/
def readChoice (form : Form) : Nat → (depth groups : Nat) → Bytes → Except String Reading
  | 0, _, _, _ => .error "Regular expression too big"
  | fuel + 1, depth, groups, text => do
    let first ← readSequence form fuel depth groups true text
    match isBar form first.rest with
    | none => return first
    | some rest =>
      let second ← readChoice form fuel depth first.groups rest
      return { second with pattern := .choice first.pattern second.pattern }

/-- Read what follows each other. -/
def readSequence (form : Form) : Nat → (depth groups : Nat) → (isFirst : Bool) → Bytes →
    Except String Reading
  | 0, _, _, _, _ => .error "Regular expression too big"
  | fuel + 1, depth, groups, isFirst, text => do
    if endsPart form depth text then return ⟨.nothing, groups, text⟩
    else
      let part ← readPart form fuel depth groups isFirst text
      let isAnchor : Bool := match part.pattern with
        | .lineStart => decide (form = .basic)
        | _ => false
      let (pattern, rest) ← if isAnchor then pure (part.pattern, part.rest)
        else repeatAll form (part.rest.length + 1) part.pattern part.rest
      let more ← readSequence form fuel depth part.groups isAnchor rest
      return { more with pattern := .sequence pattern more.pattern }

/-- Read a part that can be repeated. -/
def readPart (form : Form) : Nat → (depth groups : Nat) → (isFirst : Bool) → Bytes →
    Except String Reading
  | 0, _, _, _, _ => .error "Regular expression too big"
  | fuel + 1, depth, groups, isFirst, text => do
    match isOpening form text with
    | some rest =>
      let number := groups + 1
      let inner ← readChoice form fuel (depth + 1) number rest
      match isClosing form inner.rest with
      | some rest => return { inner with pattern := .group number inner.pattern, rest := rest }
      | none => .error "Unmatched ( or \\("
    | none =>
      match text with
      | [] => return ⟨.nothing, groups, []⟩
      | byte :: rest =>
        if byte = 91 then
          let (pattern, rest) ← readSet rest
          return ⟨pattern, groups, rest⟩
        else if byte = 46 then return ⟨anyByte, groups, rest⟩
        else if byte = 94 && (form = .extended || isFirst) then return ⟨.lineStart, groups, rest⟩
        else if byte = 36 && (form = .extended || endsPart form depth rest) then
          return ⟨.lineEnd, groups, rest⟩
        else if byte = 42 && form = .extended && isFirst then return ⟨.nothing, groups, rest⟩
        else if byte = 92 then
          match isClosing form text, rest with
          | some _, _ => .error "Unmatched ) or \\)"
          | none, [] => .error "Trailing backslash"
          | none, next :: rest => return ⟨← escaped groups next, groups, rest⟩
        else return ⟨.exactly byte, groups, rest⟩

end

/-- Read a whole pattern. -/
def parse (form : Form) (text : Bytes) : Except String Pattern := do
  let reading ← readChoice form (3 * text.length + 3) 0 0 text
  return reading.pattern

/-- The pattern that matches a text only. -/
def ofText (text : Bytes) : Pattern :=
  text.foldr (fun byte pattern => .sequence (.exactly byte) pattern) .nothing

end Relocation.Utility.Regular
