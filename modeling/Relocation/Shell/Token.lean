import Relocation.Shell.Reader

/-!
# Tokens

A script is a sequence of tokens: operators, ends of lines, and words. Where a word ends
depends on what it stands in: outside quotes a blank or an operator ends it. A word is read
with a stack of what is open in it, as expansions with words of their own can be nested in
quotes and in each other.
-/

namespace Relocation.Shell

/-! ### Names of tokens -/

/-- The reserved words. -/
def Keyword.table : List (String × Keyword) :=
  [("!", .bang), ("case", .case), ("do", .do), ("done", .done), ("elif", .elif), ("else", .else),
    ("esac", .esac), ("fi", .fi), ("for", .for), ("if", .if), ("in", .in), ("then", .then),
    ("until", .until), ("while", .while), ("\x7b", .opening), ("\x7d", .closing)]

/-- The text of a reserved word. -/
def Keyword.text (keyword : Keyword) : String :=
  ((table.find? (·.2 = keyword)).map (·.1)).getD ""

/-- The reserved word that a text is. -/
def Keyword.ofText? (text : Bytes) : Option Keyword :=
  (table.find? fun entry => Bytes.ofString entry.1 = text).map (·.2)

namespace Token

/-- A token as it is called in messages. -/
def title : Token → String
  | .endOfFile => "end of file"
  | .newline => "newline"
  | .semicolon => "\";\""
  | .ampersand => "\"&\""
  | .and => "\"&&\""
  | .or => "\"||\""
  | .bar => "\"|\""
  | .openParen => "\"(\""
  | .closeParen => "\")\""
  | .endOfArm => "\";;\""
  | .redirection => "redirection"
  | .word => "word"
  | .keyword reserved => "\"" ++ reserved.text ++ "\""

/-- Whether a token ends the commands before it. -/
def endsCommands : Token → Bool
  | .endOfFile => true
  | .closeParen => true
  | .endOfArm => true
  | .keyword reserved =>
    [Keyword.do, .done, .elif, .else, .esac, .fi, .then, .closing].contains reserved
  | _ => false

end Token

/-! ### Words being read -/

/-- The kind of quotes that text is read in. -/
inductive Quoting where
  | bare
  | single
  | double
  /-- An arithmetic expression. -/
  | arithmetic
  deriving DecidableEq, Repr

/-- A level of quoting, inside of which expansions can be open. -/
structure Level where
  quoting : Quoting
  /-- How many parentheses are open in an arithmetic expression. -/
  parens : Nat := 0
  /-- How many expansions in braces are open. -/
  opened : Nat := 0
  /-- How many of them were opened in quotes. -/
  openedQuoted : Nat := 0
  /-- Whether a quotation mark is open inside of an expansion. -/
  isInner : Bool := false
  /-- Whether the level was entered with an expansion, so that it is left with it. -/
  isEntered : Bool := false
  isDouble : Bool := false

/-- What was opened inside of a word. -/
inductive Opening where
  | form (name : Bytes) (make : Word → Form)
  | arithmetic

/-- A word as far as it was read. Its segments, and the text at its end, are kept in reverse. -/
structure Draft where
  segments : List Segment := []
  text : Bytes := []
  isEscaped : Bool := false
  /-- What is open, with the segments before it. -/
  outer : List (Opening × List Segment) := []

namespace Draft

/-- The segments with the text at the end among them, in reverse. -/
def closed (draft : Draft) : List Segment :=
  if draft.text.isEmpty then draft.segments
  else (if draft.isEscaped then .escaped draft.text.reverse else .plain draft.text.reverse) ::
    draft.segments

/-- The draft with a byte added. -/
def add (draft : Draft) (isEscaped : Bool) (byte : UInt8) : Draft :=
  if draft.isEscaped = isEscaped then { draft with text := byte :: draft.text }
  else { draft with segments := draft.closed, text := [byte], isEscaped := isEscaped }

/-- The draft with a byte that may hold a meaning in patterns. -/
def plain (draft : Draft) (byte : UInt8) : Draft := draft.add false byte

/-- The draft with a byte that stands for itself. -/
def escaped (draft : Draft) (byte : UInt8) : Draft := draft.add true byte

/-- The draft with a segment added. -/
def segment (draft : Draft) (segment : Segment) : Draft :=
  { draft with segments := segment :: draft.closed, text := [] }

/-- The draft inside of something that opens. -/
def nest (draft : Draft) (opening : Opening) : Draft :=
  { draft with segments := [], text := [], outer := (opening, draft.closed) :: draft.outer }

/-- The draft behind what was opened last. -/
def close (draft : Draft) : Draft :=
  match draft.outer with
  | [] => draft
  | (opening, segments) :: outer =>
    let inner := draft.closed.reverse
    let whole : Segment := match opening with
      | .form name make => .parameter name (make inner)
      | .arithmetic => .arithmetic inner
    { draft with segments := whole :: segments, text := [], outer := outer }

/-- Whether nothing was read. -/
def isEmpty (draft : Draft) : Bool := draft.segments.isEmpty && draft.text.isEmpty

end Draft

/-- Where the reading of a word stands. -/
structure Scan where
  draft : Draft := {}
  level : Level
  outer : List Level := []
  /-- Whether a part of the word is quoted. -/
  isQuoted : Bool := false

namespace Scan

/-- Go on in a new level. -/
def enter (scan : Scan) (level : Level) : Scan :=
  { scan with level := level, outer := scan.level :: scan.outer }

/-- Go on in the level before. -/
def leave (scan : Scan) : Scan :=
  match scan.outer with
  | level :: outer => { scan with level := level, outer := outer }
  | [] => scan

end Scan

namespace Parser

/-! ### What single bytes mean -/

/-- Whether a byte ends a bare word. -/
def endsWord (byte : UInt8) : Bool :=
  -- blanks, `&`, `(`, `)`, `;`, `<`, `>` and `|`
  [9, 32, 38, 40, 41, 59, 60, 62, 124].contains byte

/-- Whether a byte has a meaning in patterns or in paths, so that it is escaped in quotes. -/
def isControl (quoting : Quoting) (byte : UInt8) : Bool :=
  -- `!`, `*`, `?`, `[`, `]`, `=`, `~`, `:`, `/` and `-`
  [33, 42, 63, 91, 93, 61, 126, 58, 47, 45].contains byte || (quoting = .single && byte = 92)

/-- Take the next byte of a word. -/
def getIn (scan : Scan) : Parser (Option UInt8) :=
  if scan.level.quoting = .single then get? else getJoined

/-! ### Backslashes and quotes -/

/-- Read what follows a backslash. -/
def readEscape (scan : Scan) (inDocument : Bool) : Parser Scan := do
  match ← get? with
  | none => return { scan with draft := scan.draft.escaped 92 }
  | some byte =>
    let level := scan.level
    -- a backslash in quotes hides `\`, a backquote, `$`, and what would end the quotes
    let hides := [92, 96, 36].contains byte ||
      (byte = 34 && !(inDocument && level.opened = 0)) ||
      (byte = 125 && level.opened ≠ 0)
    let draft := if level.isDouble && !hides then scan.draft.escaped 92 else scan.draft
    return { scan with draft := draft.escaped byte, isQuoted := true }

/-- Take note of a quotation mark, which means nothing in a here-document. -/
def withMark (scan : Scan) (inDocument : Bool) : Scan :=
  if inDocument then scan else { scan with draft := scan.draft.segment .mark }

/-- Take note of a quotation mark inside of an expansion. -/
def toggleInner (scan : Scan) : Scan :=
  let level := scan.level
  if level.opened = 0 then scan
  else { scan with level := { level with isInner := !level.isInner } }

/-- Begin a quotation. -/
def beginQuote (scan : Scan) (inDocument : Bool) (byte : UInt8) : Scan :=
  let level := scan.level
  if byte = 39 then withMark { scan with level := { level with quoting := .single } } inDocument
  else
    withMark
      (toggleInner { scan with level := { level with quoting := .double, isDouble := true } })
      inDocument

/-- End a quotation. -/
def endQuote (scan : Scan) (inDocument : Bool) (byte : UInt8) : Scan :=
  let level := scan.level
  if inDocument && level.opened = 0 then { scan with draft := scan.draft.plain byte }
  else
    let level := if level.openedQuoted = 0 then { level with quoting := .bare, isDouble := false }
      else level
    let scan := { scan with level := level, isQuoted := true }
    withMark (if byte = 34 then toggleInner scan else scan) inDocument

/-- End an expansion in braces. -/
def endBrace (scan : Scan) : Scan :=
  let level := scan.level
  if level.isInner || level.opened = 0 then { scan with draft := scan.draft.plain 125 }
  else
    let scan := { scan with draft := scan.draft.close }
    let level := { level with opened := level.opened - 1 }
    if level.opened = 0 && level.isEntered then { scan with level := level }.leave
    else { scan with level := { level with openedQuoted := level.openedQuoted - 1 } }

/-! ### Substitutions -/

/-- Read a command in parentheses behind a dollar sign. -/
def readSubstitution (script : Parser Command) (scan : Scan) : Parser Scan := do
  let awaited := (← get).awaited
  modify ({ · with awaited := [] })
  let body ← script
  let reader ← get
  if reader.token ≠ .closeParen then
    fail (reader.token.title ++ " unexpected (expecting \")\")")
  set { reader with isPushedBack := false, awaited := awaited }
  return { scan with draft := scan.draft.segment (.command body) }

/-- The text of a backquoted command up to the closing backquote. The text read so far is kept in
reverse. -/
def readBackquoted (isDouble : Bool) : Nat → Bytes → Parser Bytes
  | 0, text => return text.reverse
  | fuel + 1, text => do
    match ← getJoined with
    | none => fail "EOF in backquote substitution"
    | some 96 => return text.reverse
    | some 92 =>
      match ← get? with
      | none => fail "EOF in backquote substitution"
      | some byte =>
        let hides := [92, 96, 36].contains byte || (isDouble && byte = 34)
        readBackquoted isDouble fuel (byte :: (if hides then text else 92 :: text))
    | some byte => readBackquoted isDouble fuel (byte :: text)

/-- Read a command in backquotes. It is parsed as a script of its own, of which the first list of
commands counts. -/
def readBackquotes (script : Parser Command) (scan : Scan) : Parser Scan := do
  let text ← readBackquoted scan.level.isDouble unbounded []
  let outer ← get
  set { outer with
    input := text, isComplete := true, interrupted := [], awaited := [], isPushedBack := false
    line := 1 }
  let body ← script
  modify fun reader => { reader with
    input := outer.input
    isComplete := outer.isComplete
    interrupted := outer.interrupted
    awaited := outer.awaited
    line := outer.line
    isPushedBack := false }
  return { scan with draft := scan.draft.segment (.command body) }

/-- Take bytes of a name. The bytes taken so far are kept in reverse. It gives the byte behind them
too. -/
def readWhile (condition : UInt8 → Bool) : Nat → Bytes → Option UInt8 →
    Parser (Bytes × Option UInt8)
  | 0, name, byte? => return (name.reverse, byte?)
  | fuel + 1, name, byte? => do
    match byte? with
    | some byte =>
      if condition byte then readWhile condition fuel (byte :: name) (← getJoined)
      else return (name.reverse, byte?)
    | none => return (name.reverse, none)

/-- What stands between the braces of an expansion before its word. -/
inductive Head where
  | value
  | bad
  /-- The closing brace is still to come. -/
  | length
  | orElse (fallback : Fallback) (testsEmpty : Bool)
  | trim (atEnd longest : Bool)

/-- Read the operator behind the name in an expansion, given its first byte. -/
def readOperation (byte? : Option UInt8) : Parser Head := do
  let (testsEmpty, byte?) ←
    if byte? = some 58 then do pure (true, ← getJoined) else pure (false, byte?)
  match byte?, testsEmpty with
  | some 45, _ => return .orElse .default testsEmpty
  | some 43, _ => return .orElse .alternative testsEmpty
  | some 63, _ => return .orElse .require testsEmpty
  | some 61, _ => return .orElse .assign testsEmpty
  | some 125, false => return .value
  | some byte, false =>
    if byte = 37 || byte = 35 then
      let next ← getJoined
      if next = some byte then return .trim (byte = 37) true
      else
        unget next
        return .trim (byte = 37) false
    else return .bad
  | none, _ =>
    unget none
    return .bad
  | _, _ => return .bad

/-- Read the name of a parameter in braces and the operator behind it, given the first byte. -/
def readHead (byte? : Option UInt8) : Parser (Bytes × Head) := do
  let named (isLength : Bool) (name : Bytes) (next : Option UInt8) : Parser (Bytes × Head) := do
    if !isLength then return (name, ← readOperation next)
    else
      unget next
      return (name, if next = some 125 then .length else .bad)
  let plainName (isLength : Bool) (byte : UInt8) : Parser (Bytes × Head) := do
    let (name, next) ← readWhile (if isDigit byte then isDigit else isInName) unbounded []
      (some byte)
    named isLength name next
  match byte? with
  | none => return ([], .bad)
  | some byte =>
    if isInName byte then plainName false byte
    else if byte = 125 then
      unget byte?
      return ([], .bad)
    else
      let next ← getJoined
      if byte = 35 then
        match next with
        | some first =>
          if isInName first then plainName true first
          else
            let behind ← getJoined
            if first = 125 || behind ≠ some 125 then
              unget behind
              named false [35] next
            else if isSpecial first then named true [first] behind
            else
              unget behind
              return ([], .bad)
        | none => named false [35] none
      else if isSpecial byte then named false [byte] next
      else
        unget next
        return ([], .bad)

/-- Begin the word of an expansion in braces. -/
def beginWord (scan : Scan) (newQuoting : Quoting) (opening : Opening) : Scan :=
  let newQuoting := if newQuoting = .arithmetic then .double else newQuoting
  let scan := { scan with draft := scan.draft.nest opening }
  let scan := if newQuoting ≠ scan.level.quoting || scan.level.isInner then
      scan.enter { quoting := newQuoting, isEntered := true, isDouble := newQuoting ≠ .bare }
    else scan
  let level := scan.level
  { scan with level := { level with
      opened := level.opened + 1
      openedQuoted := if level.isDouble then level.openedQuoted + 1 else level.openedQuoted } }

/-- Read an expansion in braces behind the opening brace, up to its word if it has one. -/
def readBraces (scan : Scan) : Parser Scan := do
  let (name, head) ← readHead (← getJoined)
  let same := scan.level.quoting
  let word (quoting : Quoting) (make : Word → Form) : Scan :=
    beginWord scan quoting (.form name make)
  return match head with
    | .value => { scan with draft := scan.draft.segment (.parameter name .value) }
    | .bad => word same .bad
    | .length => word same fun _ => .length
    | .orElse fallback testsEmpty => word same (.orElse fallback testsEmpty)
    | .trim atEnd longest => word .bare (.trim atEnd longest)

/-- Read what follows a dollar sign. -/
def readDollar (script : Parser Command) (scan : Scan) : Parser Scan := do
  let byte? ← getJoined
  let isDelimiter := (← get).check.isDelimiter
  let parameter (name : Bytes) : Scan :=
    { scan with draft := scan.draft.segment (.parameter name .value) }
  let literal : Parser Scan := do
    unget byte?
    return { scan with draft := scan.draft.plain 36 }
  match byte?, isDelimiter with
  | some byte, false =>
    if byte = 40 then
      let next ← getJoined
      if next = some 40 then
        let scan := { scan with draft := scan.draft.nest .arithmetic }
        return scan.enter { quoting := .arithmetic, isDouble := true }
      else
        unget next
        readSubstitution script scan
    else if byte = 123 then readBraces scan
    else if beginsName byte then
      let (name, next) ← readWhile isInName unbounded [] byte?
      unget next
      return parameter name
    else if isDigit byte || isSpecial byte then return parameter [byte]
    else literal
  | _, _ => literal

/-! ### The end of a here-document -/

/-- The line that ends a here-document, and whether tabs at the starts of lines are dropped. -/
structure Ending where
  delimiter : Bytes
  stripsTabs : Bool

/-- Drop tabs, at most so many. -/
def dropTabs (scan : Scan) : Nat → Option UInt8 → Parser (Option UInt8)
  | fuel + 1, some 9 => do dropTabs scan fuel (← getIn scan)
  | _, byte? => return byte?

/-- Read a delimiter byte by byte. If the line is another one, what was read is put back but for its
first byte; at the delimiter there is no byte, and the end of the script counts as the end of a
line. The bytes read so far are kept in reverse. -/
def matchDelimiter (scan : Scan) : Bytes → List UInt8 → Option UInt8 → Parser (Option UInt8)
  | [], read, byte? => do
    match byte? with
    | some 10 => return none
    | some _ => restore read byte?
    | none => do
      modify fun reader => { reader with line := reader.line + 1 }
      return none
  | expected :: delimiter, read, byte? =>
    match byte? with
    | some byte => do
      if byte = expected then matchDelimiter scan delimiter (byte :: read) (← getIn scan)
      else restore read byte?
    | none => restore read byte?
where
  /-- Put back what was read too much. -/
  restore (read : List UInt8) (byte? : Option UInt8) : Parser (Option UInt8) := do
    match read.reverse with
    | [] => return byte?
    | first :: _ =>
      unget byte?
      for byte in read.dropLast do
        unget (some byte)
      return some first

/-- Look for the end of a here-document at the start of a line. -/
def atLineStart (scan : Scan) (ending? : Option Ending) (byte? : Option UInt8) :
    Parser (Option UInt8) := do
  match ending? with
  | none => return byte?
  | some ending =>
    let byte? ← if ending.stripsTabs then dropTabs scan unbounded byte? else pure byte?
    matchDelimiter scan ending.delimiter [] byte?

/-! ### Words -/

/-- Read on at a byte that is neither an end of a line nor the end of the script. There is nothing
if the byte ends the word. -/
def readByte (script : Parser Command) (ending? : Option Ending) (scan : Scan) (byte : UInt8) :
    Parser (Option Scan) := do
  let inDocument := ending?.isSome
  let level := scan.level
  let plain : Parser (Option Scan) := return some { scan with draft := scan.draft.plain byte }
  match level.quoting with
  | .single =>
    if byte = 39 then return some (endQuote scan inDocument byte)
    else if isControl .single byte && (!inDocument || level.isDouble || level.opened ≠ 0) then
      return some { scan with draft := scan.draft.escaped byte }
    else plain
  | quoting =>
    if byte = 92 then return some (← readEscape scan inDocument)
    else if byte = 36 then return some (← readDollar script scan)
    else if byte = 125 then return some (endBrace scan)
    else if byte = 96 then
      if (← get).check.isDelimiter then plain else return some (← readBackquotes script scan)
    else match quoting with
      | .double =>
        if byte = 34 then return some (endQuote scan inDocument byte)
        else if isControl .double byte && (!inDocument || level.isDouble || level.opened ≠ 0) then
          return some { scan with draft := scan.draft.escaped byte }
        else plain
      | .arithmetic =>
        if byte = 40 then
          return some { scan with
            draft := scan.draft.plain byte, level := { level with parens := level.parens + 1 } }
        else if byte = 41 then
          if level.parens ≠ 0 then
            return some { scan with
              draft := scan.draft.plain byte, level := { level with parens := level.parens - 1 } }
          else
            let next ← getJoined
            if next = some 41 then return some { scan with draft := scan.draft.close }.leave
            else
              unget next
              plain
        else plain
      | _ =>
        if byte = 39 || byte = 34 then return some (beginQuote scan inDocument byte)
        else if endsWord byte && level.opened = 0 then return none
        else plain

/-- Read a word or a here-document from a byte on. It gives the byte behind it too. -/
def readText (script : Parser Command) (ending? : Option Ending) : Nat → Scan → Option UInt8 →
    Parser (Scan × Option UInt8)
  | 0, scan, byte? => return (scan, byte?)
  | fuel + 1, scan, byte? =>
    match byte? with
    | none => return (scan, none)
    | some byte =>
      if byte = 10 then
        if scan.level.quoting = .bare && scan.level.opened = 0 then return (scan, byte?)
        else do
          let scan := { scan with draft := scan.draft.plain byte }
          readText script ending? fuel scan (← atLineStart scan ending? (← getIn scan))
      else do
        match ← readByte script ending? scan byte with
        | none => return (scan, byte?)
        | some scan => readText script ending? fuel scan (← getIn scan)

/-- Check that nothing is open at the end of a word. -/
def checkClosed (scan : Scan) (inDocument : Bool) : Parser Unit := do
  let level := scan.level
  if level.quoting = .arithmetic then fail "Missing '))'"
  if level.quoting ≠ .bare && !inDocument then fail "Unterminated quoted string"
  if level.opened ≠ 0 then fail "Missing '\x7d'"

/-! ### Here-documents -/

/-- Read the here-documents that start here. -/
def readDocuments (script : Parser Command) : Parser Unit := do
  let awaited := (← get).awaited
  modify ({ · with awaited := [] })
  for document in awaited do
    let level : Level := if document.isQuoted then { quoting := .single }
      else { quoting := .double, isDouble := true }
    let scan : Scan := { level }
    let ending : Ending := { delimiter := document.delimiter, stripsTabs := document.stripsTabs }
    let first ← atLineStart scan ending (← getIn scan)
    let (scan, _) ← readText script (some ending) unbounded scan first
    checkClosed scan true
    modify fun reader =>
      { reader with documents := (document.number, scan.draft.closed.reverse) :: reader.documents }

/-! ### Tokens -/

/-- Take note of a token. -/
def found (token : Token) : Parser Token := do
  modify ({ · with token := token })
  return token

/-- Read a redirection operator behind its descriptor, given its first byte. -/
def readArrow (descriptor? : Option Nat) (byte : UInt8) : Parser Arrow := do
  let next ← getJoined
  if byte = 62 then
    let descriptor := descriptor?.getD 1
    match next with
    | some 62 => return .file descriptor .append
    | some 124 => return .file descriptor .overwrite
    | some 38 => return .copy descriptor
    | _ =>
      unget next
      return .file descriptor .write
  else
    let descriptor := descriptor?.getD 0
    match next with
    | some 60 =>
      let next ← getJoined
      if next = some 45 then return .here descriptor true
      else
        unget next
        return .here descriptor false
    | some 38 => return .copy descriptor
    | some 62 => return .file descriptor .readWrite
    | _ =>
      unget next
      return .file descriptor .read

/-- The descriptor in front of a redirection, if all that was read is one digit or nothing. -/
def descriptorOf? (scan : Scan) : Option (Option Nat) :=
  if scan.isQuoted then none
  else match scan.draft.closed with
    | [] => some none
    | [.plain [byte]] => if isDigit byte then some (some (byte.toNat - 48)) else none
    | _ => none

/-- Read a word, or a redirection, from its first byte on. -/
def readWord (script : Parser Command) (first : Option UInt8) : Parser Token := do
  let (scan, byte?) ← readText script none unbounded { level := { quoting := .bare } } first
  checkClosed scan false
  let isArrow := byte? = some 60 || byte? = some 62
  match if isArrow then descriptorOf? scan else none with
  | some descriptor? =>
    let arrow ← readArrow descriptor? (byte?.getD 0)
    modify ({ · with arrow := arrow })
    found .redirection
  | none =>
    unget byte?
    modify fun reader =>
      { reader with word := scan.draft.closed.reverse, isQuoted := scan.isQuoted }
    found .word

/-- Drop a comment up to the end of its line. -/
def skipComment : Nat → Parser Unit
  | 0 => return
  | fuel + 1 => do
    match ← get? with
    | none => return
    | some 10 => unget (some 10)
    | some _ => skipComment fuel

/-- The token that a byte begins, or two of them. -/
def operatorToken (byte : UInt8) (two one : Token) : Parser Token := do
  let next ← getJoined
  if next = some byte then found two
  else
    unget next
    found one

/-- Read a token, behind blanks and comments. -/
def readRaw (script : Parser Command) : Nat → Parser Token
  | 0 => found .endOfFile
  | fuel + 1 => do
    let byte? ← getJoined
    match byte? with
    | none => found .endOfFile
    | some 32 => readRaw script fuel
    | some 9 => readRaw script fuel
    | some 35 =>
      skipComment unbounded
      readRaw script fuel
    | some 10 => found .newline
    | some 38 => operatorToken 38 .and .ampersand
    | some 124 => operatorToken 124 .or .bar
    | some 59 => operatorToken 59 .endOfArm .semicolon
    | some 40 => found .openParen
    | some 41 => found .closeParen
    | some _ => readWord script byte?

/-- Give the token that was put back, or read the next one. -/
def nextRaw (script : Parser Command) : Parser Token := do
  let reader ← get
  if reader.isPushedBack then
    set { reader with isPushedBack := false }
    return reader.token
  else readRaw script unbounded

/-- Read a token that is no end of a line. -/
def skipNewlines (script : Parser Command) : Nat → Token → Parser Token
  | fuel + 1, .newline => do
    readDocuments script
    modify ({ · with check := {} })
    skipNewlines script fuel (← nextRaw script)
  | _, token => return token

/-- The text of a word of which nothing is quoted or expanded. -/
def bareText? : Word → Option Bytes
  | [] => some []
  | [.plain text] => some text
  | _ => none

/-- Read a token as the grammar sees it, with reserved words recognised and aliases replaced as far
as is asked for. -/
def readChecked (script : Parser Command) : Nat → Check → Parser Token
  | 0, _ => found .endOfFile
  | fuel + 1, check => do
    let token ← nextRaw script
    let token ← if check.skipsLines then skipNewlines script unbounded token else pure token
    let reader ← get
    let check := { check with
      keywords := check.keywords || reader.check.keywords
      aliases := check.aliases || reader.check.aliases }
    set { reader with check := {} }
    if token ≠ .word || reader.isQuoted then return token
    match bareText? reader.word with
    | none => return token
    | some text =>
      match if check.keywords then Keyword.ofText? text else none with
      | some keyword => found (.keyword keyword)
      | none =>
        let isFree := check.aliases && !reader.inUse.contains text
        match if isFree then reader.aliases.lookup text else none with
        | some replacement =>
          if !replacement.isEmpty then pushText text replacement
          readChecked script fuel check
        | none => return token

/-- Read a token with the checks that were asked for. -/
def readToken (script : Parser Command) : Parser Token := do
  readChecked script unbounded (← get).check

/-- Ask for checks of the next token. -/
def expectNext (check : Check) : Parser Unit := modify ({ · with check := check })

/-- Read the last token again. -/
def pushBack : Parser Unit := modify ({ · with isPushedBack := true })

/-- Fail at the last token. -/
def unexpected {α : Type} (expected? : Option Token := none) : Parser α := do
  let title := (← get).token.title
  match expected? with
  | none => fail (title ++ " unexpected")
  | some expected => fail (title ++ " unexpected (expecting " ++ expected.title ++ ")")

/-- Read a token that has to be a certain one. -/
def expect (script : Parser Command) (token : Token) : Parser Unit := do
  if (← readToken script) ≠ token then unexpected (some token)

end Parser

end Relocation.Shell
