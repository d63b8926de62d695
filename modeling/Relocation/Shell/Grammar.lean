import Relocation.Shell.Token

/-!
# The grammar of commands

Commands are joined by operators to lists, and lists stand inside of compound commands. A
script is parsed up to the end of a line at which a list can end, so that the commands
before an error further down are run, and can define aliases for what follows.
-/

namespace Relocation.Shell

/-- The builtins whose errors end the shell. -/
def specialBuiltins : List String :=
  [".", ":", "break", "continue", "eval", "exec", "exit", "export", "local", "readonly", "return",
    "set", "shift", "times", "trap", "unset"]

/-- Whether a text is the name of a special builtin. -/
def isSpecialBuiltin (name : Bytes) : Bool :=
  specialBuiltins.any fun other => Bytes.ofString other = name

/-- All positional parameters as separate words. -/
def allParameters : Word := [.mark, .parameter [64] .value, .mark]

/-- A command that is not waited for. -/
def Command.inBackground (line : Nat) : Command → Command
  | .pipeline _ stages => .pipeline true stages
  | .redirected line body redirections => .background line body redirections
  | command => .background line command []

/-- A command with redirections behind it. -/
def Command.withRedirections (line : Nat) (redirections : List Redirection) : Command → Command
  | .subshell line body _ => .subshell line body redirections
  | command =>
    if redirections.isEmpty then command else .redirected line command redirections

/-- The text of a word in which quotes and escapes are removed. -/
def plainTextOf (word : Word) : Bytes :=
  word.flatMap fun
    | .plain text => text
    | .escaped text => text
    | _ => []

namespace Parser

/-- Whether the next word can be a reserved word or an alias. -/
def atCommand : Check := { keywords := true, aliases := true }

/-- The same behind ends of lines. -/
def atCommandLine : Check := { atCommand with skipsLines := true }

/-- Read the word behind a redirection operator. -/
def readRedirection (script : Parser Command) : Parser Redirection := do
  let arrow := (← get).arrow
  match arrow with
  | .here _ _ => expectNext { isDelimiter := true }
  | _ => pure ()
  if (← readToken script) ≠ .word then unexpected
  let reader ← get
  match arrow with
  | .file descriptor mode => return .file descriptor mode reader.word
  | .copy descriptor => return .copy descriptor reader.word
  | .here descriptor stripsTabs =>
    let number := reader.nextDocument
    let document : AwaitedDocument := {
      number, stripsTabs, isQuoted := reader.isQuoted, delimiter := plainTextOf reader.word }
    set { reader with awaited := reader.awaited ++ [document], nextDocument := number + 1 }
    return .here descriptor number

/-- Read the redirections behind a compound command. Those read so far are kept in reverse. -/
def readRedirections (script : Parser Command) : Nat → List Redirection →
    Parser (List Redirection)
  | 0, done => return done.reverse
  | fuel + 1, done => do
    if (← readToken script) = .redirection then
      readRedirections script fuel ((← readRedirection script) :: done)
    else
      pushBack
      return done.reverse

/-- Read the words of a loop. Those read so far are kept in reverse. -/
def readItems (script : Parser Command) : Nat → List Word → Parser (List Word)
  | 0, items => return items.reverse
  | fuel + 1, items => do
    if (← readToken script) = .word then readItems script fuel ((← get).word :: items)
    else
      let token := (← get).token
      if token ≠ .newline && token ≠ .semicolon then unexpected
      return items.reverse

/-- Read the patterns of an arm up to the parenthesis behind them. The first one was read already,
and those read so far are kept in reverse. -/
def readPatterns (script : Parser Command) : Nat → List Word → Parser (List Word)
  | 0, patterns => return patterns.reverse
  | fuel + 1, patterns => do
    let patterns := (← get).word :: patterns
    if (← readToken script) = .bar then
      let _ ← readToken script
      readPatterns script fuel patterns
    else
      if (← get).token ≠ .closeParen then unexpected (some .closeParen)
      return patterns.reverse

/-- The parts of a simple command that were read, in reverse. -/
structure Parts where
  assignments : List Word := []
  words : List Word := []
  redirections : List Redirection := []

/-- Read a simple command, or the definition of a function, whose body is read by `body`. -/
def readSimple (script body : Parser Command) (line : Nat) : Nat → Parts → Parser Command
  | 0, parts => return finish parts
  | fuel + 1, parts => do
    let allowsAssignment := parts.words.isEmpty
    expectNext { aliases := allowsAssignment }
    match ← readToken script with
    | .word =>
      let word := (← get).word
      if allowsAssignment && (assignedName? word).isSome then
        readSimple script body line fuel { parts with assignments := word :: parts.assignments }
      else readSimple script body line fuel { parts with words := word :: parts.words }
    | .redirection =>
      let redirection ← readRedirection script
      readSimple script body line fuel
        { parts with redirections := redirection :: parts.redirections }
    | .openParen =>
      match parts with
      | { assignments := [], words := [name], redirections := [] } =>
        expect script .closeParen
        let name := match bareText? name with
          | some text => if isName text && !isSpecialBuiltin text then some text else none
          | none => none
        match name with
        | none => fail "Bad function name"
        | some name =>
          expectNext atCommandLine
          let line := (← get).line
          return .define line name (← body)
      | _ =>
        pushBack
        return finish parts
    | _ =>
      pushBack
      return finish parts
where
  /-- The command that has been read. -/
  finish (parts : Parts) : Command :=
    .simple line parts.assignments.reverse parts.words.reverse parts.redirections.reverse

mutual

/-- Read commands up to a token that ends them. There has to be one unless `allowsNone` holds. -/
def readList : Nat → (allowsNone : Bool) → Parser Command
  | 0, _ => return .nothing
  | fuel + 1, allowsNone => readMore fuel allowsNone .nothing

/-- Read the commands that follow a command in a list, if any do. -/
def readMore : Nat → (mayEnd : Bool) → Command → Parser Command
  | 0, _, done => return done
  | fuel + 1, mayEnd, done => do
    let script := readList fuel true
    expectNext atCommandLine
    let token ← readToken script
    pushBack
    if token = .endOfFile then
      readDocuments script
      return done
    if mayEnd && token.endsCommands then return done
    let command ← readItem fuel
    let done := match done with
      | .nothing => command
      | done => .sequence done command
    match (← get).token with
    | .ampersand => readMore fuel true done
    | .semicolon => readMore fuel true done
    | .newline =>
      pushBack
      readMore fuel true done
    | .endOfFile =>
      pushBack
      readMore fuel true done
    | _ =>
      pushBack
      return done

/-- Read a command up to the operator behind it, which may put it into the background. -/
def readItem : Nat → Parser Command
  | 0 => return .nothing
  | fuel + 1 => do
    let script := readList fuel true
    let first ← readPipeline fuel
    let command ← readConditions fuel first
    let line := (← get).line
    if (← readToken script) = .ampersand then return command.inBackground line
    else return command

/-- Read the commands that depend on the success or the failure of those before. -/
def readConditions : Nat → Command → Parser Command
  | 0, command => return command
  | fuel + 1, command => do
    let script := readList fuel true
    match ← readToken script with
    | .and =>
      expectNext atCommandLine
      let second ← readPipeline fuel
      readConditions fuel (.and command second)
    | .or =>
      expectNext atCommandLine
      let second ← readPipeline fuel
      readConditions fuel (.or command second)
    | _ =>
      pushBack
      return command

/-- Read commands joined by bars, whose success can be negated. -/
def readPipeline : Nat → Parser Command
  | 0 => return .nothing
  | fuel + 1 => do
    let script := readList fuel true
    let isNegated := (← readToken script) = .keyword .bang
    if isNegated then expectNext atCommand else pushBack
    let first ← readCommand fuel
    let stages ← readStages fuel [first]
    pushBack
    let pipeline := match stages with
      | [_] => first
      | stages => .pipeline false stages
    return if isNegated then .not pipeline else pipeline

/-- Read the commands behind bars. Those read so far are kept in reverse. -/
def readStages : Nat → List Command → Parser (List Command)
  | 0, stages => return stages.reverse
  | fuel + 1, stages => do
    if (← readToken (readList fuel true)) = .bar then
      expectNext atCommandLine
      let stage ← readCommand fuel
      readStages fuel (stage :: stages)
    else return stages.reverse

/-- Read a command with the redirections behind it. -/
def readCommand : Nat → Parser Command
  | 0 => return .nothing
  | fuel + 1 => do
    let script := readList fuel true
    let line := (← get).line
    match ← readToken script with
    | .word =>
      pushBack
      readSimple script (readCommand fuel) (← get).line unbounded {}
    | .redirection =>
      pushBack
      readSimple script (readCommand fuel) (← get).line unbounded {}
    | .openParen =>
      let body ← readList fuel false
      expect script .closeParen
      redirected script line (.subshell line body [])
    | .keyword .opening =>
      let body ← readList fuel false
      expect script (.keyword .closing)
      redirected script line body
    | .keyword .if =>
      let command ← readConditional fuel
      expect script (.keyword .fi)
      redirected script line command
    | .keyword .while =>
      let command ← readLoop fuel false
      redirected script line command
    | .keyword .until =>
      let command ← readLoop fuel true
      redirected script line command
    | .keyword .for =>
      let command ← readForEach fuel line
      redirected script line command
    | .keyword .case =>
      let command ← readChoice fuel line
      redirected script line command
    | _ => unexpected

/-- Read a conditional from its condition up to the word that ends it. -/
def readConditional : Nat → Parser Command
  | 0 => return .nothing
  | fuel + 1 => do
    let script := readList fuel true
    let condition ← readList fuel false
    expect script (.keyword .then)
    let body ← readList fuel false
    match ← readToken script with
    | .keyword .elif =>
      let otherwise ← readConditional fuel
      return .conditional condition body otherwise
    | .keyword .else =>
      let otherwise ← readList fuel false
      return .conditional condition body otherwise
    | _ =>
      pushBack
      return .conditional condition body .nothing

/-- Read a loop behind its first word. -/
def readLoop : Nat → (untilSuccess : Bool) → Parser Command
  | 0, _ => return .nothing
  | fuel + 1, untilSuccess => do
    let script := readList fuel true
    let condition ← readList fuel false
    expect script (.keyword .do)
    let body ← readList fuel false
    expect script (.keyword .done)
    return .loop untilSuccess condition body

/-- Read a loop over words behind its first word. -/
def readForEach : Nat → (line : Nat) → Parser Command
  | 0, _ => return .nothing
  | fuel + 1, line => do
    let script := readList fuel true
    let token ← readToken script
    let reader ← get
    let name? := if token = .word && !reader.isQuoted then
        (bareText? reader.word).filter isName else none
    match name? with
    | none => fail "Bad for loop variable"
    | some name =>
      expectNext atCommandLine
      let token ← readToken script
      let items ← if token = .keyword .in then readItems script unbounded [] else do
        if token ≠ .semicolon then pushBack
        pure [allParameters]
      expectNext atCommandLine
      expect script (.keyword .do)
      let body ← readList fuel false
      expect script (.keyword .done)
      return .forEach line name items body

/-- Read a choice behind its first word. -/
def readChoice : Nat → (line : Nat) → Parser Command
  | 0, _ => return .nothing
  | fuel + 1, line => do
    let script := readList fuel true
    expect script .word
    let subject := (← get).word
    expectNext atCommandLine
    expect script (.keyword .in)
    return .choice line subject (← readArms fuel [])

/-- Read the arms of a choice up to the word that ends it. Those read so far are kept in reverse. -/
def readArms : Nat → List (List Word × Command) → Parser (List (List Word × Command))
  | 0, arms => return arms.reverse
  | fuel + 1, arms => do
    let script := readList fuel true
    expectNext { skipsLines := true, keywords := true }
    match ← readToken script with
    | .keyword .esac => return arms.reverse
    | token =>
      if token = .openParen then let _ ← readToken script
      let patterns ← readPatterns script unbounded []
      let body ← readList fuel true
      let arms := (patterns, body) :: arms
      expectNext { skipsLines := true, keywords := true }
      match ← readToken script with
      | .keyword .esac => return arms.reverse
      | .endOfArm => readArms fuel arms
      | _ => unexpected (some .endOfArm)

/-- Read the redirections behind a compound command. -/
def redirected (script : Parser Command) (line : Nat) (command : Command) : Parser Command := do
  expectNext atCommand
  return command.withRedirections line (← readRedirections script unbounded [])

end

/-- Read the commands of a line, which goes on behind its end if a command does. There are none at
the end of the script. -/
def readLine : Nat → Option Command → Parser (Option Command)
  | 0, done? => return done?
  | fuel + 1, done? => do
    let script := readList fuel true
    expectNext atCommand
    match ← readToken script with
    | .newline =>
      readDocuments script
      return some (done?.getD .nothing)
    | .endOfFile =>
      readDocuments script
      pushBack
      return done?
    | _ =>
      pushBack
      let command ← readItem fuel
      let done := match done? with
        | some done => .sequence done command
        | none => command
      match (← get).token with
      | .ampersand => readLine fuel (some done)
      | .semicolon => readLine fuel (some done)
      | .newline =>
        pushBack
        readLine fuel (some done)
      | .endOfFile =>
        pushBack
        readLine fuel (some done)
      | _ => unexpected

end Parser

/-- Parse the commands of the next line. There are none at the end of the script. -/
def Reader.next (reader : Reader) : Answer :=
  Parser.readLine Parser.unbounded none
    { reader with isPushedBack := false, check := {}, awaited := [] }
    fun command? reader => .ok (command?, reader)

/-- A line that ends no text, as no text holds a zero byte. -/
def Parser.noEnding : Ending := { delimiter := [0], stripsTabs := false }

/-- Read the whole text as a word in quotes. -/
def Parser.readQuoted : Parser Word := do
  let scan : Scan := { level := { quoting := .double, isDouble := true } }
  let (scan, _) ← readText (readList unbounded true) (some noEnding) unbounded scan (← getIn scan)
  checkClosed scan true
  return scan.draft.closed.reverse

/-- The word that a text is in quotes. -/
def quotedWord (text : Bytes) : Except Halt Word :=
  -- the word is passed on among the here-documents
  let answer : Answer := Parser.readQuoted { input := text } fun word reader =>
    .ok (none, { reader with documents := [(0, word)] })
  match answer with
  | .error halt => .error halt
  | .ok (_, reader) => .ok ((reader.documents.lookup 0).getD [])

end Relocation.Shell
