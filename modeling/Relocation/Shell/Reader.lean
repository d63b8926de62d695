import Relocation.Shell.Syntax

/-!
# Reading the text of a script

A parser reads a text byte by byte. Where an alias is used, its text is read before the
text goes on, and the alias is not used again until then. The text may be only the
beginning of a script: a parser that comes to its end then gives up, so that it can be run
again on a longer text.
-/

namespace Relocation.Shell

/-- A reserved word. -/
inductive Keyword where
  | bang | case | do | done | elif | else | esac | fi | for | if | in | then | until | while
  | opening | closing
  deriving DecidableEq, Repr

/-- A token of the grammar of commands. -/
inductive Token where
  | endOfFile | newline | semicolon | ampersand | and | or | bar | openParen | closeParen
  | endOfArm | redirection | word
  | keyword (keyword : Keyword)
  deriving DecidableEq, Repr

/-- The operator of a redirection that was read, with its descriptor. -/
inductive Arrow where
  | file (descriptor : Nat) (mode : FileMode)
  | copy (descriptor : Nat)
  | here (descriptor : Nat) (stripsTabs : Bool)
  deriving DecidableEq, Repr

/-- A here-document whose text is still to come. -/
structure AwaitedDocument where
  number : Nat
  /-- The line that ends it. -/
  delimiter : Bytes
  stripsTabs : Bool
  isQuoted : Bool
  deriving Repr

/-- A text that goes on behind the text of an alias. -/
structure Interrupted where
  rest : Bytes
  name : Bytes
  /-- Whether the text of the alias ends in a blank, so that the next word can be an alias too. -/
  endsInBlank : Bool

/-- What is looked for in the next token. -/
structure Check where
  /-- Whether ends of lines are skipped. -/
  skipsLines : Bool := false
  /-- Whether a word can be a reserved one. -/
  keywords : Bool := false
  /-- Whether a word can be an alias. -/
  aliases : Bool := false
  /-- Whether the word is the line that ends a here-document. -/
  isDelimiter : Bool := false
  deriving DecidableEq, Repr

/-- Where a parser stands. -/
structure Reader where
  input : Bytes
  /-- Whether the script ends with the input. -/
  isComplete : Bool := true
  line : Nat := 1
  interrupted : List Interrupted := []
  /-- The aliases with their texts. -/
  aliases : List (Bytes × Bytes) := []
  /-- The aliases whose texts are being read. -/
  inUse : List Bytes := []
  /-- The aliases whose texts have just ended. -/
  ended : List Bytes := []
  token : Token := .newline
  /-- Whether the token is to be read again. -/
  isPushedBack : Bool := false
  check : Check := {}
  word : Word := []
  /-- Whether a part of the word is quoted. -/
  isQuoted : Bool := false
  arrow : Arrow := .copy 0
  awaited : List AwaitedDocument := []
  documents : List (Nat × Word) := []
  nextDocument : Nat := 0

/-- Why there is no command. -/
inductive Halt where
  /-- The text has to go on. -/
  | starved
  | wrong (line : Nat) (message : String)
  deriving Repr

/-- What a parser ends with: a command, or none at the end of the script. -/
abbrev Answer := Except Halt (Option Command × Reader)

/-- A parser of a part of a script, which passes what it found to what follows it. -/
def Parser (α : Type) : Type := Reader → (α → Reader → Answer) → Answer

namespace Parser

variable {α β : Type}

/-- Find a value without reading. -/
@[always_inline, inline] protected def pure (a : α) : Parser α := fun reader next => next a reader

/-- Parse one part after another. -/
@[always_inline, inline] protected def bind (first : Parser α) (second : α → Parser β) :
    Parser β :=
  fun reader next => first reader fun a reader => second a reader next

instance : Monad Parser where
  pure := Parser.pure
  bind := Parser.bind

instance : MonadStateOf Reader Parser where
  get := fun reader next => next reader reader
  set reader := fun _ next => next () reader
  modifyGet change := fun reader next =>
    let (a, reader) := change reader
    next a reader

/-- Give up with a message. -/
def fail (message : String) : Parser α := fun reader _ => .error (.wrong reader.line message)

/-- How often something is repeated if nothing else ends it. -/
def unbounded : Nat := 1000000000000

/-! ### Bytes -/

/-- Take the next byte of a text behind the texts of aliases that have ended. -/
def nextByte : List Interrupted → Reader → Option UInt8 × Reader
  | outer, reader =>
    match reader.input with
    | byte :: rest =>
      (some byte, { reader with
        input := rest
        interrupted := outer
        line := if byte = 10 then reader.line + 1 else reader.line })
    | [] =>
      match outer with
      | [] => (none, { reader with interrupted := [] })
      | text :: outer =>
        let check := reader.check
        nextByte outer { reader with
          input := text.rest
          ended := text.name :: reader.ended
          check := { check with aliases := check.aliases || text.endsInBlank } }

/-- Take the next byte, if the script does not end here. -/
def get? : Parser (Option UInt8) := fun reader next =>
  let reader := if reader.ended.isEmpty then reader else
    { reader with
      inUse := reader.inUse.filter fun name => !reader.ended.contains name
      ended := [] }
  match nextByte reader.interrupted reader with
  | (none, reader) => if reader.isComplete then next none reader else .error .starved
  | (some byte, reader) => next (some byte) reader

/-- Put a byte back. -/
def unget (byte? : Option UInt8) : Parser Unit := modify fun reader =>
  match byte? with
  | none => reader
  | some byte =>
    { reader with
      input := byte :: reader.input
      line := if byte = 10 then reader.line - 1 else reader.line }

/-- Take the next byte behind line continuations, at most so many. -/
def getJoinedWithin : Nat → Parser (Option UInt8)
  | 0 => get?
  | fuel + 1 => do
    match ← get? with
    | some 92 => do
      let next ← get?
      if next = some 10 then getJoinedWithin fuel
      else
        unget next
        return some 92
    | byte? => return byte?

/-- Take the next byte behind line continuations. -/
def getJoined : Parser (Option UInt8) := getJoinedWithin unbounded

/-- Read a text before the input goes on. -/
def pushText (name text : Bytes) : Parser Unit := modify fun reader =>
  let isBlank (byte : UInt8) : Bool := byte = 32 || byte = 9
  { reader with
    input := text
    inUse := name :: reader.inUse
    interrupted :=
      { rest := reader.input, name := name, endsInBlank := text.getLast?.any isBlank } ::
        reader.interrupted }

end Parser

end Relocation.Shell
