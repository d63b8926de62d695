import Relocation.Bytes

/-!
# Shell commands

The commands of the POSIX shell as data. A word is a sequence of segments: text as it
stands, escaped text, quotation marks, and the expansions of parameters, commands and
arithmetic. Commands are made of words, and of other commands.
-/

namespace Relocation.Shell

/-- What an expansion does with a word if the parameter is not set. -/
inductive Fallback where
  /-- `${x-word}`: the word takes the place of the value. -/
  | default
  /-- `${x=word}`: the parameter is set to the word. -/
  | assign
  /-- `${x?word}`: it is an error with the word as its message. -/
  | require
  /-- `${x+word}`: nothing, and the word takes the place of the value if there is one. -/
  | alternative
  deriving DecidableEq, Repr

/-- A redirection to or from a file. -/
inductive FileMode where
  /-- `<` -/
  | read
  /-- `>` -/
  | write
  /-- `>|` -/
  | overwrite
  /-- `>>` -/
  | append
  /-- `<>` -/
  | readWrite
  deriving DecidableEq, Repr

mutual

/-- A part of a word. -/
inductive Segment where
  /-- Text that may hold pattern characters. -/
  | plain (text : Bytes)
  /-- Text in which every byte stands for itself. -/
  | escaped (text : Bytes)
  /-- A quotation mark: what follows is quoted up to the next one. -/
  | mark
  /-- The expansion of a parameter. -/
  | parameter (name : Bytes) (form : Form)
  /-- The output of a command. -/
  | command (body : Command)
  /-- The value of an arithmetic expression. -/
  | arithmetic (expression : List Segment)

/-- How a parameter is expanded. -/
inductive Form where
  /-- Its value. -/
  | value
  /-- The length of its value. -/
  | length
  /-- Its value or something else; an empty value counts as unset if `testsEmpty` holds. -/
  | orElse (fallback : Fallback) (testsEmpty : Bool) (word : List Segment)
  /-- Its value without the shortest or longest match of a pattern at one end. -/
  | trim (atEnd longest : Bool) (pattern : List Segment)
  /-- A form that does not exist. -/
  | bad (rest : List Segment)

/-- What a redirection does with a descriptor. -/
inductive Redirection where
  /-- Open a file for it. -/
  | file (descriptor : Nat) (mode : FileMode) (path : List Segment)
  /-- `<&`, `>&`: make it a copy of the one that the word names, or close it. -/
  | copy (descriptor : Nat) (source : List Segment)
  /-- `<<`: read from the here-document with a number. -/
  | here (descriptor : Nat) (document : Nat)

/-- A command. -/
inductive Command where
  /-- Nothing at all. -/
  | nothing
  | simple (line : Nat) (assignments words : List (List Segment))
      (redirections : List Redirection)
  /-- Commands joined by bars. -/
  | pipeline (inBackground : Bool) (stages : List Command)
  | redirected (line : Nat) (body : Command) (redirections : List Redirection)
  | background (line : Nat) (body : Command) (redirections : List Redirection)
  | subshell (line : Nat) (body : Command) (redirections : List Redirection)
  | not (body : Command)
  | and (first second : Command)
  | or (first second : Command)
  | sequence (first second : Command)
  | conditional (condition body otherwise : Command)
  /-- A loop that goes on while its condition succeeds, or fails if `untilSuccess` holds. -/
  | loop (untilSuccess : Bool) (condition body : Command)
  | forEach (line : Nat) (name : Bytes) (items : List (List Segment)) (body : Command)
  | choice (line : Nat) (subject : List Segment) (arms : List (List (List Segment) × Command))
  | define (line : Nat) (name : Bytes) (body : Command)

end

/-- A word. -/
abbrev Word := List Segment

instance : Inhabited Command := ⟨.nothing⟩

/-- Whether a byte can begin the name of a variable. -/
def beginsName (byte : UInt8) : Bool :=
  byte = 95 || (65 ≤ byte && byte ≤ 90) || (97 ≤ byte && byte ≤ 122)

/-- Whether a byte is a decimal digit. -/
def isDigit (byte : UInt8) : Bool := 48 ≤ byte && byte ≤ 57

/-- Whether a byte can stand in the name of a variable. -/
def isInName (byte : UInt8) : Bool := beginsName byte || isDigit byte

/-- Whether a byte is the name of a parameter by itself: `!`, `#`, `$`, `*`, `-`, `?` or `@`. -/
def isSpecial (byte : UInt8) : Bool :=
  [33, 35, 36, 42, 45, 63, 64].contains byte

/-- Whether a text is the name of a variable. -/
def isName (text : Bytes) : Bool :=
  match text with
  | [] => false
  | first :: rest => beginsName first && rest.all isInName

/-- The name at the start of a word that is an assignment. -/
def assignedName? (word : Word) : Option Bytes :=
  match word with
  | .plain text :: _ =>
    let name := text.takeWhile isInName
    if isName name && (text.drop name.length).head? = some 61 then some name else none
  | _ => none

end Relocation.Shell
