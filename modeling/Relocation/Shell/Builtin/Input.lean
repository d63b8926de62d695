import Relocation.Shell.Builtin.Options
import Relocation.Shell.Field

/-!
# Builtins that read lines and options
-/

namespace Relocation.Shell.Builtin

open Machine (Program)

/-! ### Lines -/

/-- A line as far as it was read: its text, with the regions that can be split, where the last of
them starts, and whether a backslash came last. -/
structure Line where
  text : Expanded := {}
  start : Nat := 0
  isEscaped : Bool := false

/-- Read a line byte by byte, so that nothing behind it is taken. It gives whether the line has an
end. -/
def readLine (isRaw : Bool) : Nat → Line → Run (Line × Bool)
  | 0, line => return (line, false)
  | fuel + 1, line => do
    match ← (Program.read 0 1 : Program _) with
    | .ok (byte :: _) =>
      if byte = 0 then readLine isRaw fuel line
      else if line.isEscaped then
        let text := line.text.record line.start
        let text := if byte = 10 then text else text.push [.escaped byte]
        readLine isRaw fuel { text, start := text.size }
      else if byte = 92 && !isRaw then readLine isRaw fuel { line with isEscaped := true }
      else if byte = 10 then return (line, true)
      else readLine isRaw fuel { line with text := line.text.push [.plain byte] }
    | _ => return (line, false)

/-- Give values to variables, and the empty value to those for which none is left. -/
def assignAll : List Bytes → List Bytes → Run Unit
  | [], _ => return
  | name :: names, values => do
    Variables.assign name (values.headD [])
    assignAll names (values.drop 1)

/-- Read a line from the standard input into variables. -/
def read (arguments : List Bytes) : Run Nat := do
  let (options, names) ← readOptions "p:r" arguments
  if names.isEmpty then faultOf "arg count"
  let (line, isComplete) ← readLine (has 'r' options) Program.unbounded {}
  let text := line.text.record line.start
  let fields := text.fields (← get).separators (some names.length)
  assignAll names (fields.map Mark.bytes)
  return if isComplete then 0 else 1

/-! ### Options -/

/-- What one step of `getopts` finds. -/
inductive Found where
  /-- There are no more options. -/
  | ended
  /-- An option, with its argument if it takes one. -/
  | option (letter : UInt8) (argument : Bytes)
  /-- A letter that stands for no option. -/
  | unknown (letter : UInt8)
  /-- An option whose argument is missing. -/
  | bare (letter : UInt8)

/-- One step through the arguments: what is found, the index of the next argument, and how far the
one before it was read, if it goes on. -/
structure OptionStep where
  found : Found
  index : Nat
  offset? : Option Nat

/-- What follows a letter in the list of options, if it is there. A colon after a letter belongs to
the letter. -/
def behindLetter? (letter : UInt8) : Nat → Bytes → Option Bytes
  | 0, _ => none
  | _, [] => none
  | fuel + 1, first :: rest =>
    if first = letter then some rest
    else behindLetter? letter fuel (if rest.head? = some 58 then rest.drop 1 else rest)

/-- Find the option at the start of the rest of a word. -/
def optionIn (letters : Bytes) (arguments : List Bytes) (index offset : Nat) (letter : UInt8)
    (rest : Bytes) : OptionStep :=
  match behindLetter? letter (letters.length + 1) letters with
  | none => ⟨.unknown letter, index, some (offset + 1)⟩
  | some (58 :: _) =>
    if !rest.isEmpty then ⟨.option letter rest, index, none⟩
    else match arguments[index - 1]? with
      | some argument => ⟨.option letter argument, index + 1, none⟩
      | none => ⟨.bare letter, index, none⟩
  | some _ => ⟨.option letter [], index, some (offset + 1)⟩

/-- Find the next option. -/
def nextOption (letters : Bytes) (arguments : List Bytes) (index : Nat) (offset? : Option Nat) :
    OptionStep :=
  let current := arguments[index - 2]?.getD []
  let rest := match offset? with
    | some offset => if index ≤ 1 then [] else current.drop offset
    | none => []
  match rest with
  | letter :: rest => optionIn letters arguments index (offset?.getD 0) letter rest
  | [] =>
    match arguments[index - 1]? with
    | some [45, 45] => ⟨.ended, index + 1, none⟩
    | some (45 :: letter :: rest) => optionIn letters arguments (index + 1) 1 letter rest
    | _ => ⟨.ended, index, none⟩

/-- Report something without the name of the builtin. -/
def complainBriefly (message : Bytes) : Run Unit := remark message

/-- The index behind all arguments, which makes `getopts` start again. It stays if a variable cannot
be set. -/
def lostIndex : Nat := 0xffffffff

/-- Find the next option among the positional parameters or the given arguments. -/
def getopts (arguments : List Bytes) : Run Nat := do
  match ← operands arguments with
  | letters :: name :: given =>
    let shell ← get
    let words := if given.isEmpty then shell.parameters else given
    let isBeyond := words.length + 1 < shell.optionIndex
    let index := if isBeyond then 1 else shell.optionIndex
    let offset? := if isBeyond then none else shell.optionOffset?
    let step := nextOption letters words index offset?
    let lose : Run Unit := modify ({ · with optionIndex := lostIndex })
    lose
    let isQuiet := letters.head? = some 58
    let argumentName := Bytes.ofString "OPTARG"
    let letter ← match step.found with
      | .ended => pure 63
      | .option letter argument => do
        Variables.assign argumentName argument
        pure letter
      | .unknown letter => do
        if isQuiet then Variables.assign argumentName [letter]
        else
          complainBriefly (Bytes.ofString "Illegal option -" ++ [letter])
          Variables.unset argumentName
        pure 63
      | .bare letter => do
        if isQuiet then
          Variables.assign argumentName [letter]
          pure 58
        else
          complainBriefly (Bytes.ofString "No arg for -" ++ letter :: Bytes.ofString " option")
          Variables.unset argumentName
          pure 63
    Variables.assign Variables.indexName (Bytes.ofString (Decimal.ofNat step.index))
    lose
    Variables.assign name [letter]
    modify ({ · with optionIndex := step.index, optionOffset? := step.offset? })
    return match step.found with
      | .ended => 1
      | _ => 0
  | _ => faultOf "Usage: getopts optstring var [arg...]"

end Relocation.Shell.Builtin
