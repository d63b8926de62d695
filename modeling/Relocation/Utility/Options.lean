import Relocation.Utility.Task

/-!
# Options of utilities

Options are letters behind a minus sign, or words behind two. They can stand between the
operands, up to a word of two minus signs. An option that takes an argument takes the rest
of its word, or the next word.
-/

namespace Relocation.Utility

open Machine (Program)

/-- An option that was given. -/
structure Given where
  letter : Char
  argument : Bytes := []
  deriving Repr

/-- The options that a utility knows. -/
structure Usage where
  /-- The letters, each with a colon behind it if the option takes an argument. -/
  letters : String
  /-- The long names with the letters that they stand for. -/
  names : List (String × Char) := []
  /-- Whether the first operand ends the options. -/
  stopsEarly : Bool := false
  /-- The status for options that are not known. -/
  status : Nat := 1

namespace Usage

/-- What a letter is: nothing, an option, or an option with an argument. -/
def takesArgument? (usage : Usage) (letter : Char) : Option Bool :=
  match usage.letters.toList.dropWhile (· ≠ letter) with
  | _ :: ':' :: _ => some true
  | _ :: _ => if letter = ':' then none else some false
  | [] => none

/-- Options and operands as far as they were read, and the problem that ended the reading. -/
structure Reading where
  options : List Given := []
  operands : List Bytes := []
  problem? : Option Bytes := none

/-- Read the letters of a word. It gives the words that are left. -/
def readLetters (usage : Usage) : Bytes → List Bytes → Reading × List Bytes
  | [], rest => ({}, rest)
  | byte :: letters, rest =>
    let letter := Char.ofNat byte.toNat
    match usage.takesArgument? letter with
    | none =>
      ({ problem? := some (Bytes.ofString "invalid option -- '" ++ [byte, 39]) }, rest)
    | some false =>
      let (reading, rest) := readLetters usage letters rest
      ({ reading with options := { letter } :: reading.options }, rest)
    | some true =>
      if !letters.isEmpty then ({ options := [{ letter, argument := letters }] }, rest)
      else match rest with
        | argument :: rest => ({ options := [{ letter, argument }] }, rest)
        | [] =>
          ({ problem? := some
              (Bytes.ofString "option requires an argument -- '" ++ [byte, 39]) }, [])

/-- Read a long option. It gives the words that are left. -/
def readName (usage : Usage) (word : Bytes) (rest : List Bytes) : Reading × List Bytes :=
  let (name, argument?) := match Bytes.cut? (· = 61) word with
    | some (name, argument) => (name, some argument)
    | none => (word, none)
  let isNamed (entry : String × Char) : Bool := Bytes.ofString entry.1 = name
  let isBegun (entry : String × Char) : Bool := name.isPrefixOf (Bytes.ofString entry.1)
  let wrong (before : String) (after : String) : Reading × List Bytes :=
    ({ problem? := some (Bytes.ofString before ++ name ++ Bytes.ofString after) }, rest)
  match (usage.names.find? isNamed).orElse fun _ => usage.names.find? isBegun with
  | none => wrong "unrecognized option '--" "'"
  | some (_, letter) =>
    match (usage.takesArgument? letter).getD false, argument?, rest with
    | false, none, rest => ({ options := [{ letter }] }, rest)
    | false, some _, _ => wrong "option '--" "' doesn't allow an argument"
    | true, some argument, rest => ({ options := [{ letter, argument }] }, rest)
    | true, none, argument :: rest => ({ options := [{ letter, argument }] }, rest)
    | true, none, [] => wrong "option '--" "' requires an argument"

/-- Read at most so many words. -/
def readWords (usage : Usage) : Nat → List Bytes → Reading
  | 0, words => { operands := words }
  | _, [] => {}
  | fuel + 1, word :: rest =>
    let go (step : Reading × List Bytes) : Reading :=
      match step.1.problem? with
      | some _ => step.1
      | none =>
        let later := readWords usage fuel step.2
        { later with options := step.1.options ++ later.options }
    match word with
    | [45, 45] => { operands := rest }
    | 45 :: 45 :: name => go (usage.readName name rest)
    | 45 :: byte :: letters => go (usage.readLetters (byte :: letters) rest)
    | _ =>
      if usage.stopsEarly then { operands := word :: rest }
      else
        let later := readWords usage fuel rest
        { later with operands := word :: later.operands }

end Usage

/-- The options and the operands of a task. Options that are not known end it. -/
def Task.read (task : Task) (usage : Usage) : Program (List Given × List Bytes) := do
  let reading := usage.readWords task.arguments.length task.arguments
  match reading.problem? with
  | some problem => task.misuse problem usage.status
  | none => return (reading.options, reading.operands)

/-- Whether one of the options has a letter. -/
def has (letter : Char) (options : List Given) : Bool := options.any (·.letter = letter)

/-- The argument of the last option with a letter. -/
def argumentOf? (letter : Char) (options : List Given) : Option Bytes :=
  (options.filter (·.letter = letter)).getLast?.map (·.argument)

end Relocation.Utility
