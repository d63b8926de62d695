import Relocation.Shell.Job

/-!
# Options of builtins

A builtin that has options reads their letters from its first arguments. Two minus
signs end them, and a letter that the builtin does not know is an error.
-/

namespace Relocation.Shell.Builtin

/-- An option that was given, with its argument if it takes one. -/
structure Given where
  letter : Char
  argument : Bytes := []

/-- Whether one of the options that were given has a letter. -/
def has (letter : Char) (options : List Given) : Bool := options.any (·.letter = letter)

/-- Read options out of a word. Those behind which a colon stands in `known` take an argument: the
rest of the word, or the next word. It gives the arguments that are left. -/
def readLetters (known : List Char) : Bytes → List Bytes → Run (List Given × List Bytes)
  | [], arguments => return ([], arguments)
  | byte :: letters, arguments => do
    let letter := Char.ofNat byte.toNat
    match if letter = ':' then [] else known.dropWhile (· ≠ letter) with
    | [] => fault (Bytes.ofString "Illegal option -" ++ [byte])
    | _ :: ':' :: _ =>
      match letters, arguments with
      | _ :: _, _ => return ([{ letter, argument := letters }], arguments)
      | [], argument :: arguments => return ([{ letter, argument }], arguments)
      | [], [] => fault (Bytes.ofString "No arg for -" ++ byte :: Bytes.ofString " option")
    | _ =>
      let (options, arguments) ← readLetters known letters arguments
      return ({ letter } :: options, arguments)

/-- Read the options at the start of the arguments, at most so many words, and give the operands
behind them. -/
def readWords (known : List Char) : Nat → List Bytes → Run (List Given × List Bytes)
  | fuel + 1, (45 :: byte :: letters) :: rest => do
    if byte = 45 && letters.isEmpty then return ([], rest)
    else
      let (first, rest) ← readLetters known (byte :: letters) rest
      let (more, operands) ← readWords known fuel rest
      return (first ++ more, operands)
  | _, arguments => return ([], arguments)

/-- Read the options at the start of the arguments, and give the operands behind them. -/
def readOptions (known : String) (arguments : List Bytes) : Run (List Given × List Bytes) :=
  readWords known.toList arguments.length arguments

/-- The operands of a builtin without options. -/
def operands (arguments : List Bytes) : Run (List Bytes) := do
  return (← readOptions "" arguments).2

/-- A text in quotes, such that the shell reads it back as one word. Runs of single quotes stand
between double quotes, and all else between single quotes. -/
def quote (text : Bytes) : Bytes :=
  let runs := text.splitBy fun first second => (first = 39) = (second = 39)
  let runs := if text.head? = some 39 || text.isEmpty then [] :: runs else runs
  runs.flatMap fun run => if run.head? = some 39 then 34 :: run ++ [34] else 39 :: run ++ [39]

/-- Report something without the name of the shell. -/
def remark (text : Bytes) : Run Unit := do
  let _ ← (Machine.Program.write 2 (text ++ [10]) : Machine.Program _)

/-- Apply something to every argument. The status is that of the last failure. -/
def forEach (action : Bytes → Run Nat) (arguments : List Bytes) : Run Nat := do
  let mut status := 0
  for argument in arguments do
    let result ← action argument
    if result ≠ 0 then status := result
  return status

end Relocation.Shell.Builtin
