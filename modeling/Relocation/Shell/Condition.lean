import Relocation.Shell.Variables

/-!
# Conditions

The conditions that `test` and `[` evaluate. They come as words, and which word is an
operator depends on where it stands and on how many words there are. What is wrong with
the words is found only when the part before it was evaluated, so that it is a part of the
condition itself.
-/

namespace Relocation.Shell

open Machine (Facts FileKind Kernel Program)

/-- A condition. -/
inductive Condition where
  | constant (value : Bool)
  /-- A text that is not empty. -/
  | text (text : Bytes)
  /-- A test of one text, by the letter of its operator. -/
  | unary (letter : Char) (operand : Bytes)
  /-- A comparison of two texts. -/
  | binary (operator : String) (left right : Bytes)
  | not (operand : Condition)
  | and (left right : Condition)
  | or (left right : Condition)
  /-- Words that make no condition. -/
  | wrong (message : Bytes)
  deriving Repr

namespace Condition

/-! ### Operators -/

/-- The letters of the tests of one text. -/
def letters : List Char :=
  ['r', 'w', 'x', 'e', 'f', 'd', 'c', 'b', 'p', 'u', 'g', 'k', 's', 't', 'z', 'n', 'h', 'L', 'O',
    'G', 'S']

/-- The comparisons of two texts. -/
def comparisons : List String :=
  ["=", "!=", "<", ">", "-eq", "-ne", "-ge", "-gt", "-le", "-lt", "-nt", "-ot", "-ef"]

/-- The letter of a test of one text. -/
def letter? (word : Bytes) : Option Char :=
  match word with
  | [45, byte] => letters.find? (· = Char.ofNat byte.toNat)
  | _ => none

/-- The comparison that a word stands for. -/
def comparison? (word : Bytes) : Option String :=
  comparisons.find? fun operator => Bytes.ofString operator = word

/-- Whether a word is the given operator. -/
def isWord (text : String) (word : Bytes) : Bool := word = Bytes.ofString text

/-- Whether the next word is the given operator. -/
def startsWith (text : String) (words : List Bytes) : Bool := words.head?.any (isWord text)

/-! ### Reading -/

/-- The test of one text that begins the words, unless its operator is rather an operand: the only
word, or the left side of a comparison. -/
def leadingTest? : List Bytes → Option Char
  | first :: second :: rest =>
    if rest.isEmpty || (comparison? second).isNone then letter? first else none
  | _ => none

/-- Read a test, a comparison, or a text by itself. It gives the words from the last one on that was
read. -/
def readOperand (words : List Bytes) : Condition × List Bytes :=
  match words with
  | [] => (.constant false, [])
  | first :: rest =>
    match leadingTest? words with
    | some letter => (.unary letter (rest.headD []), rest)
    | none =>
      match rest.head?.bind comparison? with
      | none => (.text first, words)
      | some operator =>
        match rest.drop 1 with
        | [] => (.wrong (Bytes.ofString (operator ++ ": argument expected")), [])
        | right :: others => (.binary operator first right, right :: others)

/-- The precedence of a part of a condition. -/
inductive Level where
  | disjunction
  | conjunction
  | primary
  deriving DecidableEq, Repr

/-- Read a part of a condition. It gives the words from the last one on that was read. Words are
used up by every step but those down one level. -/
def read : Nat → Level → List Bytes → Condition × List Bytes
  | 0, _, _ => (.wrong (Bytes.ofString "too complex"), [])
  | fuel + 1, .disjunction, words =>
    let (left, here) := read fuel .conjunction words
    if startsWith "-o" (here.drop 1) then
      let (right, here) := read fuel .disjunction (here.drop 2)
      (.or left right, here)
    else (left, here)
  | fuel + 1, .conjunction, words =>
    let (left, here) := read fuel .primary words
    if startsWith "-a" (here.drop 1) then
      let (right, here) := read fuel .conjunction (here.drop 2)
      (.and left right, here)
    else (left, here)
  | fuel + 1, .primary, words =>
    if startsWith "!" words then
      if words.length = 1 then (.constant true, words)
      else
        let (operand, here) := read fuel .primary (words.drop 1)
        (.not operand, here)
    else if startsWith "(" words && words.length ≠ 1 then
      if startsWith ")" (words.drop 1) then (.constant false, words.drop 1)
      else
        let (inner, here) := read fuel .disjunction (words.drop 1)
        if startsWith ")" (here.drop 1) then (inner, here.drop 1)
        else (.and inner (.wrong (Bytes.ofString "closing paren expected")), [])
    else readOperand words

/-- Read a whole condition. -/
def readAll (words : List Bytes) : Condition :=
  match read (3 * words.length + 3) .disjunction words with
  | (condition, last :: _ :: _) =>
    let subject := if last.isEmpty then [] else last ++ [58, 32]
    .and condition (.wrong (subject ++ Bytes.ofString "unexpected operator"))
  | (condition, _) => condition

/-- Read a condition. Three words with a comparison in the middle are that comparison; else three
or four words may be a condition behind an exclamation mark or in parentheses. A second
exclamation mark in front of two words changes nothing. -/
def ofWords : List Bytes → Condition
  | [] => .constant false
  | [left, word, right] =>
    match comparison? word with
    | some operator => .binary operator left right
    | none =>
      if isWord "(" left && isWord ")" right then readAll [word]
      else if isWord "!" left then .not (readAll [word, right])
      else readAll [left, word, right]
  | [first, second, third, fourth] =>
    if isWord "(" first && isWord ")" fourth then readAll [second, third]
    else if isWord "!" first then
      match comparison? third with
      | some operator => .not (.binary operator second fourth)
      | none =>
        if isWord "(" second && isWord ")" fourth then .not (readAll [third])
        else if isWord "!" second then .not (readAll [third, fourth])
        else .not (readAll [second, third, fourth])
    else readAll [first, second, third, fourth]
  | words => readAll words

/-! ### Evaluation -/

/-- Whether a file passes the test of a letter, for a user who may do everything. -/
def holdsOf (letter : Char) (facts : Facts) : Bool :=
  let hasBit (bit : Nat) : Bool := facts.mode &&& bit ≠ 0
  match letter with
  | 'x' => facts.isExecutable
  | 'f' => facts.kind = .regular
  | 'd' => facts.kind = .directory
  | 'c' => facts.kind = .character
  | 'p' => facts.kind = .fifo
  | 'h' => facts.kind = .link
  | 'L' => facts.kind = .link
  | 'b' => false
  | 'S' => false
  | 'u' => hasBit 0o4000
  | 'g' => hasBit 0o2000
  | 'k' => hasBit 0o1000
  | 's' => facts.size ≠ 0
  | _ => true

/-- The value of a test of one text. -/
def evaluateUnary (letter : Char) (operand : Bytes) : Run Bool := do
  if letter = 'z' then return operand.isEmpty
  else if letter = 'n' then return !operand.isEmpty
  else if letter = 't' then
    let _ ← integer operand
    return false
  else
    let followsLast := letter ≠ 'h' && letter ≠ 'L'
    match ← (Program.ask fun kernel process => kernel.facts process operand followsLast :
      Program _) with
    | .ok facts => return holdsOf letter facts
    | .error _ => return false

/-- Whether a relation holds of two files that both exist. -/
def relate (left right : Bytes) (holds : Facts → Facts → Bool) : Run Bool := do
  let both ← (Program.ask fun kernel process => do
    return (← kernel.facts process left, ← kernel.facts process right) : Program _)
  match both with
  | .ok (a, b) => return holds a b
  | .error _ => return false

/-- The value of a comparison. -/
def evaluateBinary (operator : String) (left right : Bytes) : Run Bool := do
  let compare (holds : Int → Int → Bool) : Run Bool := do
    let a ← integer left
    let b ← integer right
    return holds a b
  match operator with
  | "=" => return left = right
  | "!=" => return left ≠ right
  | "<" => return left < right
  | ">" => return right < left
  | "-eq" => compare fun a b => a = b
  | "-ne" => compare fun a b => a ≠ b
  | "-ge" => compare fun a b => b ≤ a
  | "-gt" => compare fun a b => b < a
  | "-le" => compare fun a b => a ≤ b
  | "-lt" => compare fun a b => a < b
  | "-nt" => relate left right fun a b => b.changed < a.changed
  | "-ot" => relate left right fun a b => a.changed < b.changed
  | "-ef" => relate left right fun a b => a.number = b.number
  | _ => return false

/-- The value of a condition. Both sides of a conjunction or disjunction are evaluated. -/
def evaluate : Condition → Run Bool
  | .constant value => return value
  | .text word => return !word.isEmpty
  | .unary letter operand => evaluateUnary letter operand
  | .binary operator left right => evaluateBinary operator left right
  | .not operand => do return !(← operand.evaluate)
  | .and left right => do
    let a ← left.evaluate
    let b ← right.evaluate
    return a && b
  | .or left right => do
    let a ← left.evaluate
    let b ← right.evaluate
    return a || b
  | .wrong message => fault message

/-- Evaluate the condition that words stand for. It gives the status of the command. -/
def status (words : List Bytes) : Run Nat := do
  return if ← (ofWords words).evaluate then 0 else 1

end Condition

end Relocation.Shell
