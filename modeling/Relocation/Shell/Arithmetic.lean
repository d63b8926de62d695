import Relocation.Bytes
import Relocation.Text.Decimal

/-!
# Arithmetic expressions

The arithmetic of the shell computes with 64-bit signed integers that wrap around. An
expression is read by precedence climbing; it is evaluated with the values of
variables at hand, and gives the assignments that it makes along with its value. What is
wrong with an expression is found only when the part before it was evaluated, so that it is a
part of the expression itself.
-/

namespace Relocation.Shell

namespace Arithmetic

/-- An operator between two operands. -/
inductive BinaryOperator where
  | mul | div | rem | add | sub | shiftLeft | shiftRight
  | lt | le | gt | ge | eq | ne | bitAnd | bitXor | bitOr
  deriving DecidableEq, Repr

/-- An operator before an operand. -/
inductive UnaryOperator where
  | plus | minus | not | complement
  deriving DecidableEq, Repr

/-- What an expression can lack. -/
inductive Mistake where
  | operand
  | closer
  | colon
  /-- The end, as something stands behind the expression. -/
  | finish
  deriving DecidableEq, Repr

/-- An arithmetic expression. -/
inductive Expression where
  | number (value : Int)
  /-- The value of a variable. -/
  | fetch (name : Bytes)
  | unary (operator : UnaryOperator) (operand : Expression)
  | binary (operator : BinaryOperator) (left right : Expression)
  | and (left right : Expression)
  | or (left right : Expression)
  | choose (condition left right : Expression)
  /-- An assignment, after an operation with the old value if there is an operator. -/
  | assign (name : Bytes) (operator : Option BinaryOperator) (value : Expression)
  /-- What cannot be read, behind an operand that can. -/
  | wrong (operand : Expression) (mistake : Mistake)
  deriving Repr

/-- A token of an expression. -/
inductive Token where
  | number (value : Int)
  | name (name : Bytes)
  | symbol (text : String)
  /-- A byte that begins no token. -/
  | unknown
  deriving DecidableEq, Repr

/-- The symbols of expressions, a longer one before those that it begins with. -/
def symbols : List String :=
  ["<<=", ">>=", "<<", ">>", "<=", ">=", "==", "!=", "&&", "||", "+=", "-=", "*=", "/=", "%=", "&=",
    "^=", "|=", "<", ">", "=", "!", "~", "+", "-", "*", "/", "%", "&", "^", "|", "(", ")", "?", ":"]

/-- The value of a digit in a base of at most sixteen. -/
def digit? (base : Nat) (byte : UInt8) : Option Nat :=
  let value? :=
    if 48 ≤ byte ∧ byte ≤ 57 then some (byte.toNat - 48)
    else if 97 ≤ byte ∧ byte ≤ 102 then some (byte.toNat - 87)
    else if 65 ≤ byte ∧ byte ≤ 70 then some (byte.toNat - 55)
    else none
  value?.filter (· < base)

/-- The number that digits denote in a base. -/
def ofDigits? (base : Nat) (digits : Bytes) : Option Nat :=
  digits.foldl (fun value byte => do return (← value) * base + (← digit? base byte)) (some 0)

/-- The number that a text denotes: hexadecimal after `0x`, octal after `0`, else decimal. -/
def natural? (text : Bytes) : Option Nat :=
  match text with
  | [] => none
  | 48 :: x :: rest =>
    if x = 120 ∨ x = 88 then if rest.isEmpty then none else ofDigits? 16 rest
    else ofDigits? 8 (x :: rest)
  | _ => ofDigits? 10 text

/-- The least number that is too large for a 64-bit integer. -/
def bound : Int := 0x8000000000000000

/-- A number between the least and the greatest 64-bit integer. -/
def clamp (value : Int) : Int :=
  max (-bound) (min (bound - 1) value)

/-- A number modulo `2 ^ 64`, as a 64-bit signed integer. -/
def wrap (value : Int) : Int :=
  Int.bmod value 0x10000000000000000

/-- Whether a byte can stand in a name or a number. -/
def isWordByte (byte : UInt8) : Bool :=
  let c := Char.ofNat byte.toNat
  c.isAlphanum || c = '_'

/-- The length of the number at the start of a text: the digits of its base, which are hexadecimal
after `0x`, octal after `0`, else decimal. -/
def numberLength (text : Bytes) : Nat :=
  let run (base : Nat) (text : Bytes) : Nat :=
    (text.takeWhile fun byte => (digit? base byte).isSome).length
  match text with
  | 48 :: x :: rest =>
    if (x = 120 || x = 88) && run 16 rest ≠ 0 then run 16 rest + 2 else run 8 text
  | _ => run 10 text

/-- The tokens of an expression. Nothing is read behind a byte that begins no token. -/
def tokens : Nat → Bytes → List Token
  | _, [] => []
  | 0, _ => []
  | fuel + 1, byte :: rest =>
    if byte = 32 ∨ byte = 9 ∨ byte = 10 then tokens fuel rest
    else if 48 ≤ byte ∧ byte ≤ 57 then
      let length := numberLength (byte :: rest)
      let value := (natural? ((byte :: rest).take length)).getD 0
      .number (clamp value) :: tokens fuel ((byte :: rest).drop length)
    else if isWordByte byte then
      let word := (byte :: rest).takeWhile isWordByte
      .name word :: tokens fuel ((byte :: rest).drop word.length)
    else
      match symbols.find? fun symbol => (Bytes.ofString symbol).isPrefixOf (byte :: rest) with
      | some symbol => .symbol symbol :: tokens fuel ((byte :: rest).drop symbol.utf8ByteSize)
      | none => [.unknown]

/-- The binary operators with the precedence of each, the weakest first. -/
def binaryOperators : List (String × Nat × BinaryOperator) :=
  [("|", 3, .bitOr), ("^", 4, .bitXor), ("&", 5, .bitAnd), ("==", 6, .eq), ("!=", 6, .ne),
    ("<", 7, .lt), ("<=", 7, .le), (">", 7, .gt), (">=", 7, .ge), ("<<", 8, .shiftLeft),
    (">>", 8, .shiftRight), ("+", 9, .add), ("-", 9, .sub), ("*", 10, .mul), ("/", 10, .div),
    ("%", 10, .rem)]

/-- The operators that assign, with the operation that each one makes first. -/
def assignmentOperators : List (String × Option BinaryOperator) :=
  [("=", none), ("*=", some .mul), ("/=", some .div), ("%=", some .rem), ("+=", some .add),
    ("-=", some .sub), ("<<=", some .shiftLeft), (">>=", some .shiftRight), ("&=", some .bitAnd),
    ("^=", some .bitXor), ("|=", some .bitOr)]

/-- The operators before an operand. -/
def unaryOperators : List (String × UnaryOperator) :=
  [("+", .plus), ("-", .minus), ("!", .not), ("~", .complement)]

mutual

/-- Read an operand. -/
def readOperand : Nat → List Token → Expression × List Token
  | 0, tokens => (.wrong (.number 0) .operand, tokens)
  | fuel + 1, tokens =>
    match tokens with
    | .number value :: rest => (.number value, rest)
    | .name name :: rest => (.fetch name, rest)
    | .symbol "(" :: rest =>
      match readExpression fuel rest with
      | (inner, .symbol ")" :: rest) => (inner, rest)
      | (inner, rest) => (.wrong inner .closer, rest)
    | .symbol symbol :: rest =>
      match unaryOperators.lookup symbol with
      | some operator =>
        let (inner, rest) := readOperand fuel rest
        (.unary operator inner, rest)
      | none => (.wrong (.number 0) .operand, rest)
    | rest => (.wrong (.number 0) .operand, rest)

/-- Read what follows an operand, as long as the operators bind at least as strongly as `least`.
The weakest operators are `||` with precedence 1 and `&&` with precedence 2. -/
def readOperators : Nat → Nat → Expression → List Token → Expression × List Token
  | 0, _, left, tokens => (.wrong left .finish, tokens)
  | fuel + 1, least, left, tokens =>
    match tokens with
    | .symbol symbol :: rest =>
      let join? : Option (Nat × (Expression → Expression → Expression)) :=
        if symbol = "||" then some (1, .or)
        else if symbol = "&&" then some (2, .and)
        else (binaryOperators.lookup symbol).map fun (precedence, operator) =>
          (precedence, .binary operator)
      match join? with
      | some (precedence, join) =>
        if least ≤ precedence then
          let (right, rest) := readOperand fuel rest
          let (right, rest) := readOperators fuel (precedence + 1) right rest
          readOperators fuel least (join left right) rest
        else (left, tokens)
      | none => (left, tokens)
    | _ => (left, tokens)

/-- Read a condition with what is chosen by it, or what stands in place of one. -/
def readChoice : Nat → List Token → Expression × List Token
  | 0, tokens => (.wrong (.number 0) .operand, tokens)
  | fuel + 1, tokens =>
    let (first, rest) := readOperand fuel tokens
    match readOperators fuel 1 first rest with
    | (condition, .symbol "?" :: rest) =>
      match readExpression fuel rest with
      | (left, .symbol ":" :: rest) =>
        let (right, rest) := readChoice fuel rest
        (.choose condition left right, rest)
      | (left, rest) => (.choose condition left (.wrong (.number 0) .colon), rest)
    | other => other

/-- Read an expression, which is an assignment if it begins with a name and an operator for that. -/
def readExpression : Nat → List Token → Expression × List Token
  | 0, tokens => (.wrong (.number 0) .operand, tokens)
  | fuel + 1, tokens =>
    match tokens with
    | .name name :: .symbol symbol :: rest =>
      match assignmentOperators.lookup symbol with
      | some operator =>
        let (value, rest) := readExpression fuel rest
        (.assign name operator value, rest)
      | none => readChoice fuel tokens
    | _ => readChoice fuel tokens

end

/-- The expression of a text. -/
def read (text : Bytes) : Expression :=
  let tokens := tokens (text.length + 1) text
  match readExpression (4 * tokens.length + 4) tokens with
  | (expression, []) => expression
  | (expression, _) => .wrong expression .finish

/-- Why an expression has no value. -/
inductive Fault where
  | divisionByZero
  /-- The quotient has more than 64 bits. -/
  | overflow
  | illegalNumber (text : Bytes)
  /-- A variable was assigned that keeps its value. -/
  | readOnly (name : Bytes)
  | mistake (mistake : Mistake)
  deriving DecidableEq, Repr

/-- The values of variables while an expression is evaluated, the latest assignment first, the
values that they had before, and which of them keep their values. -/
structure Store where
  assigned : List (Bytes × Int)
  before : Bytes → Option Bytes
  isReadOnly : Bytes → Bool

/-- Whether a byte is a blank of any kind. -/
def isBlank (byte : UInt8) : Bool := byte = 32 || (9 ≤ byte && byte ≤ 13)

/-- A text without the blanks at its ends. -/
def trimmed (text : Bytes) : Bytes :=
  ((text.dropWhile isBlank).reverse.dropWhile isBlank).reverse

/-- The number that a text denotes, with blanks around it and a sign before it allowed. A blank text
denotes zero, and a number of more than 64 bits is none. -/
def integer? (text : Bytes) : Option Int :=
  let value? : Option Int := match trimmed text with
    | [] => some 0
    | 45 :: rest => (natural? rest).map fun n => -(n : Int)
    | 43 :: rest => (natural? rest).map fun n => (n : Int)
    | rest => (natural? rest).map fun n => (n : Int)
  value?.filter fun value => clamp value = value

/-- The integer that a word denotes, in decimal and perhaps between blanks. -/
def decimal? (word : Bytes) : Option Int :=
  let (sign, digits) : Int × Bytes := match trimmed word with
    | 45 :: digits => (-1, digits)
    | 43 :: digits => (1, digits)
    | digits => (1, digits)
  if digits.isEmpty then none
  else ((ofDigits? 10 digits).map fun n => sign * (n : Int)).filter fun value =>
    clamp value = value

/-- The value of a variable. One that is unset or empty counts as zero. -/
def Store.value (store : Store) (name : Bytes) : Except Fault Int :=
  match store.assigned.lookup name with
  | some value => .ok value
  | none =>
    match store.before name with
    | none => .ok 0
    | some [] => .ok 0
    | some text => match integer? text with
      | some value => .ok value
      | none => .error (.illegalNumber text)

/-- The integer of a truth value. -/
def ofBool (b : Bool) : Int := if b then 1 else 0

/-- The bits of an integer. -/
def bits (value : Int) : UInt64 := UInt64.ofInt value

/-- The integer of 64 bits. -/
def ofBits (word : UInt64) : Int := wrap (word.toNat : Int)

/-- A quotient or the remainder of a division, whose quotient has to be an integer of 64 bits. -/
def divide (operation : Int → Int → Int) (a b : Int) : Except Fault Int :=
  if b = 0 then .error .divisionByZero
  else if Int.tdiv a b = bound then .error .overflow
  else .ok (operation a b)

/-- The value of an operation. -/
def BinaryOperator.apply (operator : BinaryOperator) (a b : Int) : Except Fault Int :=
  match operator with
  | .mul => .ok (wrap (a * b))
  | .div => divide Int.tdiv a b
  | .rem => divide Int.tmod a b
  | .add => .ok (wrap (a + b))
  | .sub => .ok (wrap (a - b))
  | .shiftLeft => .ok (ofBits (bits a <<< bits b))
  | .shiftRight => .ok (a >>> (bits b % 64).toNat)
  | .lt => .ok (ofBool (decide (a < b)))
  | .le => .ok (ofBool (decide (a ≤ b)))
  | .gt => .ok (ofBool (decide (b < a)))
  | .ge => .ok (ofBool (decide (b ≤ a)))
  | .eq => .ok (ofBool (decide (a = b)))
  | .ne => .ok (ofBool (decide (a ≠ b)))
  | .bitAnd => .ok (ofBits (bits a &&& bits b))
  | .bitXor => .ok (ofBits (bits a ^^^ bits b))
  | .bitOr => .ok (ofBits (bits a ||| bits b))

/-- What gives a value, with the variables after it, or fails. -/
abbrev Evaluation := EStateM Fault Store

/-- A value that a computation gives or fails to give. -/
def lifted : Except Fault Int → Evaluation Int
  | .ok value => return value
  | .error fault => throw fault

/-- Give a variable a value. -/
def keepValue (name : Bytes) (value : Int) : Evaluation Unit := do
  if (← get).isReadOnly name then throw (.readOnly name)
  modify fun store => { store with assigned := (name, value) :: store.assigned }

/-- The value of an expression. The part of an expression on which the value does not depend is only
looked through for mistakes. -/
def Expression.evaluate (isNeeded : Bool) : Expression → Evaluation Int
  | .number value => return value
  | .fetch name => do
    if isNeeded then lifted ((← get).value name) else return 0
  | .unary operator operand => do
    let value ← operand.evaluate isNeeded
    match operator with
    | .plus => return value
    | .minus => return wrap (-value)
    | .not => return ofBool (decide (value = 0))
    | .complement => return ofBits (~~~ bits value)
  | .binary operator left right => do
    let a ← left.evaluate isNeeded
    let b ← right.evaluate isNeeded
    if isNeeded then lifted (operator.apply a b) else return b
  | .and left right => do
    let a ← left.evaluate isNeeded
    let b ← right.evaluate (isNeeded && a ≠ 0)
    return ofBool (a ≠ 0 && b ≠ 0)
  | .or left right => do
    let a ← left.evaluate isNeeded
    let b ← right.evaluate (isNeeded && a = 0)
    return ofBool (a ≠ 0 || b ≠ 0)
  | .choose condition left right => do
    let a ← condition.evaluate isNeeded
    let b ← left.evaluate (isNeeded && a ≠ 0)
    let c ← right.evaluate (isNeeded && a = 0)
    return if a ≠ 0 then b else c
  | .assign name operator value => do
    let b ← value.evaluate isNeeded
    if !isNeeded then return b
    let result ← match operator with
      | none => pure b
      | some operator => do lifted (operator.apply (← lifted ((← get).value name)) b)
    keepValue name result
    return result
  | .wrong operand mistake => do
    let _ ← operand.evaluate isNeeded
    throw (.mistake mistake)

/-- What is said about a mistake. -/
def Mistake.message : Mistake → String
  | .operand => "expecting primary"
  | .closer => "expecting ')'"
  | .colon => "expecting ':'"
  | .finish => "expecting EOF"

end Arithmetic

end Relocation.Shell
