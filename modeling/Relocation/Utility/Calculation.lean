import Relocation.Utility.Regular

/-!
# Calculating with words

The utility that calculates with words, which are texts and numbers. Operators are words
of their own.
-/

namespace Relocation.Utility

open Machine (Program)

namespace Calculation

/-- Why there is no value. -/
abbrev Outcome := Except String

/-- The number that a text writes. -/
def integer? (text : Bytes) : Option Int :=
  match text with
  | 45 :: digits => (number? digits).map fun number => -(number : Int)
  | digits => (number? digits).map fun number => (number : Int)

/-- A number as a text. -/
def integerText (value : Int) : Bytes := Bytes.ofString (Decimal.ofInt value)

/-- The number that an operand of a calculation has to be. -/
def integer (text : Bytes) : Outcome Int :=
  match integer? text with
  | some value => .ok value
  | none => .error "non-integer argument"

/-- Whether a text counts as nothing. -/
def isNull (text : Bytes) : Bool :=
  let digits := if text.head? = some 45 then text.drop 1 else text
  text.isEmpty || (!digits.isEmpty && digits.all (· = 48))

/-- A text of a truth value. -/
def ofBool (holds : Bool) : Bytes := if holds then [49] else [48]

/-- The text of a match of a pattern at the start of a text: its first group if the pattern has one,
else its length. -/
def matchText (text pattern : Bytes) : Outcome Bytes := do
  let parsed ← Regular.parse .basic pattern
  let hasGroup := (pattern.zip (pattern.drop 1)).any fun (a, b) => a = 92 && b = 40
  let subject : Regular.Subject := { text := ⟨text.toArray⟩ }
  match parsed.matchAt? subject 0 with
  | none => return if hasGroup then [] else [48]
  | some found =>
    match found.groups.lookup 1 with
    | some (start, stop) => return subject.slice start stop
    | none => return if hasGroup then [] else numberText found.stop

/-- The value of an operator between two texts. -/
def apply (operator : String) (a b : Bytes) : Outcome Bytes :=
  let compared (holds : Ordering → Bool) : Outcome Bytes :=
    let ordering := match integer? a, integer? b with
      | some x, some y => compare x y
      | _, _ => if a = b then .eq else if a < b then .lt else .gt
    .ok (ofBool (holds ordering))
  let calculated (operation : Int → Int → Outcome Int) : Outcome Bytes := do
    return integerText (← operation (← integer a) (← integer b))
  let divided (operation : Int → Int → Int) : Outcome Bytes :=
    calculated fun x y => if y = 0 then .error "division by zero" else .ok (operation x y)
  match operator with
  | "|" => .ok (if !isNull a then a else if !isNull b then b else [48])
  | "&" => .ok (if isNull a || isNull b then [48] else a)
  | "<" => compared (· == .lt)
  | "<=" => compared (· != .gt)
  | "=" => compared (· == .eq)
  | "==" => compared (· == .eq)
  | "!=" => compared (· != .eq)
  | ">=" => compared (· != .lt)
  | ">" => compared (· == .gt)
  | "+" => calculated fun x y => .ok (x + y)
  | "-" => calculated fun x y => .ok (x - y)
  | "*" => calculated fun x y => .ok (x * y)
  | "/" => divided Int.tdiv
  | "%" => divided Int.tmod
  | _ => matchText a b

/-- The operators by how strongly they bind, the weakest ones first. -/
def levels : List (List String) :=
  [["|"], ["&"], ["<", "<=", "=", "==", "!=", ">=", ">"], ["+", "-"], ["*", "/", "%"], [":"]]

/-- The operator that a word is among some. -/
def operator? (operators : List String) (words : List Bytes) : Option String :=
  words.head?.bind fun word => operators.find? fun operator => Bytes.ofString operator = word

/-- Why words are not enough. -/
def missingAfter (word : Bytes) : String :=
  "syntax error: missing argument after '" ++ String.ofList (word.map fun byte =>
    Char.ofNat byte.toNat) ++ "'"

mutual

/-- Read operands with the operators of a level between them. The word before the first one is known
for messages. -/
def readLevel : Nat → List (List String) → (before : Bytes) → List Bytes →
    Outcome (Bytes × List Bytes)
  | 0, _, _, _ => .error "syntax error"
  | fuel + 1, [], before, words => readOperand fuel before words
  | fuel + 1, operators :: stronger, before, words => do
    let (first, rest) ← readLevel fuel stronger before words
    readMore fuel operators stronger first rest

/-- Read on with the operators of a level. -/
def readMore : Nat → List String → List (List String) → Bytes → List Bytes →
    Outcome (Bytes × List Bytes)
  | 0, _, _, _, _ => .error "syntax error"
  | fuel + 1, operators, stronger, value, words => do
    match operator? operators words with
    | none => return (value, words)
    | some operator =>
      let (other, rest) ← readLevel fuel stronger (words.headD []) (words.drop 1)
      readMore fuel operators stronger (← apply operator value other) rest

/-- Read an operand: a word, a calculation in parentheses, or a function of other operands. -/
def readOperand : Nat → (before : Bytes) → List Bytes → Outcome (Bytes × List Bytes)
  | 0, _, _ => .error "syntax error"
  | _, before, [] =>
    if before.isEmpty then .error "missing operand" else .error (missingAfter before)
  | fuel + 1, _, word :: rest => do
    let isWord (text : String) : Bool := Bytes.ofString text = word
    if isWord "(" then
      let (value, rest) ← readLevel fuel levels word rest
      match rest with
      | [] => .error ("syntax error: expecting ')' after '" ++
          String.ofList (value.map fun byte => Char.ofNat byte.toNat) ++ "'")
      | closing :: rest =>
        if closing = [41] then return (value, rest)
        else .error ("syntax error: expecting ')' instead of '" ++
          String.ofList (closing.map fun byte => Char.ofNat byte.toNat) ++ "'")
    else if isWord ")" then .error "syntax error: unexpected ')'"
    else if isWord "+" && !rest.isEmpty then return (rest.headD [], rest.drop 1)
    else if isWord "length" && !rest.isEmpty then
      let (text, rest) ← readOperand fuel word rest
      return (numberText text.length, rest)
    else if isWord "match" && !rest.isEmpty then
      let (text, rest) ← readOperand fuel word rest
      let (pattern, rest) ← readOperand fuel text rest
      return (← matchText text pattern, rest)
    else if isWord "index" && !rest.isEmpty then
      let (text, rest) ← readOperand fuel word rest
      let (set, rest) ← readOperand fuel text rest
      let place := match text.findIdx? set.contains with
        | some index => index + 1
        | none => 0
      return (numberText place, rest)
    else if isWord "substr" && !rest.isEmpty then
      let (text, rest) ← readOperand fuel word rest
      let (start, rest) ← readOperand fuel text rest
      let (length, rest) ← readOperand fuel start rest
      let part := match integer? start, integer? length with
        | some start, some length =>
          if start ≤ 0 || length ≤ 0 then []
          else (text.drop (start.toNat - 1)).take length.toNat
        | _, _ => []
      return (part, rest)
    else return (word, rest)

end

/-- The value of a calculation. -/
def evaluate (words : List Bytes) : Outcome Bytes := do
  let (value, rest) ← readLevel (16 * words.length + 16) levels [] words
  match rest with
  | [] => return value
  | word :: _ => .error ("syntax error: unexpected argument '" ++
      String.ofList (word.map fun byte => Char.ofNat byte.toNat) ++ "'")

end Calculation

/-- Write the value of a calculation. -/
def expr : Work := fun task => do
  let words := match task.arguments with
    | [45, 45] :: rest => rest
    | words => words
  if words.isEmpty then task.misuse (Bytes.ofString "missing operand") 2
  match Calculation.evaluate words with
  | .ok value =>
    task.putLine value
    return if Calculation.isNull value then 1 else 0
  | .error message => task.fail (Bytes.ofString message) 2

end Relocation.Utility
