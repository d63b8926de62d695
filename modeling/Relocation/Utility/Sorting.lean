import Relocation.Utility.Count

/-!
# Sorting lines

The utility that sorts lines by keys. A key is a part of a line between two places, each
given by a field and a byte in it, and has an order of its own.
-/

namespace Relocation.Utility

open Machine (Program)

namespace Sorting

/-- How keys are compared. -/
structure Order where
  isNumeric : Bool := false
  isHuman : Bool := false
  isMonth : Bool := false
  foldsCase : Bool := false
  dictionaryOnly : Bool := false
  printableOnly : Bool := false
  reverses : Bool := false
  skipsBlanks : Bool := false
  deriving DecidableEq

/-- The order with one more letter. -/
def Order.with (order : Order) (letter : Char) : Order :=
  match letter with
  | 'n' => { order with isNumeric := true }
  | 'g' => { order with isNumeric := true }
  | 'h' => { order with isNumeric := true, isHuman := true }
  | 'M' => { order with isMonth := true }
  | 'f' => { order with foldsCase := true }
  | 'd' => { order with dictionaryOnly := true }
  | 'i' => { order with printableOnly := true }
  | 'r' => { order with reverses := true }
  | 'b' => { order with skipsBlanks := true }
  | _ => order

/-- A place in a line: a field and a byte in it, both counted from one on. The byte zero stands for
the end of the field. -/
structure Place where
  field : Nat
  byte : Nat
  skipsBlanks : Bool

/-- A key. -/
structure Key where
  start : Place
  stop? : Option Place
  order : Order

/-- Whether a byte stands between fields by default. -/
def isGap (byte : UInt8) : Bool := byte = 32 || byte = 9 || byte = 10

/-- A line without its first fields. Only what separates the fields that are dropped goes with them
if `keepsGap` holds. -/
def dropFields (separator? : Option UInt8) (keepsGap : Bool) : Nat → Bytes → Bytes
  | 0, line => line
  | count + 1, line =>
    match separator? with
    | none => dropFields none keepsGap count ((line.dropWhile isGap).dropWhile (!isGap ·))
    | some separator =>
      let rest := line.dropWhile (· ≠ separator)
      dropFields separator? keepsGap count
        (if count = 0 && keepsGap then rest else rest.drop 1)

/-- The part of a line that a key stands for. -/
def Key.part (key : Key) (separator? : Option UInt8) (line : Bytes) : Bytes :=
  let skip (place : Place) (text : Bytes) : Bytes :=
    if place.skipsBlanks then text.dropWhile isGap else text
  let rest := skip key.start (dropFields separator? false (key.start.field - 1) line)
  let rest := rest.drop (key.start.byte - 1)
  match key.stop? with
  | none => rest
  | some stop =>
    let behind := if stop.byte = 0 then dropFields separator? true stop.field line
      else (skip stop (dropFields separator? false (stop.field - 1) line)).drop stop.byte
    rest.take (rest.length - behind.length)

/-- The number that a text begins with. -/
def leadingNumber (text : Bytes) : Amount :=
  let text := text.dropWhile isGap
  let isDigit (byte : UInt8) : Bool := 48 ≤ byte && byte ≤ 57
  let (sign, body) : Int × Bytes := match text with
    | 45 :: body => (-1, body)
    | body => (1, body)
  let whole := body.takeWhile isDigit
  let fraction := match body.drop whole.length with
    | 46 :: rest => rest.takeWhile isDigit
    | _ => []
  let count := (number? (whole ++ fraction)).getD 0
  { count := sign * (count : Int), places := fraction.length }

/-- The place of the unit behind a number in the order of units. -/
def unitRank (text : Bytes) : Nat :=
  let isPart (byte : UInt8) : Bool := byte = 45 || byte = 46 || (48 ≤ byte && byte ≤ 57)
  match (text.dropWhile isGap).dropWhile isPart with
  | byte :: _ => match (Bytes.ofString "KMGTPEZY").idxOf? (if byte = 107 then 75 else byte) with
    | some index => index + 1
    | none => 0
  | [] => 0

/-- Compare two numbers. -/
def compareAmounts (a b : Amount) : Ordering :=
  let places := max a.places b.places
  compare (a.scaled places) (b.scaled places)

/-- The place of a month in the year, or zero. -/
def monthRank (text : Bytes) : Nat :=
  let name := ((text.dropWhile isGap).take 3).map fun byte =>
    if 97 ≤ byte && byte ≤ 122 then byte - 32 else byte
  let months := ["JAN", "FEB", "MAR", "APR", "MAY", "JUN", "JUL", "AUG", "SEP", "OCT", "NOV", "DEC"]
  match months.findIdx? fun month => Bytes.ofString month = name with
  | some index => index + 1
  | none => 0

/-- Compare two texts by their bytes. -/
def compareBytes : Bytes → Bytes → Ordering
  | [], [] => .eq
  | [], _ :: _ => .lt
  | _ :: _, [] => .gt
  | a :: as, b :: bs => if a < b then .lt else if b < a then .gt else compareBytes as bs

/-- The bytes of a text that count in an order. -/
def Order.view (order : Order) (text : Bytes) : Bytes :=
  let isLetter (byte : UInt8) : Bool := (48 ≤ byte && byte ≤ 57) || (65 ≤ byte && byte ≤ 90) ||
    (97 ≤ byte && byte ≤ 122)
  let text := if order.dictionaryOnly then text.filter fun byte => isLetter byte || isGap byte
    else if order.printableOnly then text.filter fun byte => 32 ≤ byte && byte < 127
    else text
  if order.foldsCase then text.map fun byte => if 97 ≤ byte && byte ≤ 122 then byte - 32 else byte
  else text

/-- Compare two texts in an order. -/
def Order.compare (order : Order) (a b : Bytes) : Ordering :=
  let result := if order.isHuman then
      let (x, y) := (leadingNumber a, leadingNumber b)
      let rank (amount : Amount) (text : Bytes) : Int :=
        if amount.count < 0 then -(unitRank text : Int)
        else if amount.count = 0 then 0 else (unitRank text : Int)
      let sign (amount : Amount) : Int := amount.count.sign
      ((Ord.compare (sign x) (sign y)).then (Ord.compare (rank x a) (rank y b))).then
        (compareAmounts x y)
    else if order.isNumeric then compareAmounts (leadingNumber a) (leadingNumber b)
    else if order.isMonth then Ord.compare (monthRank a) (monthRank b)
    else compareBytes (order.view a) (order.view b)
  if order.reverses then result.swap else result

/-- Compare two lines by keys. -/
def compareKeys (separator? : Option UInt8) : List Key → Bytes → Bytes → Ordering
  | [], _, _ => .eq
  | key :: rest, a, b =>
    (key.order.compare (key.part separator? a) (key.part separator? b)).then
      (compareKeys separator? rest a b)

/-! ### Reading keys -/

/-- Read a place of a key: its field and byte, and the letters behind them. -/
def readPlace? (byte : Nat) (text : Bytes) : Option (Nat × Nat × Bytes) := do
  let isDigit (byte : UInt8) : Bool := 48 ≤ byte && byte ≤ 57
  let digits := text.takeWhile isDigit
  let field ← number? digits
  match text.drop digits.length with
  | 46 :: rest =>
    let digits := rest.takeWhile isDigit
    let byte ← number? digits
    return (field, byte, rest.drop digits.length)
  | rest => return (field, byte, rest)

/-- Read a key. One without letters has the order of the whole. -/
def readKey? (whole : Order) (text : Bytes) : Option Key := do
  let (first, second?) := match Bytes.cut? (· = 44) text with
    | some (first, second) => (first, some second)
    | none => (text, none)
  let letters (text : Bytes) : List Char := text.map fun byte => Char.ofNat byte.toNat
  let (field, byte, startLetters) ← readPlace? 1 first
  if field = 0 || byte = 0 then none
  else
    let stop? ← match second? with
      | none => some none
      | some second => do
        let (field, byte, stopLetters) ← readPlace? 0 second
        if field = 0 then none else some (some (field, byte, letters stopLetters))
    let stopLetters := (stop?.map (·.2.2)).getD []
    let all := letters startLetters ++ stopLetters
    let order := if all.isEmpty then whole else all.foldl Order.with {}
    let inherits := all.isEmpty && whole.skipsBlanks
    return {
      start := { field, byte, skipsBlanks := inherits || (letters startLetters).contains 'b' }
      stop? := stop?.map fun (field, byte, letters) =>
        { field, byte, skipsBlanks := inherits || letters.contains 'b' }
      order }

end Sorting

open Sorting in
/-- Write the lines of files in an order. -/
def sort : Work := fun task => do
  let (options, paths) ← task.read {
    letters := "bdfghiMnrVk:t:uscCmo:zS:T:R", status := 2,
    names := [("numeric-sort", 'n'), ("reverse", 'r'), ("unique", 'u'), ("key", 'k'),
      ("field-separator", 't'), ("ignore-case", 'f'), ("ignore-leading-blanks", 'b'),
      ("stable", 's'), ("check", 'c'), ("merge", 'm'), ("output", 'o'), ("zero-terminated", 'z'),
      ("general-numeric-sort", 'g'), ("human-numeric-sort", 'h'), ("month-sort", 'M'),
      ("dictionary-order", 'd'), ("ignore-nonprinting", 'i')] }
  let whole := (options.map (·.letter)).foldl Order.with {}
  let separator? ← match argumentOf? 't' options with
    | none => pure none
    | some [byte] => pure (some byte)
    | some [92, 48] => pure (some 0)
    | some [] => task.fail (Bytes.ofString "empty tab") 2
    | some text => task.fail (Bytes.ofString "multi-character tab " ++ quoted text) 2
  let keys ← (options.filter (·.letter = 'k')).mapM fun option => do
    match readKey? whole option.argument with
    | some key => pure key
    | none => task.fail (Bytes.ofString "invalid field specification " ++ quoted option.argument) 2
  let ending : UInt8 := if has 'z' options then 0 else 10
  let mut lines : List Bytes := []
  for path in Task.inputs paths do
    let content? ← if path = standardInput then do
        pure (← Program.readAll 0).toOption
      else match ← Program.openPath path { reads := true } with
        | .error errno =>
          task.fail (Bytes.ofString "cannot read: " ++ quotedIfNeeded path ++
            Bytes.ofString (": " ++ errno.libraryText)) 2
        | .ok descriptor => do
          match ← Program.readAll descriptor with
          | .ok content => pure (some content)
          | .error errno =>
            task.fail (Bytes.ofString "read failed: " ++ quotedIfNeeded path ++
              Bytes.ofString (": " ++ errno.libraryText)) 2
    let pieces := (content?.getD []).splitOn (· = ending)
    lines := lines ++ if pieces.getLast? = some [] then pieces.dropLast else pieces
  let isUnique := has 'u' options
  let isStable := has 's' options || isUnique
  let first (a b : Bytes) : Ordering :=
    if keys.isEmpty then
      if whole = { reverses := whole.reverses } then .eq
      else whole.compare (if whole.skipsBlanks then a.dropWhile isGap else a)
        (if whole.skipsBlanks then b.dropWhile isGap else b)
    else compareKeys separator? keys a b
  let plain := keys.isEmpty && whole = { reverses := whole.reverses }
  let last (a b : Bytes) : Ordering :=
    let result := compareBytes a b
    if whole.reverses then result.swap else result
  let order (a b : Bytes) : Ordering :=
    let result := first a b
    if plain || (result = .eq && !isStable) then last a b else result
  if has 'c' options || has 'C' options then
    let pairs := (lines.zip (lines.drop 1)).zipIdx 2
    match pairs.find? fun ((a, b), _) =>
        if isUnique then order a b ≠ .lt else order a b = .gt with
    | none => return 0
    | some ((_, b), number) =>
      if has 'c' options then
        let path := paths.headD standardInput
        task.report (path ++ Bytes.ofString (":" ++ Decimal.ofNat number ++ ": disorder: ") ++ b)
      return 1
  else
    let sorted := lines.mergeSort fun a b => order a b ≠ .gt
    let sorted := if isUnique then
        (sorted.foldl (fun (kept : List Bytes) line => match kept with
          | previous :: _ => if order previous line = .eq then kept else line :: kept
          | [] => [line]) []).reverse
      else sorted
    let output := sorted.flatMap (· ++ [ending])
    match argumentOf? 'o' options with
    | none =>
      task.put output
      return 0
    | some path =>
      match ← Program.openPath path { writes := true, creates := true, truncates := true } with
      | .error errno =>
        task.fail (Bytes.ofString "open failed: " ++ quotedIfNeeded path ++
          Bytes.ofString (": " ++ errno.libraryText)) 2
      | .ok descriptor =>
        let _ ← Program.write descriptor output
        return 0

end Relocation.Utility
