import Relocation.Utility.Options

/-!
# Replacing bytes

The utility that replaces, deletes or squeezes bytes. The bytes are listed in sets, which
have ranges, classes and repetitions.
-/

namespace Relocation.Utility

open Machine (Program)

namespace Replace

/-! ### Sets -/

/-- An item of a set. -/
inductive Item where
  | bytes (bytes : Bytes)
  /-- A byte so often, or as often as the set needs. -/
  | repeated (byte : UInt8) (count? : Option Nat)

/-- The bytes from one to another. -/
def range (first last : UInt8) : Bytes :=
  (List.range (last.toNat + 1 - first.toNat)).map fun i => first + i.toUInt8

/-- The bytes of a class. -/
def classBytes? (name : Bytes) : Option Bytes :=
  let lower := range 97 122
  let upper := range 65 90
  let digits := range 48 57
  let classes : List (String × Bytes) := [
    ("alnum", digits ++ upper ++ lower), ("alpha", upper ++ lower), ("blank", [9, 32]),
    ("cntrl", range 0 31 ++ [127]), ("digit", digits), ("graph", range 33 126), ("lower", lower),
    ("print", range 32 126),
    ("punct", range 33 47 ++ range 58 64 ++ range 91 96 ++ range 123 126),
    ("space", range 9 13 ++ [32]), ("upper", upper),
    ("xdigit", digits ++ range 65 70 ++ range 97 102)]
  (classes.find? fun entry => Bytes.ofString entry.1 = name).map (·.2)

/-- A byte of a set, with whether a backslash stood in front of it. -/
structure Letter where
  byte : UInt8
  isEscaped : Bool := false

/-- Whether a byte is an octal digit. -/
def isOctal (byte : UInt8) : Bool := 48 ≤ byte && byte ≤ 55

/-- The number that octal digits write. -/
def octalValue (digits : Bytes) : Nat :=
  digits.foldl (fun value digit => 8 * value + (digit.toNat - 48)) 0

/-- The letters of a set. -/
def lettersOf : Nat → Bytes → List Letter
  | 0, _ => []
  | _, [] => []
  | fuel + 1, 92 :: byte :: rest =>
    if isOctal byte then
      let digits := byte :: (rest.takeWhile isOctal).take 2
      let digits := if 255 < octalValue digits then digits.dropLast else digits
      ⟨(octalValue digits).toUInt8, true⟩ :: lettersOf fuel (rest.drop (digits.length - 1))
    else
      let named : List (UInt8 × UInt8) :=
        [(97, 7), (98, 8), (102, 12), (110, 10), (114, 13), (116, 9), (118, 11)]
      ⟨(named.lookup byte).getD byte, true⟩ :: lettersOf fuel rest
  | fuel + 1, byte :: rest => ⟨byte, false⟩ :: lettersOf fuel rest

/-- Whether a letter is a byte that stands for itself. -/
def Letter.is (byte : UInt8) (letter : Letter) : Bool := letter.byte = byte && !letter.isEscaped

/-- What stands up to a mark with a bracket behind it, and what follows. -/
def upTo? (mark : UInt8) : List Letter → Option (List Letter × List Letter)
  | [] => none
  | letter :: rest =>
    match rest with
    | next :: others =>
      if letter.is mark && next.is 93 then some ([], others)
      else (upTo? mark rest).map fun (inner, behind) => (letter :: inner, behind)
    | [] => none

/-- The number of a repetition, which is octal behind a zero. -/
def countOf? (digits : Bytes) : Option (Option Nat) :=
  if digits.isEmpty then some none
  else if digits.head? = some 48 then
    if digits.all isOctal then some ((some (octalValue digits)).filter (· ≠ 0)) else none
  else (number? digits).map some

/-- The repetition that begins letters behind a bracket. -/
def repetition? (letters : List Letter) : Option (Item × List Letter) :=
  match letters with
  | letter :: star :: rest =>
    if star.is 42 then
      let digits := rest.takeWhile fun letter => !letter.is 93
      match rest.drop digits.length, countOf? (digits.map (·.byte)) with
      | _ :: behind, some count? => some (.repeated letter.byte count?, behind)
      | _, _ => none
    else none
  | _ => none

/-- The class or the repetition that letters begin with. -/
def bracket? (letters : List Letter) : Option (Except Bytes (Item × List Letter)) :=
  match letters with
  | first :: second :: rest =>
    if !first.is 91 then none
    else if second.is 58 then
      match upTo? 58 rest with
      | some (name, behind) =>
        let name := name.map (·.byte)
        match classBytes? name with
        | some bytes => some (.ok (.bytes bytes, behind))
        | none => some (.error (Bytes.ofString "invalid character class " ++ quoted name))
      | none => none
    else if second.is 61 then
      match upTo? 61 rest with
      | some ([letter], behind) => some (.ok (.bytes [letter.byte], behind))
      | some (name, _) =>
        some (.error (name.map (·.byte) ++
          Bytes.ofString ": equivalence class operand must be a single character"))
      | none => none
    else (repetition? (second :: rest)).map .ok
  | _ => none

/-- The items of a set. -/
def items : Nat → List Letter → Except Bytes (List Item)
  | 0, _ => .ok []
  | _, [] => .ok []
  | fuel + 1, letter :: rest => do
    match bracket? (letter :: rest) with
    | some (.error message) => .error message
    | some (.ok (item, behind)) => return item :: (← items fuel behind)
    | none =>
      match rest with
      | dash :: last :: behind =>
        if dash.is 45 then
          if last.byte < letter.byte then
            .error (Bytes.ofString "range-endpoints of '" ++ [letter.byte, 45, last.byte] ++
              Bytes.ofString "' are in reverse collating sequence order")
          else return .bytes (range letter.byte last.byte) :: (← items fuel behind)
        else return .bytes [letter.byte] :: (← items fuel rest)
      | _ => return .bytes [letter.byte] :: (← items fuel rest)

/-- The items of a set given as text. -/
def itemsOf (text : Bytes) : Except Bytes (List Item) :=
  items (text.length + 1) (lettersOf (text.length + 1) text)

/-- The bytes of a set, of which one repetition may fill it up to a length. -/
def spelledOut (length : Nat) (items : List Item) : Bytes :=
  let fixed := (items.map fun
    | .bytes bytes => bytes.length
    | .repeated _ count? => count?.getD 0).foldl (· + ·) 0
  items.flatMap fun
    | .bytes bytes => bytes
    | .repeated byte count? => List.replicate (count?.getD (length - fixed)) byte

/-- The bytes that are not in a set, in their order. -/
def complement (set : Bytes) : Bytes :=
  (range 0 255).filter fun byte => !set.contains byte

/-! ### Tables -/

/-- What becomes of each byte: another byte, or nothing. -/
abbrev Table := Array (Option UInt8)

/-- The table that changes nothing. -/
def identityTable : Table := (range 0 255).toArray.map some

/-- The table that replaces the bytes of a set by those of another one. -/
def replacing (first second : Bytes) : Table :=
  (first.zip second).foldl (fun table (old, new) => table.set! old.toNat (some new)) identityTable

/-- The table that deletes the bytes of a set. -/
def deleting (set : Bytes) : Table :=
  set.foldl (fun table byte => table.set! byte.toNat none) identityTable

/-- Whether each byte is in a set. -/
def membership (set : Bytes) : Array Bool :=
  set.foldl (fun table byte => table.set! byte.toNat true) (Array.replicate 256 false)

/-- Apply a table to bytes, and write a byte of a set only once where it follows itself. It gives
the last byte that was written. -/
def apply (table : Table) (squeezed : Array Bool) (last? : Option UInt8) (bytes : Bytes) :
    Bytes × Option UInt8 :=
  let (done, last?) := bytes.foldl (fun (done, last?) byte =>
    match table[byte.toNat]?.join with
    | none => (done, last?)
    | some new =>
      if last? = some new && (squeezed[new.toNat]?).getD false then (done, last?)
      else (new :: done, some new)) (([] : Bytes), last?)
  (done.reverse, last?)

/-- Write what is read with its bytes replaced, deleted and squeezed. -/
def copy (task : Task) (table : Table) (squeezed : Array Bool) : Nat → Option UInt8 → Program Nat
  | 0, _ => return 0
  | fuel + 1, last? => do
    match ← Program.read 0 with
    | .error errno => task.fail (Bytes.ofString ("read error: " ++ errno.libraryText))
    | .ok [] => return 0
    | .ok piece =>
      let (bytes, last?) := apply table squeezed last? piece
      task.put bytes
      copy task table squeezed fuel last?

end Replace

open Replace in
/-- Replace, delete or squeeze bytes of the standard input. -/
def tr : Work := fun task => do
  let (options, sets) ← task.read {
    letters := "cCdst", stopsEarly := true,
    names := [("complement", 'c'), ("delete", 'd'), ("squeeze-repeats", 's'),
      ("truncate-set1", 't')] }
  let deletes := has 'd' options
  let squeezes := has 's' options
  let complements := has 'c' options || has 'C' options
  let isTranslation := !deletes && !(squeezes && sets.length = 1)
  let least := if deletes = squeezes then 2 else 1
  let most := if deletes && !squeezes then 1 else 2
  if sets.length < least then
    match sets.getLast? with
    | none => task.misuse (Bytes.ofString "missing operand")
    | some last =>
      task.report (Bytes.ofString "missing operand after " ++ quoted last)
      let reason := if squeezes then
          "Two strings must be given when both deleting and squeezing repeats.\n"
        else "Two strings must be given when translating.\n"
      let _ ← Program.write 2 (Bytes.ofString reason)
      task.misuse []
  match sets[most]? with
  | some extra =>
    task.report (Bytes.ofString "extra operand " ++ quoted extra)
    if most = 1 && sets.length = 2 then
      let _ ← Program.write 2 (Bytes.ofString
        "Only one string may be given when deleting without squeezing repeats.\n")
    task.misuse []
  | none => pure ()
  let itemsAt (index : Nat) : Program (List Item) := do
    match itemsOf (sets[index]?.getD []) with
    | .ok items => pure items
    | .error message => task.fail message
  let firstItems ← itemsAt 0
  let first := spelledOut 0 firstItems
  let first := if complements then complement first else first
  let second := spelledOut first.length (← itemsAt 1)
  let table ← if deletes then pure (deleting first)
    else if !isTranslation then pure identityTable
    else do
      if second.isEmpty && !has 't' options then
        task.fail (Bytes.ofString "when not truncating set1, string2 must be non-empty")
      let fill := List.replicate (first.length - second.length) (second.getLast?.getD 0)
      pure (replacing first (if has 't' options then second else second ++ fill))
  let squeezed := if !squeezes then [] else if sets.length = 2 then second else first
  copy task table (membership squeezed) Program.unbounded none

end Relocation.Utility
