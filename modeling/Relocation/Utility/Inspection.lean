import Relocation.Utility.Files
import Relocation.Shell.Pattern

/-!
# Utilities that look at files

The programs that find files, tell about them and compare them.
-/

namespace Relocation.Utility

open Machine (Facts FileKind Program)

/-! ### Facts -/

/-- The permissions of three bits, of which the last can be marked by a letter. -/
def permissionLetters (bits : Nat) (isMarked : Bool) (mark : UInt8) : Bytes :=
  let last : UInt8 := if isMarked then if bits &&& 1 = 0 then mark - 32 else mark
    else if bits &&& 1 = 0 then 45 else 120
  [if bits &&& 4 = 0 then 45 else 114, if bits &&& 2 = 0 then 45 else 119, last]

/-- The kind and the permissions of a file in letters. -/
def modeLetters (facts : Facts) : Bytes :=
  let kind : UInt8 := match facts.kind with
    | .regular => 45
    | .directory => 100
    | .link => 108
    | .character => 99
    | .fifo => 112
  kind :: permissionLetters (facts.mode / 64) (facts.mode &&& 0o4000 ≠ 0) 115 ++
    permissionLetters (facts.mode / 8) (facts.mode &&& 0o2000 ≠ 0) 115 ++
    permissionLetters facts.mode (facts.mode &&& 0o1000 ≠ 0) 116

/-- The kind of a file in words. -/
def kindText (facts : Facts) : String :=
  match facts.kind with
  | .regular => if facts.size = 0 then "regular empty file" else "regular file"
  | .directory => "directory"
  | .link => "symbolic link"
  | .character => "character special file"
  | .fifo => "fifo"

/-- A number in octal digits. -/
def octalText (value : Nat) : Bytes := Bytes.ofString (String.ofList (Nat.toDigits 8 value))

/-- What a directive of a format stands for. -/
def factText (path : Bytes) (facts : Facts) (letter : UInt8) : Bytes :=
  match Char.ofNat letter.toNat with
  | 'n' => path
  | 'N' => quoted path
  | 'a' => octalText facts.mode
  | 'A' => modeLetters facts
  | 's' => numberText facts.size
  | 'F' => Bytes.ofString (kindText facts)
  | 'h' => numberText facts.names
  | 'i' => numberText facts.number
  | 'u' => [48]
  | 'g' => [48]
  | 'U' => Bytes.ofString "root"
  | 'G' => Bytes.ofString "root"
  | 'Y' => numberText (facts.changed / 1000000)
  | 'X' => numberText (facts.changed / 1000000)
  | 'Z' => numberText (facts.changed / 1000000)
  | 'b' => numberText ((facts.size + 4095) / 4096 * 8)
  | 'B' => numberText 512
  | 'o' => numberText 4096
  | '%' => [37]
  | _ => [63]

/-- A format with its directives replaced, and escapes if `expands` holds. -/
def formatFacts (path : Bytes) (facts : Facts) (expands : Bool) : Bytes → Bytes
  | [] => []
  | 37 :: letter :: rest => factText path facts letter ++ formatFacts path facts expands rest
  | 92 :: letter :: rest =>
    let named : List (UInt8 × UInt8) := [(110, 10), (116, 9), (92, 92)]
    match if expands then named.lookup letter else none with
    | some byte => byte :: formatFacts path facts expands rest
    | none => 92 :: letter :: formatFacts path facts expands rest
  | byte :: rest => byte :: formatFacts path facts expands rest

/-- Write facts about files. -/
def stat : Work := fun task => do
  let (options, paths) ← task.read {
    letters := "Lc:P:tf", names := [("dereference", 'L'), ("format", 'c'), ("printf", 'P')] }
  if paths.isEmpty then task.misuse (Bytes.ofString "missing operand")
  let mut status := 0
  for path in paths do
    match ← factsOf path (has 'L' options) with
    | .error errno =>
      task.reportAct "cannot statx" path errno
      status := 1
    | .ok facts =>
      match argumentOf? 'c' options, argumentOf? 'P' options with
      | some format, _ => task.putLine (formatFacts path facts false format)
      | none, some format => task.put (formatFacts path facts true format)
      | none, none =>
        task.putLine (formatFacts path facts true (Bytes.ofString
          "  File: %n\\n  Size: %s\\tBlocks: %b\\tIO Block: %o\\t%F\\nAccess: (0%a/%A)"))
  return status

/-! ### Finding files -/

/-- What is asked about a file. -/
inductive Question where
  | name (pattern : Bytes) (ignoresCase : Bool)
  | path (pattern : Bytes)
  | kind (letter : UInt8)
  | size (sign? : Option UInt8) (count unit : Nat)
  | isEmpty
  | permissions (mode : Nat)
  | newer (time : Nat)
  | constant (holds : Bool)
  | print (ending : Bytes)
  | delete
  | run (words : List Bytes)
  | prune
  | not (question : Question)
  | and (first second : Question)
  | or (first second : Question)

/-- Bounds for the depth of files, and whether directories come behind what is in them. -/
structure Bounds where
  least : Nat := 0
  most? : Option Nat := none
  isDepthFirst : Bool := false

/-- Whether a pattern matches a text, without regard to the case of letters if that is asked for. -/
def matchesName (pattern text : Bytes) (ignoresCase : Bool) : Bool :=
  let fold (text : Bytes) : Bytes :=
    if ignoresCase then text.map fun byte => if 65 ≤ byte && byte ≤ 90 then byte + 32 else byte
    else text
  (Shell.Pattern.ofBytes (fold pattern)).matchesAll (fold text)

/-- Whether a question does something. -/
def Question.acts : Question → Bool
  | .print _ => true
  | .delete => true
  | .run _ => true
  | .not question => question.acts
  | .and first second => first.acts || second.acts
  | .or first second => first.acts || second.acts
  | _ => false

/-- The facts of a path. -/
abbrev Find := StateT (List Bytes × Bounds) (Except String)

/-- Take the next word. -/
def takeWord (before : String) : Find Bytes := do
  match ← get with
  | (word :: rest, bounds) =>
    set (rest, bounds)
    return word
  | ([], _) => throw ("missing argument to `" ++ before ++ "'")

/-- Read a number that a word has to be. -/
def takeCount (before : String) : Find Nat := do
  let word ← takeWord before
  match number? word with
  | some number => return number
  | none => throw ("Expected a positive decimal integer argument to " ++ before)

/-- Take the words of a command up to a semicolon. -/
def takeCommand : Find (List Bytes) := do
  let (words, bounds) ← get
  let isEnd (word : Bytes) : Bool := word = [59] || word = [43]
  let command := words.takeWhile fun word => !isEnd word
  if command.length = words.length then throw "missing argument to `-exec'"
  set (words.drop (command.length + 1), bounds)
  return command

mutual

/-- Read alternatives. -/
def readFindChoice : Nat → Find Question
  | 0 => throw "too complex"
  | fuel + 1 => do
    let first ← readFindList fuel
    match ← get with
    | (word :: rest, bounds) =>
      if word = Bytes.ofString "-o" || word = Bytes.ofString "-or" then
        set (rest, bounds)
        return .or first (← readFindChoice fuel)
      else return first
    | _ => return first

/-- Read questions that all have to hold. -/
def readFindList : Nat → Find Question
  | 0 => throw "too complex"
  | fuel + 1 => do
    let first ← readFindItem fuel
    match ← get with
    | ([], _) => return first
    | (word :: rest, bounds) =>
      let isWord (text : String) : Bool := Bytes.ofString text = word
      if isWord "-o" || isWord "-or" || isWord ")" then return first
      else
        if isWord "-a" || isWord "-and" then set (rest, bounds)
        return .and first (← readFindList fuel)

/-- Read one question. -/
def readFindItem : Nat → Find Question
  | 0 => throw "too complex"
  | fuel + 1 => do
    match ← get with
    | ([], _) => return .constant true
    | _ =>
      let word ← takeWord ""
      let text := String.ofList (word.map fun byte => Char.ofNat byte.toNat)
      match text with
      | "!" => return .not (← readFindItem fuel)
      | "-not" => return .not (← readFindItem fuel)
      | "(" =>
        let inner ← readFindChoice fuel
        let _ ← takeWord "("
        return inner
      | "-name" => return .name (← takeWord text) false
      | "-iname" => return .name (← takeWord text) true
      | "-path" => return .path (← takeWord text)
      | "-type" => return .kind ((← takeWord text).headD 0)
      | "-empty" => return .isEmpty
      | "-true" => return .constant true
      | "-false" => return .constant false
      | "-print" => return .print [10]
      | "-print0" => return .print [0]
      | "-delete" =>
        modify fun (words, bounds) => (words, { bounds with isDepthFirst := true })
        return .delete
      | "-prune" => return .prune
      | "-exec" => return .run (← takeCommand)
      | "-depth" =>
        modify fun (words, bounds) => (words, { bounds with isDepthFirst := true })
        return .constant true
      | "-maxdepth" =>
        let count ← takeCount text
        modify fun (words, bounds) => (words, { bounds with most? := some count })
        return .constant true
      | "-mindepth" =>
        let count ← takeCount text
        modify fun (words, bounds) => (words, { bounds with least := count })
        return .constant true
      | "-perm" =>
        let word ← takeWord text
        return .permissions (word.foldl (fun value byte => 8 * value + (byte.toNat - 48)) 0)
      | "-size" =>
        let word ← takeWord text
        let (sign?, word) : Option UInt8 × Bytes := match word with
          | 43 :: rest => (some 43, rest)
          | 45 :: rest => (some 45, rest)
          | word => (none, word)
        let digits := word.takeWhile fun byte => 48 ≤ byte && byte ≤ 57
        let unit := match word.drop digits.length with
          | [99] => 1
          | [107] => 1024
          | [77] => 1048576
          | [119] => 2
          | _ => 512
        return .size sign? ((number? digits).getD 0) unit
      | _ => throw ("unknown predicate `" ++ text ++ "'")

end

/-- Answer a question about a file. It gives whether the answer is yes, and whether what is in it is
passed by. -/
def Question.ask (task : Task) (run : List Bytes → Program Bool) (path : Bytes) (facts : Facts) :
    Question → Program (Bool × Bool)
  | .name pattern ignoresCase => return (matchesName pattern (lastName path) ignoresCase, false)
  | .path pattern => return (matchesName pattern path false, false)
  | .kind letter =>
    return ((modeLetters facts).head? = some (if letter = 102 then 45 else letter), false)
  | .size sign? count unit =>
    let size := (facts.size + unit - 1) / unit
    return (match sign? with
      | some 43 => count < size
      | some _ => size < count
      | none => size = count, false)
  | .isEmpty => do
    if facts.kind = .directory then
      return (match ← namesIn path with
        | .ok names => names.isEmpty
        | .error _ => false, false)
    else return (facts.kind = .regular && facts.size = 0, false)
  | .permissions mode => return (facts.mode &&& 0o7777 = mode, false)
  | .newer time => return (time < facts.changed, false)
  | .constant holds => return (holds, false)
  | .print ending => do
    task.put (path ++ ending)
    return (true, false)
  | .delete => do
    let result ← if facts.kind = .directory then
        Program.request fun kernel process => kernel.removeDirectory process path
      else Program.request fun kernel process => kernel.remove process path
    return (result.isOk, false)
  | .run words => do
    let words := words.map fun word => if word = [123, 125] then path else word
    return (← run words, false)
  | .prune => return (true, true)
  | .not question => do
    let (answer, prunes) ← question.ask task run path facts
    return (!answer, prunes)
  | .and first second => do
    let (answer, prunes) ← first.ask task run path facts
    if answer then
      let (answer, others) ← second.ask task run path facts
      return (answer, prunes || others)
    else return (false, prunes)
  | .or first second => do
    let (answer, prunes) ← first.ask task run path facts
    if answer then return (true, prunes)
    else
      let (answer, others) ← second.ask task run path facts
      return (answer, prunes || others)

/-- Go through the files at and below a path. -/
def visit (task : Task) (run : List Bytes → Program Bool) (question : Question) (bounds : Bounds) :
    Nat → (depth : Nat) → Bytes → Program Nat
  | 0, _, _ => return 0
  | fuel + 1, depth, path => do
    match ← factsOf path false with
    | .error errno =>
      task.report (quoted path ++ Bytes.ofString (": " ++ errno.libraryText))
      return 1
    | .ok facts =>
      let askHere : Program Bool := do
        if depth < bounds.least then return false
        return (← question.ask task run path facts).2
      let prunes ← if bounds.isDepthFirst then pure false else askHere
      let mut status := 0
      if facts.kind = .directory && !prunes &&
          bounds.most?.all fun most => decide (depth < most) then
        match ← namesIn path with
        | .error _ => pure ()
        | .ok names =>
          for name in names do
            status := max status
              (← visit task run question bounds fuel (depth + 1) (inside path name))
      if bounds.isDepthFirst then
        let _ ← askHere
      return status

/-- Find files below directories. -/
def findFiles (runCommand : Task → List Bytes → Program Nat) : Work := fun task => do
  let isStart (word : Bytes) : Bool := match word with
    | 45 :: _ :: _ => false
    | [33] => false
    | [40] => false
    | _ => true
  let arguments := task.arguments.dropWhile fun word =>
    [[45, 72], [45, 76], [45, 80]].contains word
  let starts := arguments.takeWhile isStart
  let words := arguments.drop starts.length
  let starts := if starts.isEmpty then [Machine.dotName] else starts
  match (readFindChoice (8 * words.length + 8)).run (words, {}) with
  | .error message => task.fail (Bytes.ofString message)
  | .ok (_, (extra :: _, _)) =>
    task.fail (Bytes.ofString "paths must precede expression: `" ++ extra ++ [39])
  | .ok (question, ([], bounds)) =>
    let question := if question.acts then question else .and question (.print [10])
    let run (words : List Bytes) : Program Bool := do
      return (← runCommand task words) = 0
    let mut status := 0
    for start in starts do
      status := max status (← visit task run question bounds maxDepth 0 start)
    return status

/-! ### Comparing and copying -/

/-- Compare two files byte by byte. -/
def cmp : Work := fun task => do
  let (options, paths) ← task.read {
    letters := "slb", status := 2, names := [("silent", 's'), ("quiet", 's'), ("verbose", 'l')] }
  match paths with
  | [] => task.misuse (Bytes.ofString "missing operand after 'cmp'") 2
  | first :: rest =>
    let second := rest.headD standardInput
    match ← task.readFile? first with
    | none => return 2
    | some a =>
      match ← task.readFile? second with
      | none => return 2
      | some b =>
        let pairs := (a.zip b).zipIdx
        let different := pairs.filter fun pair => pair.1.1 ≠ pair.1.2
        let isQuiet := has 's' options
        match different with
        | ((x, y), index) :: _ =>
          if has 'l' options then
            for ((x, y), index) in different do
              task.putLine (numberText (index + 1) ++ [32] ++ padLeft 3 (octalText x.toNat) ++
                [32] ++
                padLeft 3 (octalText y.toNat))
          else if !isQuiet then
            let _ := (x, y)
            task.putLine (first ++ [32] ++ second ++ Bytes.ofString (" differ: byte " ++
              Decimal.ofNat (index + 1) ++ ", line " ++
              Decimal.ofNat ((a.take index).count 10 + 1)))
          return 1
        | [] =>
          if a.length = b.length then return 0
          else
            let shorter := if a.length < b.length then first else second
            let length := min a.length b.length
            if !isQuiet then
              let text := if length = 0 then " which is empty"
                else " after byte " ++ Decimal.ofNat length ++
                  if (a.take length).getLast? = some 10 then
                    ", line " ++ Decimal.ofNat ((a.take length).count 10)
                  else ", in line " ++ Decimal.ofNat ((a.take length).count 10 + 1)
              task.report (Bytes.ofString "EOF on " ++ shorter ++ Bytes.ofString text)
            return 1

/-- Make an empty file or directory with a name that nothing has. -/
def mktemp : Work := fun task => do
  let (options, operands) ← task.read {
    letters := "duqp:t", names := [("directory", 'd'), ("dry-run", 'u'), ("quiet", 'q'),
      ("tmpdir", 'p')] }
  let template := operands.headD (Bytes.ofString "tmp.XXXXXXXXXX")
  let place := argumentOf? 'p' options
  let front := (task.valueOf? "TMPDIR").getD (Bytes.ofString "/tmp")
  let isPlaced := operands.isEmpty || place.isSome || has 't' options
  let template := if isPlaced then inside (place.getD front) template else template
  let marks := template.reverse.takeWhile (· = 88)
  if marks.length < 3 then
    task.fail (Bytes.ofString "too few X's in template " ++ quoted template)
  let seed ← Program.look fun process kernel => kernel.now + 7919 * process
  let letters := (Machine.arbitraryBytes marks.length seed.toUInt64 []).map fun byte =>
    97 + byte % 26
  let path := template.take (template.length - marks.length) ++ letters
  let result ← if has 'd' options then
      Program.request fun kernel process => kernel.makeDirectory process path 0o700
    else match ← Program.openPath path { writes := true, creates := true, isNew := true } 0o600 with
      | .ok descriptor => do
        Program.close descriptor
        pure (.ok ())
      | .error errno => pure (.error errno)
  match result with
  | .ok () =>
    task.putLine path
    return 0
  | .error errno =>
    let kind := if has 'd' options then "directory" else "file"
    task.fail (Bytes.ofString ("failed to create " ++ kind ++ " via template ") ++
      quoted template ++
      Bytes.ofString (": " ++ errno.libraryText))

/-- The factors of a number from one on. -/
def factorsFrom : Nat → Nat → Nat → List Nat
  | 0, _, number => [number]
  | fuel + 1, factor, number =>
    if number < factor * factor then if 1 < number then [number] else []
    else if number % factor = 0 then factor :: factorsFrom fuel factor (number / factor)
    else factorsFrom fuel (factor + 1) number

/-- Write the prime factors of numbers. -/
def factor : Work := fun task => do
  let words ← if task.arguments.isEmpty then do
      let (content, _) ← task.readTogether []
      pure ((content.splitOn fun byte => byte = 32 || byte = 9 || byte = 10).filter
        fun word => !word.isEmpty)
    else pure task.arguments
  let mut status := 0
  for word in words do
    match number? word with
    | some number =>
      let factors := factorsFrom 10000000 2 number
      task.putLine (numberText number ++ [58] ++
        factors.flatMap fun factor => 32 :: numberText factor)
    | none =>
      task.report (quoted word ++ Bytes.ofString " is not a valid positive integer")
      status := 1
  return status

/-- A size with a unit. -/
def blockAmount (task : Task) (word : Bytes) : Program Nat := do
  let digits := word.takeWhile fun byte => 48 ≤ byte && byte ≤ 57
  let unit? := match word.drop digits.length with
    | [] => some 1
    | [99] => some 1
    | [119] => some 2
    | [98] => some 512
    | [107] => some 1024
    | [75] => some 1024
    | [77] => some 1048576
    | _ => none
  match number? digits, unit? with
  | some number, some unit => return number * unit
  | _, _ => task.fail (Bytes.ofString "invalid number: " ++ quoted word)

/-- Copy blocks, at most so many. It gives how many full and partial blocks there were, and how many
bytes. -/
def copyBlocks (task : Task) (input output size : Nat) : Nat → (full partials bytes : Nat) →
    Program (Nat × Nat × Nat)
  | 0, full, partials, bytes => return (full, partials, bytes)
  | fuel + 1, full, partials, bytes => do
    match ← Program.read input size with
    | .error errno =>
      task.reportFile (Bytes.ofString "error reading") errno
      return (full, partials, bytes)
    | .ok [] => return (full, partials, bytes)
    | .ok piece =>
      match ← Program.write output piece with
      | .error errno =>
        task.fail (Bytes.ofString ("error writing: " ++ errno.libraryText))
      | .ok () =>
        let isFull := piece.length = size
        copyBlocks task input output size fuel (if isFull then full + 1 else full)
          (if isFull then partials else partials + 1) (bytes + piece.length)

/-- Copy blocks of a file. -/
def dd : Work := fun task => do
  let settings := task.arguments.filterMap fun word => Bytes.cut? (· = 61) word
  let setting? (name : String) : Option Bytes := settings.lookup (Bytes.ofString name)
  let amount (name : String) : Program (Option Nat) := do
    match setting? name with
    | some word => return some (← blockAmount task word)
    | none => return none
  let size := ((← amount "bs").orElse fun _ => none).getD 512
  let count? ← amount "count"
  let skip := (← amount "skip").getD 0
  let seek := (← amount "seek").getD 0
  let conversions := ((setting? "conv").getD []).splitOn (· = 44)
  let keeps := conversions.contains (Bytes.ofString "notrunc")
  let openOr (path : Bytes) (mode : Machine.Mode) : Program Nat := do
    match ← Program.openPath path mode with
    | .ok descriptor => return descriptor
    | .error errno =>
      task.fail (Bytes.ofString "failed to open " ++ quoted path ++
        Bytes.ofString (": " ++ errno.libraryText))
  let input ← match setting? "if" with
    | some path => openOr path { reads := true }
    | none => pure 0
  let output ← match setting? "of" with
    | some path => do
      let descriptor ← openOr path
        { writes := true, creates := true, truncates := !keeps && seek = 0 }
      if seek ≠ 0 then
        if !keeps then
          let _ ← Program.request fun kernel process => kernel.truncate process path (seek * size)
        Program.modify fun process kernel => match kernel.openFile? process descriptor with
          | some (number, _) => kernel.mapOpenFile number fun file =>
            { file with position := seek * size }
          | none => kernel
      pure descriptor
    | none => pure 1
  let nothing ← Program.openPath (Bytes.ofString "/dev/null") { writes := true }
  if skip ≠ 0 then
    let _ ← copyBlocks task input (nothing.toOption.getD 2) size skip 0 0 0
  let (full, partials, bytes) ←
    copyBlocks task input output size (count?.getD Program.unbounded) 0 0 0
  if (setting? "status").isNone then
    let records := Decimal.ofNat full ++ "+" ++ Decimal.ofNat partials ++ " records "
    let _ ← Program.write 2 (Bytes.ofString (records ++ "in\n" ++ records ++ "out\n" ++
      Decimal.ofNat bytes ++ (if bytes = 1 then " byte" else " bytes") ++
      " copied, 0.0001 s, 1.0 MB/s\n"))
  return 0

end Relocation.Utility
