import Relocation.Shell.Field
import Relocation.Shell.Glob
import Relocation.Shell.Job
import Relocation.Shell.Setting

/-!
# Expanding words

A word is expanded from left to right. What comes out remembers which bytes were quoted,
where quotation marks stood, and which parts came out of expansions, so that it can then
be split into fields, compared with names of files, or used as a pattern.
-/

namespace Relocation.Shell

open Machine (Kernel Program)

namespace Expansion

/-- How a word is expanded. -/
structure Manner where
  /-- Whether the text is going to be split into fields. -/
  splits : Bool := false
  isQuoted : Bool := false
  /-- Whether the word stands in the expansion of a parameter, whose place it takes. -/
  inExpansion : Bool := false
  /-- Whether the word is an assignment, in which a tilde can follow a colon or the first equals
  sign. -/
  isAssignment : Bool := false
  /-- Whether the equals sign of the assignment was passed. -/
  isBehindEquals : Bool := false

/-- Whether text stands between quotation marks. -/
inductive Quotes where
  | outside
  | inside
  /-- Between the quotation marks around all parameters, which leave no trace. -/
  | aroundList
  deriving DecidableEq

/-! ### Values -/

/-- The bytes of a value. In quotes, those that could have a meaning stand for themselves. -/
def marksOf (isQuoted : Bool) (bytes : Bytes) : List Mark :=
  bytes.map fun byte =>
    if isQuoted && (Parser.isControl .double byte || byte = 92) then .escaped byte else .plain byte

/-- The text with a value added, which can be split unless it is quoted. -/
def addValue (isQuoted : Bool) (bytes : Bytes) (out : Expanded) : Expanded :=
  let start := out.size
  let out := out.push (marksOf isQuoted bytes)
  if isQuoted then out else out.record start

/-- The bytes of a decimal number. -/
def numberText (value : Int) : Bytes := Bytes.ofString (Decimal.ofInt value)

/-- The index of a positional parameter, if there can be one. The digits are read as an integer of
32 bits. -/
def index? (digits : Bytes) : Option Nat :=
  let value : Nat := digits.foldl (fun value byte => 10 * value + (byte.toNat - 48)) 0
  let index := Int.bmod (min value 0x7fffffffffffffff) 0x100000000
  if index < 0 then none else some index.toNat

/-- What stands between the parameters when they are all expanded. -/
def joiner (shell : State) (splits isQuoted isSeparate : Bool) : Bytes :=
  if splits && isQuoted && isSeparate then [0]
  else match shell.valueOf? "IFS" with
    | none => [32]
    | some separators => if splits && !isQuoted then [0] else separators.take 1

/-- The value of a parameter, if it is set. -/
def value? (shell : State) (splits isQuoted : Bool) (name : Bytes) : Option Bytes :=
  match name with
  | [] => none
  | first :: _ =>
    if isDigit first then
      match index? name with
      | none => none
      | some 0 => some shell.name
      | some (index + 1) => shell.parameters[index]?
    else if first = 36 then some (numberText shell.mainProcess)
    else if first = 63 then some (numberText shell.status)
    else if first = 35 then some (numberText shell.parameters.length)
    else if first = 33 then shell.lastBackground?.map fun process => numberText process
    else if first = 45 then some (Setting.shown shell)
    else if first = 64 || first = 42 then
      some ((joiner shell splits isQuoted (first = 64)).intercalate shell.parameters)
    else shell.value? name

/-- Report a parameter that is not set. -/
def reportUnset {α : Type} (name : Bytes) : Run α := faultAbout name "parameter not set"

/-- The text with a region from a place on for the expansion of a parameter. -/
def recordParameter (shell : State) (isQuoted : Bool) (name : Bytes) (start : Nat)
    (out : Expanded) :
    Expanded :=
  if !isQuoted then out.record start
  else if name = [64] && !shell.parameters.isEmpty then out.record start true
  else out

/-! ### Tildes -/

/-- The home directory in a line of the list of users, if it is that of a user. -/
def homeIn? (name line : Bytes) : Option Bytes :=
  match line.splitOn (· = 58) with
  | user :: _ :: _ :: _ :: _ :: home :: _ => if user = name then some home else none
  | _ => none

/-- The home directory of a user. -/
def homeOf? (name : Bytes) : Run (Option Bytes) := do
  let content ← (Program.look fun process kernel =>
    match (kernel.find process (Bytes.ofString "/etc/passwd")).toOption.bind kernel.contentAt? with
    | some (.regular bytes) => bytes.toList
    | _ => [] : Program Bytes)
  return (content.splitOn (· = 10)).findSome? (homeIn? name)

/-- The directory that a tilde with a name behind it stands for. -/
def home? (name : Bytes) : Run (Option Bytes) := do
  if name.isEmpty then return (← get).valueOf? "HOME" else homeOf? name

/-- Expand text as it stands in a word, and home directories where they can stand. It gives the
manner in which the word goes on. -/
def expandPlain (inQuotes follows : Bool) : Nat → Manner → (canBegin : Bool) → Bytes → Expanded →
    Run (Manner × Expanded)
  | 0, manner, _, _, out => return (manner, out)
  | _, manner, _, [], out => return (manner, out)
  | fuel + 1, manner, canBegin, text, out => do
    let isTilde := canBegin && text.head? = some 126
    let name := (text.drop 1).takeWhile fun byte =>
      byte ≠ Machine.slashByte && !(manner.isAssignment && byte = 58)
    let rest := text.drop (name.length + 1)
    match ← if isTilde && !(rest.isEmpty && follows) then home? name else pure none with
    | some home =>
      expandPlain inQuotes follows fuel manner false rest (out.push (marksOf true home))
    | none =>
      let isBreak (byte : UInt8) : Bool :=
        manner.isAssignment && (byte = 58 || (byte = 61 && !manner.isBehindEquals))
      let before := text.takeWhile fun byte => !isBreak byte
      let run := text.take (before.length + 1)
      let start := out.size
      let out := out.push (run.map .plain)
      let canSplit := manner.inExpansion && !manner.isQuoted && !inQuotes
      let manner := { manner with
        isBehindEquals := manner.isBehindEquals || run.getLast? = some 61 && manner.isAssignment }
      expandPlain inQuotes follows fuel manner true (text.drop run.length)
        (if canSplit then out.record start else out)

/-! ### Commands -/

/-- A pair of descriptors for the ends of a new pipe. -/
def makePipe : Program (Nat × Nat) :=
  Program.call fun process kernel =>
    let ((source, sink), kernel) := kernel.makePipe
    let (first, kernel) := kernel.addDescriptor process 0 source false
    let (second, kernel) := kernel.addDescriptor process 0 sink false
    ((first, second), kernel)

/-- Let a descriptor take the place of another one. -/
def moveDescriptor (source target : Nat) : Program Unit :=
  Program.modify fun process kernel =>
    if source = target then kernel
    else match kernel.slot? process source with
      | none => kernel
      | some slot =>
        let kernel := kernel.setDescriptor process target (some { slot with isPrivate := false })
        kernel.setDescriptor process source none

/-- The output of a command that is run in a child, without the line ends at its end. -/
def capture (evaluator : Evaluator) (body : Command) : Run Bytes := do
  match body with
  | .nothing => return []
  | body =>
    let (source, sink) ← (makePipe : Program _)
    let job ← Jobs.add
    let child ← Jobs.start evaluator false false do
      Program.close source
      moveDescriptor sink 1
      let _ ← evaluator.command body { isLast := true }
    Jobs.join job child false
    Program.close sink
    let output ← (Program.readAll source : Program _)
    Program.close source
    let status ← Jobs.waitFor job
    modify ({ · with captureStatus := status })
    return (((output.toOption.getD []).filter (· ≠ 0)).reverse.dropWhile (· = 10)).reverse

/-! ### Arithmetic -/

/-- The signal of a process whose division has no result. -/
def overflowSignal : Signal := 8

/-- The value of an arithmetic expression, whose assignments are made. -/
def evaluateArithmetic (text : Bytes) : Run Int := do
  let report (message : String) : Run Int :=
    fault (Bytes.ofString ("arithmetic expression: " ++ message ++ ": \"") ++ text ++ [34])
  let shell ← get
  let store : Arithmetic.Store := {
    assigned := [], before := shell.value?
    isReadOnly := fun name => (shell.lookup name).any (·.isReadOnly) }
  let outcome := ((Arithmetic.read text).evaluate true).run store
  let keep (store : Arithmetic.Store) : Run Unit := do
    for (name, value) in store.assigned.reverse do
      Variables.assign name (numberText value)
  match outcome with
  | .ok value store =>
    keep store
    return value
  | .error fault store => do
    keep store
    match fault with
    | .mistake mistake => report mistake.message
    | .divisionByZero => report "division by zero"
    | .illegalNumber number => illegalNumber number
    | .readOnly name => Variables.readOnly name
    | .overflow =>
      let _ ← (Program.modify fun process kernel => kernel.signal process overflowSignal :
        Program _)
      Run.leave (128 + overflowSignal)

/-! ### Words -/

/-- Whether the rest of a word begins with all parameters and a quotation mark. -/
def startsWithList : Word → Bool
  | .parameter [64] .value :: .mark :: _ => true
  | _ => false

mutual

/-- Expand the segments of a word. -/
def expandWord (evaluator : Evaluator) : Word → Manner → Quotes → (canBegin : Bool) → Expanded →
    Run Expanded
  | [], _, _, _, out => return out
  | segment :: rest, manner, quotes, canBegin, out => do
    let inner := { manner with isQuoted := manner.isQuoted || quotes ≠ .outside }
    match segment with
    | .plain text =>
      let (manner, out) ←
        expandPlain (quotes ≠ .outside) (!rest.isEmpty) (text.length + 2) manner canBegin text out
      expandWord evaluator rest manner quotes false out
    | .escaped text =>
      expandWord evaluator rest manner quotes false (out.push (text.map .escaped))
    | .mark =>
      match quotes with
      | .outside =>
        if startsWithList rest then expandWord evaluator rest manner .aroundList false out
        else expandWord evaluator rest manner .inside false (out.push [.quote])
      | .inside => expandWord evaluator rest manner .outside false (out.push [.quote])
      | .aroundList => expandWord evaluator rest manner .outside false out
    | .parameter name form =>
      let out ← expandForm evaluator form name inner out
      expandWord evaluator rest manner quotes false out
    | .command body =>
      let output ← capture evaluator body
      expandWord evaluator rest manner quotes false (addValue inner.isQuoted output out)
    | .arithmetic expression =>
      let text ← expandWord evaluator expression {} .outside false {}
      let value ← evaluateArithmetic text.string
      expandWord evaluator rest manner quotes false (addValue inner.isQuoted (numberText value) out)

/-- Expand a parameter. -/
def expandForm (evaluator : Evaluator) : Form → Bytes → Manner → Expanded → Run Expanded
  | .value, name, manner, out => do
    let shell ← get
    let start := out.size
    match value? shell manner.splits manner.isQuoted name with
    | some value =>
      return recordParameter shell manner.isQuoted name start
        (out.push (marksOf manner.isQuoted value))
    | none => if shell.hasOption 'u' then reportUnset name else return out
  | .length, name, manner, out => do
    let shell ← get
    match value? shell false manner.isQuoted name with
    | some value =>
      let start := out.size
      return recordParameter shell manner.isQuoted name start
        (out.push (marksOf manner.isQuoted (numberText value.length)))
    | none =>
      if shell.hasOption 'u' then reportUnset name
      else
        let start := out.size
        return recordParameter shell manner.isQuoted name start (out.push [.plain 48])
  | .trim atEnd longest pattern, name, manner, out => do
    let shell ← get
    let start := out.size
    match value? shell manner.splits manner.isQuoted name with
    | none => if shell.hasOption 'u' then reportUnset name else return out
    | some value =>
      let pattern ← expandWord evaluator pattern {} .outside true {}
      let pattern := Mark.toPattern (pattern.marks.toList.takeWhile (· ≠ .plain 0))
      let marks := marksOf manner.isQuoted value
      let kept := if atEnd then marks.take (Pattern.trimEnd pattern longest marks)
        else marks.drop (Pattern.trimStart pattern longest marks)
      let out := { out with regions := Expanded.regionsTo start out.regions }
      return recordParameter (← get) manner.isQuoted name start
        (out.push kept)
  | .orElse fallback testsEmpty word, name, manner, out => do
    let shell ← get
    let start := out.size
    let splits := manner.splits && fallback ≠ .alternative
    let value := value? shell splits manner.isQuoted name
    let isSet := value.any fun value => !(testsEmpty && value.isEmpty)
    let asValue (out : Expanded) : Run Expanded :=
      return recordParameter (← get) manner.isQuoted name start
        (out.push (marksOf manner.isQuoted (value.getD [])))
    match fallback, isSet with
    | .alternative, true =>
      expandWord evaluator word { manner with inExpansion := true } .outside true out
    | .alternative, false => return recordParameter shell manner.isQuoted name start out
    | _, true => asValue out
    | .default, false =>
      expandWord evaluator word { manner with inExpansion := true } .outside true out
    | .assign, false =>
      let expanded ← expandWord evaluator word {} .outside true out
      let value := (Mark.bytes (expanded.marks.toList.drop start)).takeWhile (· ≠ 0)
      Variables.assign name value
      let out := expanded.cut start
      let shell ← get
      let value := (value? shell manner.splits manner.isQuoted name).getD []
      return recordParameter shell manner.isQuoted name start
        (out.push (marksOf manner.isQuoted value))
    | .require, false =>
      let message ← expandWord evaluator word {} .outside true {}
      if word.isEmpty then
        faultAbout name (if testsEmpty then "parameter not set or null" else "parameter not set")
      else fault (name ++ Bytes.ofString ": " ++ message.string)
  | .bad _, _, _, _ => faultOf "Bad substitution"

end

/-! ### Uses of words -/

/-- Expand a word to one text. -/
def text (evaluator : Evaluator) (word : Word) : Run Bytes := do
  return (← expandWord evaluator word {} .outside true {}).string

/-- Expand an assignment, with its name. -/
def assignment (evaluator : Evaluator) (word : Word) : Run Bytes := do
  return (← expandWord evaluator word { isAssignment := true } .outside false {}).string

/-- Expand a text that is quoted as a whole. -/
def document (evaluator : Evaluator) (word : Word) : Run Bytes := do
  return (← expandWord evaluator word { isQuoted := true } .outside false {}).string

/-- Expand a word to a pattern. -/
def pattern (evaluator : Evaluator) (word : Word) : Run Pattern := do
  let expanded ← expandWord evaluator word {} .outside true {}
  return Pattern.ofMarks (expanded.marks.toList.takeWhile (· ≠ .plain 0))

/-- The words that a field stands for: the files that it matches, or itself. -/
def wordsOf (field : List Mark) : Run (List Bytes) := do
  let plain := Mark.bytes field
  if (← get).hasOption 'f' || !Glob.holdsMeta plain then return [plain]
  else match ← (Program.look fun process kernel => Glob.paths kernel process field : Program _) with
    | [] => return [plain]
    | paths => return paths

/-- Expand a word to fields. -/
def fields (evaluator : Evaluator) (word : Word) : Run (List Bytes) := do
  let expanded ← expandWord evaluator word { splits := true } .outside true {}
  let fields := expanded.fields (← get).separators
  return (← fields.mapM wordsOf).flatten

/-- Expand words to fields. -/
def allFields (evaluator : Evaluator) (words : List Word) : Run (List Bytes) := do
  return (← words.mapM (fields evaluator)).flatten

end Expansion

end Relocation.Shell
