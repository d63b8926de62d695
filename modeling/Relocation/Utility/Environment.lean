import Relocation.Utility.Options
import Relocation.Machine.Access

/-!
# Utilities that run programs

The programs that show the environment, and those that become other programs or start
them.
-/

namespace Relocation.Utility

open Machine (Ending Kernel Program)

/-! ### Finding programs -/

/-- The search path of a process without one. -/
def fallbackPath : Bytes := Bytes.ofString "/bin:/usr/bin"

/-- The value of a variable in lines of an environment. -/
def valueIn? (environment : List Bytes) (name : Bytes) : Option Bytes :=
  environment.findSome? fun line =>
    match Bytes.cut? (· = 61) line with
    | some (key, value) => if key = name then some value else none
    | none => none

/-- The paths at which a program is looked for. -/
def candidatesFor (environment : List Bytes) (name : Bytes) : List Bytes :=
  if name.contains Machine.slashByte then [name]
  else
    let path := (valueIn? environment (Bytes.ofString "PATH")).getD fallbackPath
    (path.splitOn (· = 58)).map fun directory =>
      if directory.isEmpty then name else directory ++ Machine.slashByte :: name

/-- Try to become the programs at some paths. It gives the error of the last attempt that tells
something. -/
def becomeAny (attempt : Bytes → Program Errno) : Errno → List Bytes → Program Errno
  | errno, [] => return errno
  | errno, path :: rest => do
    let other ← attempt path
    if other = .noEntry || other = .notDirectory then becomeAny attempt errno rest
    else if other = .accessDenied then becomeAny attempt other rest
    else return other

/-- Become a program that is looked for. What goes wrong is reported with the name of the program as
`describe` shows it, and the process ends. -/
def Task.becomeCommand {α : Type} (task : Task) (environment words : List Bytes)
    (describe : Bytes → Bytes := quoted) : Program α := do
  let name := words.headD []
  let errno ← becomeAny (task.become · words environment) .noEntry (candidatesFor environment name)
  task.report (describe name ++ Bytes.ofString (": " ++ errno.libraryText))
  Program.exit (if errno = .noEntry then 127 else 126)

/-- The name of a program that could not be run. -/
def failedCommand (name : Bytes) : Bytes := Bytes.ofString "failed to run command " ++ quoted name

/-! ### The environment -/

/-- Write the values of variables, or all variables. -/
def printenv : Work := fun task => do
  let (options, names) ← task.read {
    letters := "0", stopsEarly := true, names := [("null", '0')], status := 2 }
  let ending : Bytes := if has '0' options then [0] else [10]
  if names.isEmpty then
    task.put (task.environment.flatMap (· ++ ending))
    return 0
  else
    let values := names.filterMap fun name =>
      if name.contains 61 then none else valueIn? task.environment name
    task.put (values.flatMap (· ++ ending))
    return if values.length = names.length then 0 else 1

/-- Whether a line of an environment sets a variable. -/
def setsVariable (name line : Bytes) : Bool := (name ++ [61]).isPrefixOf line

/-- An environment with a variable set. -/
def setIn (environment : List Bytes) (name value : Bytes) : List Bytes :=
  let line : Bytes := name ++ 61 :: value
  if environment.any (setsVariable name) then
    environment.map fun (old : Bytes) => bif setsVariable name old then line else old
  else environment ++ [line]

/-- An environment without a variable. -/
def removeFrom (environment : List Bytes) (name : Bytes) : List Bytes :=
  environment.filter fun line => !setsVariable name line

/-- Set the variables at the start of some words. It gives the words behind them. -/
def setAllIn (environment : List Bytes) : List Bytes → List Bytes × List Bytes
  | [] => (environment, [])
  | word :: rest =>
    match Bytes.cut? (· = 61) word with
    | some (name, value) => setAllIn (setIn environment name value) rest
    | none => (environment, word :: rest)

/-- Write all variables, or become a program with some of them changed. -/
def env : Work := fun task => do
  let (options, words) ← task.read {
    letters := "i0u:C:vS:", stopsEarly := true, status := 125,
    names := [("ignore-environment", 'i'), ("null", '0'), ("unset", 'u'), ("chdir", 'C'),
      ("split-string", 'S')] }
  let (isEmpty, words) := match words with
    | [45] :: rest => (true, rest)
    | words => (has 'i' options, words)
  let start := if isEmpty then [] else task.environment
  let start := (options.filter (·.letter = 'u')).foldl
    (fun environment option => removeFrom environment option.argument) start
  let (environment, words) := setAllIn start words
  match argumentOf? 'C' options with
  | some path =>
    match ← Program.request fun kernel process => kernel.changeDirectory process path with
    | .ok () => pure ()
    | .error errno =>
      task.reportAct "cannot change directory to" path errno
      Program.exit 125
  | none => pure ()
  if words.isEmpty then
    let ending : Bytes := if has '0' options then [0] else [10]
    task.put (environment.flatMap (· ++ ending))
    return 0
  else task.becomeCommand environment words

/-! ### Programs around others -/

/-- Become a program whatever the priority. -/
def nice : Work := fun task => do
  let (_, words) ← task.read {
    letters := "n:", stopsEarly := true, names := [("adjustment", 'n')], status := 125 }
  if words.isEmpty then
    task.putText "0"
    return 0
  else task.becomeCommand task.environment words

/-- Become a program that is not ended by the signal of a terminal that goes away. -/
def nohup : Work := fun task => do
  let (_, words) ← task.read { letters := "", stopsEarly := true, status := 125 }
  if words.isEmpty then task.misuse (Bytes.ofString "missing operand") 125
  Program.modify fun process kernel => kernel.setDisposition process 1 .ignored
  task.becomeCommand task.environment words failedCommand

/-- Start a process that becomes a program, and wait for its end. -/
def Task.runCommand (task : Task) (words : List Bytes) (describe : Bytes → Bytes := quoted) :
    Program Ending := do
  let child ← Program.spawn (task.becomeCommand task.environment words describe)
  Program.await fun process kernel =>
    match kernel.news? process (· = child) with
    | some (_, ending, kernel) => some (ending, kernel)
    | none => none

/-- A duration in microseconds. -/
def duration? (word : Bytes) : Option Nat := do
  let unit? := word.getLast?.bind fun byte =>
    [(115, 1), (109, 60), (104, 3600), (100, 86400)].lookup byte.toNat
  let body := if unit?.isSome then word.dropLast else word
  let (whole, fraction) := (Bytes.cut? (· = 46) body).getD (body, [])
  let fraction := (fraction ++ List.replicate 6 48).take 6
  if body.all (· = 46) then none
  else
    let seconds ← if whole.isEmpty then some 0 else number? whole
    let parts ← number? fraction
    return (seconds * 1000000 + parts) * unit?.getD 1

/-- Wait. -/
def sleep : Work := fun task => do
  let (_, words) ← task.read { letters := "" }
  if words.isEmpty then task.misuse (Bytes.ofString "missing operand")
  let mut total := 0
  let mut isWrong := false
  for word in words do
    match duration? word with
    | some duration => total := total + duration
    | none =>
      task.report (Bytes.ofString "invalid time interval " ++ quoted word)
      isWrong := true
  if isWrong then task.misuse []
  Program.sleep total
  return 0

/-- Run a program for so long at most. -/
def timeout : Work := fun task => do
  let (_, words) ← task.read {
    letters := "k:s:v", stopsEarly := true, status := 125,
    names := [("kill-after", 'k'), ("signal", 's'), ("preserve-status", 'p'), ("foreground", 'f')] }
  match words with
  | limit :: command :: arguments =>
    match duration? limit with
    | none =>
      task.misuse (Bytes.ofString "invalid time interval " ++ quoted limit) 125
    | some duration =>
      let child ← Program.spawn (task.becomeCommand task.environment (command :: arguments)
        failedCommand)
      let deadline ← Program.look fun _ kernel => kernel.now + duration
      Program.modify fun process kernel => kernel.mapProcess process fun known =>
        { known with wakes? := if duration = 0 then none else some deadline }
      let ending? ← Program.await fun process kernel =>
        match kernel.news? process (· = child) with
        | some (_, ending, kernel) => some (some ending, kernel)
        | none => if duration ≠ 0 && deadline ≤ kernel.now then some (none, kernel) else none
      match ending? with
      | some ending => return ending.status
      | none =>
        Program.modify fun _ kernel => kernel.signal child 15
        return 124
  | _ => task.misuse (Bytes.ofString "missing operand") 125

/-! ### Words from the input -/

/-- The words of a text, which quotes and backslashes keep together. -/
def inputWords : Nat → Bytes → Option Bytes → List Bytes
  | 0, _, _ => []
  | _, [], word? => word?.toList.map List.reverse
  | fuel + 1, byte :: rest, word? =>
    let word := word?.getD []
    if byte = 32 || byte = 9 || byte = 10 then
      word?.toList.map List.reverse ++ inputWords fuel rest none
    else if byte = 92 then
      match rest with
      | next :: rest => inputWords fuel rest (some (next :: word))
      | [] => inputWords fuel [] (some word)
    else if byte = 39 || byte = 34 then
      let inner := rest.takeWhile (· ≠ byte)
      inputWords fuel (rest.drop (inner.length + 1)) (some (inner.reverse ++ word))
    else inputWords fuel rest (some (byte :: word))

/-- A list in runs of so many items. -/
def inRuns {α : Type} (size : Nat) : Nat → List α → List (List α)
  | 0, _ => []
  | _, [] => []
  | fuel + 1, items => items.take size :: inRuns size fuel (items.drop size)

/-- A text with one part of it replaced everywhere. -/
def replaceAll (part new : Bytes) : Nat → Bytes → Bytes
  | 0, text => text
  | _, [] => []
  | fuel + 1, byte :: rest =>
    if !part.isEmpty && part.isPrefixOf (byte :: rest) then
      new ++ replaceAll part new fuel ((byte :: rest).drop part.length)
    else byte :: replaceAll part new fuel rest

/-- Run a program for words that are read. -/
def xargs : Work := fun task => do
  let (options, words) ← task.read {
    letters := "0n:I:L:rtd:P:s:x", stopsEarly := true,
    names := [("null", '0'), ("max-args", 'n'), ("replace", 'I'), ("no-run-if-empty", 'r'),
      ("verbose", 't'), ("delimiter", 'd'), ("max-lines", 'L'), ("max-procs", 'P')] }
  let command := if words.isEmpty then [Bytes.ofString "echo"] else words
  let input ← match ← Program.readAll 0 with
    | .ok bytes => pure bytes
    | .error _ => pure []
  let separated (byte : UInt8) : List Bytes :=
    let items := input.splitOn (· = byte)
    if items.getLast? = some [] then items.dropLast else items
  let delimiter? : Option UInt8 := match argumentOf? 'd' options with
    | some [92, 110] => some 10
    | some [92, 48] => some 0
    | some (byte :: _) => some byte
    | _ => if has '0' options then some 0 else none
  let items := match delimiter? with
    | some byte => separated byte
    | none =>
      if has 'I' options then
        ((linesOf input).map fun (line : Bytes) =>
          line.dropWhile fun byte => byte = 32 || byte = 9).filter
          fun line => !line.isEmpty
      else inputWords (input.length + 1) input none
  let runs := match argumentOf? 'I' options with
    | some mark => items.map fun item =>
      command.map fun (word : Bytes) => replaceAll mark item (word.length + 1) word
    | none =>
      let size := ((argumentOf? 'n' options).bind number?).getD 5000
      let groups := inRuns (max size 1) (items.length + 1) items
      let groups := if groups.isEmpty && !has 'r' options then [[]] else groups
      groups.map (command ++ ·)
  let mut status := 0
  for run in runs do
    if has 't' options then
      let _ ← Program.write 2 ([32].intercalate run ++ [10])
    match ← task.runCommand run id with
    | .exited 0 => pure ()
    | .exited 255 =>
      task.report (run.headD [] ++ Bytes.ofString ": exited with status 255; aborting")
      Program.exit 124
    | .exited 126 => Program.exit 126
    | .exited 127 => Program.exit 127
    | .exited _ => status := 123
    | .killed signal =>
      task.report (run.headD [] ++
        Bytes.ofString (": terminated by signal " ++ Decimal.ofNat signal))
      Program.exit 125
  return status

/-- Write where programs are found. -/
def which : Work := fun task => do
  let (options, names) ← task.read { letters := "as", stopsEarly := true }
  let mut status := 0
  for name in names do
    let candidates := candidatesFor task.environment name
    let found ← Program.look fun process kernel => candidates.filter fun path =>
      match kernel.facts process path with
      | .ok facts => facts.kind = .regular && facts.isExecutable
      | .error _ => false
    if found.isEmpty then status := 1
    let shown := if has 'a' options then found else found.take 1
    if !has 's' options then task.put (joinLines shown)
  return status

/-- Do nothing, with success. -/
def succeed : Work := fun _ => return 0

/-- Do nothing, without success. -/
def giveUp : Work := fun _ => return 1

/-- Write the number of processors. -/
def nproc : Work := fun task => do
  task.putText "1"
  return 0

/-- Write the signals by name, or send one. -/
def kill : Work := fun task => do
  let signalOf? (word : Bytes) : Option Signal :=
    let text := String.ofList (word.map fun byte => (Char.ofNat byte.toNat).toUpper)
    let name := if text.startsWith "SIG" then (text.drop 3).toString else text
    (number? word).orElse fun _ => (Signal.table.find? fun entry => entry.2 = name).map (·.1)
  let (signal?, targets) := match task.arguments with
    | [45, 115] :: word :: rest => (signalOf? word, rest)
    | (45 :: word) :: rest => (signalOf? word, rest)
    | words => (some 15, words)
  match signal? with
  | none => task.fail (Bytes.ofString "unknown signal")
  | some signal =>
    let mut status := 0
    for word in targets do
      let (sign, digits) : Int × Bytes := match word with
        | 45 :: digits => (-1, digits)
        | digits => (1, digits)
      match number? digits with
      | none =>
        task.report (Bytes.ofString "failed to parse argument: " ++ quoted word)
        status := 1
      | some number =>
        match ← Program.request fun kernel process =>
            kernel.kill process (sign * (number : Int)) signal with
        | .ok () => pure ()
        | .error errno =>
          task.report (Bytes.ofString "(" ++ word ++
            Bytes.ofString ("): " ++ errno.libraryText))
          status := 1
    return status

end Relocation.Utility
