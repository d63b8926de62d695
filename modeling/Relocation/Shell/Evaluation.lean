import Relocation.Shell.Arguments
import Relocation.Shell.Builtin
import Relocation.Shell.Redirection

/-!
# Running commands

Every command gives a status. A command that fails where nothing tests its failure ends
the shell if the option for that is on, and before and after every command the actions
for signals that have arrived are run.
-/

namespace Relocation.Shell

open Machine (Program)

namespace Evaluation

/-! ### Traces -/

/-- The prompt of a trace. One that cannot be expanded stands for itself. -/
def tracePrompt (evaluator : Evaluator) : Run Bytes := do
  let prompt := ((← get).valueOf? "PS4").getD []
  modify ({ · with inTrace := true })
  let result ← Run.observe do
    match quotedWord prompt with
    | .ok word => Expansion.document evaluator word
    | .error (.wrong line message) =>
      modify ({ · with line := line })
      faultOf ("Syntax error: " ++ message)
    | .error .starved => return prompt
  modify ({ · with inTrace := false })
  match result with
  | .ok text => return text
  | .error .error => return prompt
  | .error interrupt => throw interrupt

/-- Show a command with its words expanded, if that is asked for. -/
def trace (evaluator : Evaluator) (descriptor : Nat) (words : List Bytes) : Run Unit := do
  let shell ← get
  if shell.hasOption 'x' && !shell.inTrace then
    let prompt ← tracePrompt evaluator
    let _ ← (Program.write descriptor (prompt ++ [32].intercalate words ++ [10]) : Program _)

/-- Where traces of a command are written while its redirections are in force. -/
def traceDescriptor (shell : State) (redirections : List Redirection) : Nat :=
  match redirections, (shell.displaced.headD []).lookup 2 with
  | _ :: _, some (.moved descriptor) => descriptor
  | _, _ => 2

/-! ### Simple commands -/

/-- Run a builtin. -/
def runBuiltin (evaluator : Evaluator) (mode : Mode) (words : List Bytes) :
    Run (Except Interrupt Unit) := do
  let name := words.headD []
  let outer? := (← get).builtin?
  modify ({ · with builtin? := some name })
  let result ← Run.observe (Builtin.run evaluator name mode (words.drop 1))
  let isWritten ← flush
  match result with
  | .ok status =>
    if !isWritten then complain (name ++ Bytes.ofString ": I/O error")
    setStatus (if isWritten then status else status ||| 1)
  | .error _ => pure ()
  modify ({ · with builtin? := outer? })
  return result.map fun _ => ()

/-- How deeply calls of functions can be nested. -/
def maxCallDepth : Nat := 1000

/-- Run a function. -/
def runFunction (evaluator : Evaluator) (mode : Mode) (function : Function)
    (words : List Bytes) : Run Unit := do
  let outer ← get
  if maxCallDepth ≤ outer.functionDepth then
    faultOf ("Maximum function recursion depth (" ++ Decimal.ofNat maxCallDepth ++ ") reached")
  modify fun shell => { shell with
    parameters := words.drop 1
    optionIndex := 1
    optionOffset? := none
    loopDepth := 0
    functionDepth := outer.functionDepth + 1 }
  let result ← Run.observe (evaluator.command function.body { isTested := mode.isTested })
  modify fun shell => { shell with
    parameters := outer.parameters
    optionIndex := outer.optionIndex
    optionOffset? := outer.optionOffset?
    loopDepth := outer.loopDepth
    functionDepth := outer.functionDepth
    skip := if shell.skip = .toReturn || shell.skip = .toEnd then .nothing else shell.skip }
  let _ ← Run.resume result

/-- Run a program, in a child unless the shell ends with it. -/
def runProgram (evaluator : Evaluator) (mode : Mode) (path : Bytes) (index? : Option Nat)
    (words : List Bytes) : Run Unit := do
  let body : Run Unit := Search.become evaluator path (index?.getD 0) words
  if mode.isLast && !(← get).hasTraps then body
  else
    let job ← Jobs.add
    let child ← Run.fork do
      let _ ← Run.observe body
      Run.leave (← get).status
    Jobs.join job child false
    setStatus (← Jobs.waitFor job)

/-- Make an assignment, which lasts as long as the command if it is local to it. It gives the text
of the assignment. -/
def assign (evaluator : Evaluator) (isLocal exports : Bool) (word : Word) : Run Bytes := do
  let text ← Expansion.assignment evaluator word
  let (name, value?) := Variables.splitAssignment text
  if isLocal then Variables.makeLocal name value? true
  else Variables.store name value? exports
  return text

/-- Run a command whose words are expanded and whose redirections are in force. -/
def runCall (evaluator : Evaluator) (mode : Mode) (call : Arguments.Call)
    (assignments : List Word) (descriptor : Nat) : Run Unit := do
  let words := call.arguments.words
  let exports := call.isExec && 1 < words.length
  let texts ← assignments.mapM (assign evaluator call.isLocal exports)
  trace evaluator descriptor (texts ++ call.passed ++ words)
  let path ← match call.path? with
    | some path => pure path
    | none => Search.path
  let meaning ← match call.meaning with
    | .nothing =>
      Search.meaningOf (words.headD []) call.skipsFunctions true call.path?
    | meaning => pure meaning
  match meaning with
  | .nothing => setStatus Search.notFoundStatus
  | .file index? => runProgram evaluator mode path index? words
  | .function function => runFunction evaluator mode function words
  | .builtin =>
    match ← if words.isEmpty then noWords else runBuiltin evaluator mode words with
    | .ok () => return
    | .error .error => if call.isSpecial? = some false then return else throw .error
    | .error interrupt => throw interrupt
where
  /-- The status of the last command whose output was put into a word is that of a command without
  words. -/
  noWords : Run (Except Interrupt Unit) := do
    setStatus (← get).captureStatus
    return .ok ()

/-- Run a simple command. -/
def runSimple (evaluator : Evaluator) (mode : Mode) (line : Nat) (assignments words : List Word)
    (redirections : List Redirection) : Run Nat := do
  modify ({ · with line := line, captureStatus := 0 })
  let call ← Arguments.expandAll evaluator words
  let outer ← get
  if call.isLocal then Variables.enter
  let prepared ← Redirection.prepareAll evaluator redirections
  Redirection.enter redirections
  if ← Redirection.attempt evaluator prepared then
    runCall evaluator mode call assignments (traceDescriptor (← get) redirections)
  else
    setStatus errorStatus
    if call.isSpecial? = some true then throw .error
  if !redirections.isEmpty then Redirection.takeBack call.isExec
  Redirection.unwind outer.displaced.length
  Variables.unwind outer.locals.length
  return (← get).status

/-! ### Redirections and children -/

/-- Run a command with redirections. -/
def runRedirected (evaluator : Evaluator) (mode : Mode) (line : Nat) (body : Command)
    (redirections : List Redirection) : Run Nat := do
  modify ({ · with line := line })
  let prepared ← Redirection.prepareAll evaluator redirections
  Redirection.enter redirections
  let status ← if ← Redirection.attempt evaluator prepared then
      evaluator.command body { isTested := mode.isTested }
    else pure errorStatus
  Redirection.takeBack false
  return status

/-- Run a command with redirections that are not taken back, as the shell ends with it. -/
def runToEnd (evaluator : Evaluator) (mode : Mode) (body : Command)
    (redirections : List Redirection.Prepared) : Run Unit := do
  redirections.forM (Redirection.carryOut evaluator false)
  let _ ← evaluator.command body { mode with isLast := true }

/-- Run a command in a child, for which is waited unless it runs in the background. -/
def runSubshell (evaluator : Evaluator) (mode : Mode) (inBackground : Bool) (line : Nat)
    (body : Command) (redirections : List Redirection) : Run Nat := do
  modify ({ · with line := line })
  let prepared ← Redirection.prepareAll evaluator redirections
  if !inBackground && mode.isLast && !(← get).hasTraps then
    runToEnd evaluator mode body prepared
    return (← get).status
  else
    let job ← Jobs.add
    let inner := { mode with isTested := mode.isTested && !inBackground }
    let child ← Jobs.start evaluator inBackground true (runToEnd evaluator inner body prepared)
    Jobs.join job child inBackground
    if inBackground then return 0 else Jobs.waitFor job

/-- Look for the program of a command before it is run in a child, so that the shell remembers where
it was found. -/
def prepareName (command : Command) : Run Unit := do
  match command with
  | .simple _ _ (first :: _) _ =>
    match Parser.bareText? first with
    | some name => if isName name then let _ ← Search.meaningOf name false false
    | none => return
  | _ => return

/-- Start the commands of a pipeline, each reading what the one before it writes. The first one
reads from a descriptor if one is given. -/
def startStages (evaluator : Evaluator) (mode : Mode) (inBackground : Bool) (job : Nat) :
    (isFirst : Bool) → Option Nat → List Command → Run Unit
  | _, _, [] => return
  | isFirst, input?, command :: rest => do
    prepareName command
    let output? ← if rest.isEmpty then pure none
      else do pure (some (← (Expansion.makePipe : Program _)))
    let child ← Jobs.start evaluator inBackground isFirst do
      match output? with
      | some (source, _) => Program.close source
      | none => pure ()
      match input? with
      | some input => Expansion.moveDescriptor input 0
      | none => pure ()
      match output? with
      | some (_, sink) => Expansion.moveDescriptor sink 1
      | none => pure ()
      let _ ← evaluator.command command { mode with isLast := true }
    Jobs.join job child inBackground
    match input? with
    | some input => Program.close input
    | none => pure ()
    match output? with
    | some (_, sink) => Program.close sink
    | none => pure ()
    startStages evaluator mode inBackground job false (output?.map (·.1)) rest

/-- Run a pipeline. -/
def runPipeline (evaluator : Evaluator) (mode : Mode) (inBackground : Bool)
    (stages : List Command) : Run Nat := do
  let job ← Jobs.add
  startStages evaluator mode inBackground job true none stages
  if inBackground then return 0 else Jobs.waitFor job

/-! ### Loops and choices -/

/-- What becomes of a loop after a part of it. -/
inductive LoopStep where
  | goOn
  | again
  /-- The loop ends, as a function does if `isReturn` holds. -/
  | stop (isReturn : Bool)

/-- What becomes of a loop as far as commands are skipped. -/
def loopStep : Run LoopStep := do
  let shell ← get
  let pass (isBreak : Bool) : Run LoopStep := do
    if shell.skipCount ≤ 1 then
      set { shell with skip := .nothing, skipCount := 0 }
      return if isBreak then .stop false else .again
    else
      set { shell with skipCount := shell.skipCount - 1 }
      return .stop false
  match shell.skip with
  | .nothing => return .goOn
  | .toBreak => pass true
  | .toContinue => pass false
  | .toReturn => return .stop true
  | .toEnd => return .stop false

/-- Do something inside of a loop. -/
def insideLoop (action : Run Nat) : Run Nat := do
  modify fun shell => { shell with loopDepth := shell.loopDepth + 1 }
  let status ← action
  modify fun shell => { shell with loopDepth := shell.loopDepth - 1 }
  return status

/-- Run a loop for at most so many rounds. Its status is that of its body. -/
def runRounds (evaluator : Evaluator) (mode : Mode) (untilSuccess : Bool)
    (condition body : Command) : Nat → Nat → Run Nat
  | 0, status => return status
  | rounds + 1, status => do
    let result ← evaluator.command condition { isTested := true }
    match ← loopStep with
    | .stop isReturn => return if isReturn then result else status
    | .again => runRounds evaluator mode untilSuccess condition body rounds status
    | .goOn =>
      if decide (result = 0) = untilSuccess then return status
      else
        let status ← evaluator.command body mode
        match ← loopStep with
        | .stop _ => return status
        | _ => runRounds evaluator mode untilSuccess condition body rounds status

/-- Run a command for each of some values of a variable. -/
def runForEach (evaluator : Evaluator) (mode : Mode) (name : Bytes) (body : Command) :
    List Bytes → Nat → Run Nat
  | [], status => return status
  | value :: rest, _ => do
    Variables.store name (some value)
    let status ← evaluator.command body mode
    match ← loopStep with
    | .stop _ => return status
    | _ => runForEach evaluator mode name body rest status

/-- Whether a text matches one of some patterns. -/
def matchesAny (evaluator : Evaluator) (subject : Bytes) : List Word → Run Bool
  | [] => return false
  | word :: rest => do
    if (← Expansion.pattern evaluator word).matchesAll subject then return true
    else matchesAny evaluator subject rest

/-- Run the command of the first arm that a text matches. -/
def runArms (evaluator : Evaluator) (mode : Mode) (subject : Bytes) :
    List (List Word × Command) → Run Nat
  | [] => return 0
  | (patterns, body) :: rest => do
    if (← get).skip ≠ .nothing then return 0
    else if ← matchesAny evaluator subject patterns then
      if Script.isCommand body && (← get).skip = .nothing then evaluator.command body mode
      else return 0
    else runArms evaluator mode subject rest

/-! ### All commands -/

/-- What becomes of a command: its status, and whether a failure of it counts for the option that
ends the shell. -/
structure Outcome where
  status : Nat
  counts : Bool := false

/-- Run a command, whatever its kind. -/
def runKind (evaluator : Evaluator) (mode : Mode) : Command → Run Outcome
  | .nothing => return ⟨0, false⟩
  | .simple line assignments words redirections => do
    return ⟨← runSimple evaluator mode line assignments words redirections, true⟩
  | .pipeline inBackground stages => do
    return ⟨← runPipeline evaluator mode inBackground stages, true⟩
  | .redirected line body redirections => do
    return ⟨← runRedirected evaluator mode line body redirections, false⟩
  | .background line body redirections => do
    return ⟨← runSubshell evaluator mode true line body redirections, true⟩
  | .subshell line body redirections => do
    return ⟨← runSubshell evaluator mode false line body redirections, true⟩
  | .not body => do
    let status ← evaluator.command body { isTested := true }
    return ⟨if (← get).skip ≠ .nothing then status else if status = 0 then 1 else 0, false⟩
  | .and first second => do
    let status ← evaluator.command first { isTested := true }
    if status ≠ 0 || (← get).skip ≠ .nothing then return ⟨status, false⟩
    else return ⟨← evaluator.command second mode, false⟩
  | .or first second => do
    let status ← evaluator.command first { isTested := true }
    if status = 0 || (← get).skip ≠ .nothing then return ⟨status, false⟩
    else return ⟨← evaluator.command second mode, false⟩
  | .sequence first second => do
    let status ← evaluator.command first { isTested := mode.isTested }
    if (← get).skip ≠ .nothing then return ⟨status, false⟩
    else return ⟨← evaluator.command second mode, false⟩
  | .conditional condition body otherwise => do
    let status ← evaluator.command condition { isTested := true }
    if (← get).skip ≠ .nothing then return ⟨status, false⟩
    else if status = 0 then return ⟨← evaluator.command body mode, false⟩
    else if Script.isCommand otherwise then return ⟨← evaluator.command otherwise mode, false⟩
    else return ⟨0, false⟩
  | .loop untilSuccess condition body => do
    return ⟨← insideLoop
      (runRounds evaluator { isTested := mode.isTested } untilSuccess condition body
        Program.unbounded 0), false⟩
  | .forEach line name items body => do
    modify ({ · with line := line })
    let values ← Expansion.allFields evaluator items
    return ⟨← insideLoop (runForEach evaluator { isTested := mode.isTested } name body values 0),
      false⟩
  | .choice line subject arms => do
    modify ({ · with line := line })
    return ⟨← runArms evaluator mode (← Expansion.text evaluator subject) arms, false⟩
  | .define line name body => do
    modify fun shell => { shell with functions := State.put name { line, body } shell.functions }
    Search.remember name none
    return ⟨0, false⟩

/-- Run a command and the actions for the signals that arrived. -/
def runCommand (evaluator : Evaluator) (command : Command) (mode : Mode) : Run Nat := do
  Program.pause
  let isRun := Script.isCommand command && !(← isOn 'n')
  let outcome ← if isRun then do
      Signals.runTraps evaluator
      let outcome ← runKind evaluator mode command
      setStatus outcome.status
      pure outcome
    else pure { status := 0 }
  Signals.runTraps evaluator
  if outcome.counts && outcome.status ≠ 0 && !mode.isTested && (← isOn 'e') then throw .ended
  if mode.isLast then throw .ended
  return outcome.status

end Evaluation

end Relocation.Shell
