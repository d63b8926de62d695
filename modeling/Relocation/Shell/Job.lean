import Relocation.Shell.Variables

/-!
# Jobs

The processes that a shell starts are grouped into jobs, and the shell is told by the
kernel how each of them ended. A shell that comes to its end runs the action that was set
for that.
-/

namespace Relocation.Shell

open Machine (Ending Kernel Program)

/-! ### Signals -/

namespace Signals

/-- Do something else about a signal, unless it was ignored when the shell started. -/
def dispose (signal : Signal) (disposition : Kernel.Disposition) : Run Unit := do
  if !(← get).ignoredAtStart.contains signal then
    let _ ← (Program.modify fun process kernel =>
      kernel.setDisposition process signal disposition : Program _)

/-- Take the action for a signal away, or set one. -/
def setTrap (signal : Signal) (action? : Option Bytes) : Run Unit := do
  modify fun shell =>
    let others := shell.traps.filter (·.1 ≠ signal)
    { shell with traps := match action? with
      | some action => (signal, action) :: others
      | none => others }
  if signal ≠ 0 then
    dispose signal (match action? with
      | none => .default
      | some [] => if signal = Machine.childSignal then .caught else .ignored
      | some _ => .caught)

/-- Take away the actions that do something, as a child does not have those of its parent. -/
def clearTraps : Run Unit := do
  for (signal, action) in (← get).traps do
    if !action.isEmpty then setTrap signal none

/-- The least of the signals that have arrived. -/
def arrived? : Run (Option Signal) := do
  return (← (Program.look fun process kernel => kernel.pendingOf process : Program _)).min?

/-- Forget that a signal has arrived. -/
def forget (signal : Signal) : Run Unit := do
  let _ ← (Program.modify fun process kernel => kernel.mapProcess process fun process =>
    { process with pending := process.pending.filter (· ≠ signal) } : Program _)

/-- Run the actions for signals that have arrived, at most so many. They go on with the status of
the shell, and leave it as it was unless one returns another. -/
def runActions (evaluator : Evaluator) (status : Nat) : Nat → Run Unit
  | 0 => return
  | fuel + 1 => do
    if (← get).skip ≠ .nothing then return
    match ← arrived? with
    | none => return
    | some signal =>
      forget signal
      match (← get).traps.lookup signal with
      | some action =>
        let _ ← evaluator.text action {}
        if (← get).skip ≠ .toReturn then setStatus status
      | none => pure ()
      runActions evaluator status fuel

/-- Run the actions for signals that have arrived. -/
def runTraps (evaluator : Evaluator) : Run Unit := do
  let shell ← get
  if !shell.traps.isEmpty then
    match ← arrived? with
    | none => return
    | some _ =>
      let saved? := shell.savedStatus?
      let status := saved?.getD shell.status
      set { shell with savedStatus? := some status }
      runActions evaluator status Program.unbounded
      modify ({ · with savedStatus? := saved? })

end Signals

/-! ### The end of a shell -/

/-- Settle the status of a shell that exits. -/
def settle (isExit : Bool) : Run Unit := modify fun shell =>
  { shell with
    status := match shell.savedStatus? with
      | some status => if isExit || shell.skip = .toEnd then status else shell.status
      | none => shell.status
    savedStatus? := none
    skip := .nothing
    loopDepth := 0
    inTrace := false }

/-- Run the action that was set for the end of the shell, and end the process. -/
def exitShell {α : Type} (evaluator : Evaluator) : Run α := do
  modify fun shell => { shell with savedStatus? := some shell.status }
  let result ← Run.observe do
    match (← get).traps.lookup 0 with
    | some action =>
      Signals.setTrap 0 none
      modify ({ · with skip := .nothing })
      let _ ← evaluator.text action {}
      modify ({ · with skip := .toEnd })
    | none => modify ({ · with skip := .toEnd })
  settle (match result with
    | .error .exit => true
    | _ => false)
  let _ ← flush
  Run.leave (← get).status

/-- Do something and end the process. -/
def toEnd {α : Type} (evaluator : Evaluator) (body : Run Unit) : Run α := do
  match ← Run.observe body with
  | .ok () => exitShell evaluator
  | .error interrupt =>
    settle (interrupt = .exit)
    exitShell evaluator

namespace Jobs

/-! ### Starting -/

/-- The signals that a process in the background ignores. -/
def ignoredInBackground : List Signal := [2, 3]

/-- What a child forgets of the shell that it is a copy of. -/
def resetChild : Run Unit := do
  modify fun shell => { shell with
    depth := shell.depth + 1
    jobs := []
    displaced := []
    output := [] }
  Signals.clearTraps

/-- Where nothing comes from. -/
def nullPath : Bytes := Bytes.ofString "/dev/null"

/-- Make the standard input of a process empty. -/
def readNothing : Run Unit := do
  Program.close 0
  let _ ← (Program.openPath nullPath { reads := true } : Program _)

/-- Start a child that does something and ends. A process in the background that is the first of its
job reads nothing. -/
def start (evaluator : Evaluator) (inBackground isFirst : Bool) (body : Run Unit) : Run Nat :=
  Run.fork do
    resetChild
    if inBackground then
      for signal in ignoredInBackground do
        Signals.dispose signal .ignored
      if isFirst then readNothing
    toEnd evaluator body

/-! ### The table of jobs -/

/-- How a job ended: as its last process did. -/
def endingOf? (job : Job) : Option Ending := job.members.getLast?.bind (·.ending?)

/-- Whether all processes of a job have ended. -/
def isDone (job : Job) : Bool := job.members.all fun member => member.ending?.isSome

/-- The status of a job that has ended. -/
def statusOf (job : Job) : Nat := ((endingOf? job).map Ending.status).getD 0

/-- Look for the number of a new job, from a number on: the least one that no job has, or whose job
has ended and was waited for. -/
def findNumber (jobs : List Job) : Nat → Nat → Nat
  | 0, number => number
  | fuel + 1, number =>
    match jobs.find? fun job => job.number = number with
    | none => number
    | some job => if isDone job && job.isAwaited then number else findNumber jobs fuel (number + 1)

/-- Add a job without processes to the table, and give its number. -/
def add : Run Nat := do
  let shell ← get
  let number := findNumber shell.jobs shell.jobs.length 1
  set { shell with
    jobs := { number, members := [] } :: shell.jobs.filter fun job => job.number ≠ number }
  return number

/-- Change a job of the table. -/
def change (number : Nat) (edit : Job → Job) : Run Unit := modify fun shell =>
  { shell with jobs := shell.jobs.map fun job => if job.number = number then edit job else job }

/-- Add a process to a job. -/
def join (number process : Nat) (inBackground : Bool) : Run Unit := do
  change number fun job => { job with members := job.members ++ [{ process }] }
  if inBackground then modify ({ · with lastBackground? := some process })

/-- Remove a job from the table. -/
def drop (number : Nat) : Run Unit := modify fun shell =>
  { shell with jobs := shell.jobs.filter (·.number ≠ number) }

/-- A job by its number. -/
def find? (number : Nat) : Run (Option Job) :=
  return (← get).jobs.find? (·.number = number)

/-- Report that there is no such job as a word asks for. -/
def unknown {α : Type} (word : Bytes) : Run α := fault (Bytes.ofString "No such job: " ++ word)

/-- The job that was started last. -/
def current : Run Job := do
  match (← get).jobs with
  | job :: _ => return job
  | [] => faultOf "No current job"

/-- The job that a word stands for: a percent sign with a number behind it, or with a sign for the
last job or the one before. Jobs have no texts, so that only the empty text is a part of one. -/
def ofName (word : Bytes) : Run Job := do
  let shell ← get
  match word with
  | 37 :: name =>
    let isCurrent := name.isEmpty || name = [43] || name = [37]
    if isCurrent then current
    else if name = [45] then
      match shell.jobs.drop 1 with
      | job :: _ => return job
      | [] => faultOf "No previous job"
    else if name = [63] then
      match shell.jobs with
      | [job] => return job
      | [] => unknown word
      | _ => faultAbout word "ambiguous"
    else match Decimal.natural? (name.map fun byte => Char.ofNat byte.toNat) with
      | none => unknown word
      | some number => match shell.jobs.find? fun job => job.number = number with
        | some job => return job
        | none => unknown word
  | _ => unknown word

/-! ### Waiting -/

/-- What a shell is told when it waits. -/
inductive News where
  | ended (process : Nat) (ending : Ending)
  /-- There is nothing to wait for. -/
  | noChildren
  /-- A signal has arrived. -/
  | signal

/-- Wait for the end of a child, or for a signal if `heedsSignals` holds. -/
def waitForNews (heedsSignals : Bool) : Run News :=
  (Program.await fun process kernel =>
    match kernel.news? process fun _ => true with
    | some (child, ending, kernel) => some (.ended child ending, kernel)
    | none =>
      if heedsSignals && (kernel.pendingOf process).any (· ≠ Machine.childSignal) then
        some (.signal, kernel)
      else if kernel.hasChildren process then none
      else some (.noChildren, kernel)
    : Program News)

/-- Take note of the end of a process. -/
def note (process : Nat) (ending : Ending) : Run Unit := modify fun shell =>
  { shell with jobs := shell.jobs.map fun job => { job with
      members := job.members.map fun member =>
        if member.process = process && member.ending?.isNone then
          { member with ending? := some ending }
        else member } }

/-- Take note of the children that have ended by now, at most so many. -/
def noteEnded : Nat → Run Unit
  | 0 => return
  | fuel + 1 => do
    let ended? ← (Program.call fun process kernel =>
      match kernel.news? process fun _ => true with
      | some (child, ending, kernel) => (some (child, ending), kernel)
      | none => (none, kernel) : Program (Option (Nat × Ending)))
    match ended? with
    | some (child, ending) =>
      note child ending
      noteEnded fuel
    | none => return

/-- The signals whose effect on a process is not reported. -/
def unreported : List Signal := [2, 13]

/-- Report that a process of a job for which is waited was killed. -/
def reportEnd (job : Job) (process : Nat) (ending : Ending) : Run Unit := do
  match ending with
  | .exited _ => return
  | .killed signal =>
    if job.members.any (·.process = process) && !unreported.contains signal then
      let _ ← (Program.write 2 (Bytes.ofString (signal.title ++ "\n")) : Program _)

/-- Wait until a job has ended. It gives whether no signal came in between. -/
def waitUntilDone (number : Nat) (heedsSignals : Bool) : Nat → Run Bool
  | 0 => return true
  | fuel + 1 => do
    match ← find? number with
    | none => return true
    | some job =>
      if isDone job then return true
      match ← waitForNews heedsSignals with
      | .ended process ending =>
        note process ending
        reportEnd job process ending
        waitUntilDone number heedsSignals fuel
      | .signal => return false
      | .noChildren =>
        change number fun job => { job with
          members := job.members.map fun member =>
            { member with ending? := some (member.ending?.getD (.exited 127)) } }
        return true

/-- Wait for a job in the foreground, and give its status. -/
def waitFor (number : Nat) : Run Nat := do
  let _ ← waitUntilDone number false Program.unbounded
  match ← find? number with
  | some job =>
    drop number
    return statusOf job
  | none => return 0

end Jobs

end Relocation.Shell
