import Relocation.Shell.Builtin.Options

/-!
# Builtins on jobs
-/

namespace Relocation.Shell.Builtin

open Machine (Program)

/-- How a job stands, in words. -/
def standingOf (job : Job) : String :=
  if !Jobs.isDone job then "Running"
  else match Jobs.endingOf? job with
    | some (.killed signal) => signal.title
    | some (.exited status) =>
      if status = 0 then "Done" else "Done(" ++ Decimal.ofNat status ++ ")"
    | none => "Done"

/-- How jobs are printed. -/
inductive JobStyle where
  | brief
  /-- With the IDs of all processes. -/
  | long
  /-- Only the ID of the first process. -/
  | process

/-- The column up to which the standing of a job reaches. -/
def jobColumn : Nat := 33

/-- A text with spaces up to the column, but at least one. -/
def toColumn (text : String) : String :=
  text ++ String.ofList (List.replicate (max 1 (jobColumn - text.length)) ' ')

/-- Print a job. One that has ended is forgotten. -/
def printJob (style : JobStyle) (job : Job) : Run Unit := do
  let number := Decimal.ofNat job.number
  let line (text : String) : Run Unit := printLine (Bytes.ofString text)
  let id (member : Member) : String := Decimal.ofNat member.process ++ " "
  let jobs := (← get).jobs
  let isAt (index : Nat) : Bool := (jobs[index]?.map (·.number)) = some job.number
  let sign := if isAt 0 then "+" else if isAt 1 then "-" else " "
  let head := "[" ++ number ++ "] " ++ sign ++ " "
  match style with
  | .process =>
    printLine (Bytes.ofString (Decimal.ofNat ((job.members.head?.map (·.process)).getD 0)))
  | .brief =>
    let bars := String.join ((job.members.drop 1).map fun _ => " | ")
    line (toColumn (head ++ standingOf job) ++ bars)
  | .long =>
    match job.members with
    | [] => line (toColumn (head ++ standingOf job))
    | first :: rest =>
      let indent := String.ofList (List.replicate head.length ' ')
      let others := rest.map fun member => toColumn (" |\n" ++ indent ++ id member)
      line (toColumn (head ++ id first ++ standingOf job) ++ String.join others)
  match style with
  | .process => pure ()
  | _ => if Jobs.isDone job then Jobs.drop job.number

/-- Print jobs. -/
def listJobs (arguments : List Bytes) : Run Nat := do
  let (options, names) ← readOptions "lp" arguments
  let style := match options.getLast?.map (·.letter) with
    | some 'l' => JobStyle.long
    | some _ => .process
    | none => .brief
  if names.isEmpty then
    Jobs.noteEnded Program.unbounded
    for job in (← get).jobs do
      printJob style job
  else
    for name in names do
      printJob style (← Jobs.ofName name)
  return 0

/-- The status of a process that is not known. -/
def unknownProcessStatus : Nat := 127

/-- The status when a signal interrupts the wait for a child. -/
def interruptedStatus : Run Nat := do
  return 128 + ((← Signals.arrived?).getD 0)

/-- A job that counts as waited for if it has ended. -/
def awaited (job : Job) : Job := { job with isAwaited := job.isAwaited || Jobs.isDone job }

/-- Wait until all jobs have ended, at most so often. -/
def waitForAll : Nat → Run Nat
  | 0 => return 0
  | fuel + 1 => do
    modify fun shell => { shell with jobs := shell.jobs.map awaited }
    if (← get).jobs.all Jobs.isDone then return 0
    match ← Jobs.waitForNews true with
    | .ended process ending =>
      Jobs.note process ending
      waitForAll fuel
    | .signal => interruptedStatus
    | .noChildren => return 0

/-- The job that a word stands for, if it is known. -/
def awaitedJob? (word : Bytes) : Run (Option Job) := do
  if word.head? = some 37 then return some (← Jobs.ofName word)
  let process ← natural word
  return (← get).jobs.find? fun job => (job.members.getLast?.map (·.process)) = some process

/-- Wait for jobs one after the other. The status is that of the last one. -/
def waitForEach (status : Nat) : List Bytes → Run Nat
  | [] => return status
  | word :: rest => do
    match ← awaitedJob? word with
    | none => waitForEach status rest
    | some job =>
      if !(← Jobs.waitUntilDone job.number true Program.unbounded) then interruptedStatus
      else
        Jobs.change job.number ({ · with isAwaited := true })
        let job? ← Jobs.find? job.number
        waitForEach ((job?.map Jobs.statusOf).getD 0) rest

/-- Wait for processes in the background. -/
def wait (arguments : List Bytes) : Run Nat := do
  match ← operands arguments with
  | [] => waitForAll Program.unbounded
  | words => waitForEach unknownProcessStatus words

/-- Refuse to move a job, as there is no control over jobs. -/
def moveJob (arguments : List Bytes) : Run Nat := do
  let words ← operands arguments
  let _ ← match words with
    | [] => Jobs.current
    | word :: _ => Jobs.ofName word
  fault (Bytes.ofString "job " ++ words.headD (Bytes.ofString "(null)") ++
    Bytes.ofString " not created under job control")

end Relocation.Shell.Builtin
