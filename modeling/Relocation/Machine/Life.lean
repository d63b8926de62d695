import Relocation.Machine.Kernel

/-!
# The life of processes

A process is made as a copy of another one, becomes other programs, gets signals, and
ends. Its parent is then told how it ended, and only after that the process is
forgotten.
-/

namespace Relocation.Machine

/-- The ID of the first process, which takes the children of others when these end. -/
def firstProcess : Nat := 1

/-- The signal that tells a parent about the end of a child. -/
def childSignal : Signal := 17

/-- The signal that stops a process whatever it does. -/
def stopSignal : Signal := 19

/-- The signal that lets a stopped process go on. -/
def continueSignal : Signal := 18

/-- The signal of a pipe that nobody reads from. -/
def pipeSignal : Signal := 13

/-- The signal that ends a process whatever it does. -/
def killSignal : Signal := 9

/-- The signals that stop a process which does nothing about them. -/
def stopSignals : List Signal := [19, 20, 21, 22]

/-- The signals that do nothing to a process which does nothing about them. -/
def harmlessSignals : List Signal := [17, 18, 23, 28]

namespace Kernel

/-- Make a process as a copy of another one. It gives the ID of the new process. -/
def fork (kernel : Kernel) (id : Nat) : Nat × Kernel :=
  let new := kernel.nextProcess
  let process := (kernel.process? id).getD default
  let kernel := { kernel with nextProcess := new + 1 }
  let kernel := process.descriptors.foldl (fun kernel (_, slot) => kernel.retain slot.file) kernel
  (new, kernel.addProcess new { process with
    parent := id
    standing := .active
    pending := []
    wakes? := none })

/-- Let a process become another program: its private descriptors are closed, and it deals with no
signal any more. -/
def become (kernel : Kernel) (id : Nat) (arguments environment : List Bytes) : Kernel :=
  let process := (kernel.process? id).getD default
  let dropped := process.descriptors.filter (·.2.isPrivate)
  let kernel := dropped.foldl (fun kernel (_, slot) => kernel.release slot.file) kernel
  kernel.mapProcess id fun process => { process with
    descriptors := process.descriptors.filter fun entry => !entry.2.isPrivate
    caught := []
    arguments := arguments
    environment := environment }

/-- Forget a process. -/
def forget (kernel : Kernel) (id : Nat) : Kernel :=
  { kernel with processes := kernel.processes.filter (·.1 ≠ id) }

/-- Tell a process that a signal has arrived which it deals with itself or ignores. -/
def notify (kernel : Kernel) (id : Nat) (signal : Signal) : Kernel :=
  kernel.mapProcess id fun process =>
    if process.caught.contains signal && !process.pending.contains signal then
      { process with pending := process.pending ++ [signal] }
    else process

/-- An entry of the list of processes after the end of a process. Its children that have ended too
are forgotten. -/
def afterEnd (id : Nat) (ending : Ending) (entry : Nat × Process) : Option (Nat × Process) :=
  let (other, process) := entry
  if other = id then some (id, { process with standing := .ended ending, descriptors := [] })
  else if process.parent ≠ id then some entry
  else match process.standing with
    | .ended _ => none
    | _ => some (other, { process with parent := firstProcess })

/-- End a process. Its descriptors are closed, its children go to the first process, and its parent
is told, unless it does not want to know. -/
def finish (kernel : Kernel) (id : Nat) (ending : Ending) : Kernel :=
  match kernel.process? id with
  | none => kernel
  | some process =>
    let kernel :=
      process.descriptors.foldl (fun kernel (_, slot) => kernel.release slot.file) kernel
    let kernel := { kernel with processes := kernel.processes.filterMap (afterEnd id ending) }
    match kernel.process? process.parent with
    | none => kernel.forget id
    | some parent =>
      if parent.ignored.contains childSignal then kernel.forget id
      else kernel.notify process.parent childSignal

/-- Send a signal to a process. -/
def signal (kernel : Kernel) (id : Nat) (signal : Signal) : Kernel :=
  match kernel.process? id with
  | none => kernel
  | some process =>
    match process.standing with
    | .ended _ => kernel
    | standing =>
      let stand (standing : Standing) : Kernel :=
        kernel.mapProcess id fun process => { process with standing := standing }
      if signal = 0 then kernel
      else if signal = killSignal then kernel.finish id (.killed signal)
      else if signal = stopSignal then stand (.stopped signal)
      else
        let kernel := match standing with
          | .stopped _ => if signal = continueSignal then stand .active else kernel
          | _ => kernel
        if process.ignored.contains signal then kernel
        else if process.caught.contains signal then kernel.notify id signal
        else if harmlessSignals.contains signal then kernel
        else if stopSignals.contains signal then
          kernel.mapProcess id fun process => { process with standing := .stopped signal }
        else kernel.finish id (.killed signal)

/-- The processes that a number given to `kill` stands for: one process, the group of the caller,
all processes, or the members of a group. -/
def addressed (kernel : Kernel) (id : Nat) (number : Int) : List Nat :=
  let members (group : Nat) : List Nat :=
    (kernel.processes.filter fun entry => entry.2.group = group).map (·.1)
  if 0 < number then
    let other := number.toNat
    if (kernel.process? other).isSome then [other] else []
  else if number = 0 then members ((kernel.process? id).map (·.group) |>.getD 0)
  else if number = -1 then
    (kernel.processes.map (·.1)).filter fun other => other ≠ id && other ≠ firstProcess
  else members number.natAbs

/-- Send a signal to the processes that a number stands for. -/
def kill (kernel : Kernel) (id : Nat) (number : Int) (signal : Signal) : Reply Unit :=
  match kernel.addressed id number with
  | [] => (.error .noProcess, kernel)
  | others =>
    -- the caller comes last, as it may not live on
    let own := others.filter (· = id)
    let others := others.filter (· ≠ id)
    (.ok (), (others ++ own).foldl (fun kernel other => kernel.signal other signal) kernel)

/-- Whether a process has children. -/
def hasChildren (kernel : Kernel) (id : Nat) : Bool :=
  kernel.processes.any fun entry => entry.2.parent = id


/-- The next news for a process about one of some children, and the kernel that has forgotten a
child that ended. -/
def news? (kernel : Kernel) (id : Nat) (isWanted : Nat → Bool) : Option (Nat × Ending × Kernel) :=
  kernel.processes.findSome? fun (child, process) =>
    if process.parent = id && isWanted child then
      match process.standing with
      | .ended ending => some (child, ending, kernel.forget child)
      | _ => none
    else none

/-- The caught signals that have arrived at a process, in the order of their numbers. -/
def pendingOf (kernel : Kernel) (id : Nat) : List Signal :=
  ((kernel.process? id).map (·.pending)).getD []

/-- What a process does about a signal: nothing, ignore it, or deal with it itself. -/
inductive Disposition where
  | default
  | ignored
  | caught
  deriving DecidableEq, Repr

/-- The kernel in which a process does something else about a signal. -/
def setDisposition (kernel : Kernel) (id : Nat) (signal : Signal) (disposition : Disposition) :
    Kernel :=
  kernel.mapProcess id fun process =>
    let ignored := process.ignored.filter (· ≠ signal)
    let caught := process.caught.filter (· ≠ signal)
    match disposition with
    | .default => { process with ignored := ignored, caught := caught }
    | .ignored => { process with ignored := signal :: ignored, caught := caught }
    | .caught => { process with ignored := ignored, caught := signal :: caught }

end Kernel

end Relocation.Machine
