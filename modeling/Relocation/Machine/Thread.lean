import Relocation.Machine.Life

/-!
# Threads

What a process is still going to do. A thread makes steps, each of which looks at the
kernel and changes it; a step that has to wait is tried again later. A scheduler lets
the threads of all processes take turns, and time passes while they run or when all
of them wait.
-/

namespace Relocation.Machine

/-- What a process is going to do. -/
inductive Thread where
  /-- End. -/
  | finish (ending : Ending)
  /-- Make a step that changes the kernel, as soon as there is one to be made. -/
  | step (attempt : Kernel → Option (Kernel × Thread))
  /-- Start a process, with its ID known to both sides. -/
  | fork (child next : Nat → Thread)

instance : Inhabited Thread := ⟨.finish (.exited 0)⟩

/-- A machine whose processes run. -/
structure Schedule where
  kernel : Kernel
  /-- The processes that have something to do, in the order of their turns. -/
  queue : List (Nat × Thread)

namespace Schedule

/-- How many steps a process may make in one turn. -/
def turnLength : Nat := 20000

/-- What became of a turn: whether any step was made, and what is left to be done. -/
structure Turn where
  kernel : Kernel
  /-- What the process still does, unless it has ended. -/
  thread? : Option Thread
  /-- Processes that were started, the first one first. -/
  started : List (Nat × Thread) := []
  isIdle : Bool := false

/-- Whether a process can go on, if there is one. -/
def standingOf? (kernel : Kernel) (id : Nat) : Option Standing :=
  (kernel.process? id).map fun process => process.standing

/-- Let a process make at most so many steps, until it waits, ends or cannot go on. -/
def turn (id : Nat) : Nat → Kernel → Thread → List (Nat × Thread) → Bool → Turn
  | 0, kernel, thread, started, _ => ⟨kernel, some thread, started.reverse, false⟩
  | fuel + 1, kernel, thread, started, isIdle =>
    match standingOf? kernel id with
    | some .active =>
      match thread with
      | .finish ending => ⟨kernel.finish id ending, none, started.reverse, false⟩
      | .fork child next =>
        let (new, kernel) := kernel.fork id
        turn id fuel { kernel with now := kernel.now + 300 } (next new)
          ((new, child new) :: started) false
      | .step attempt =>
        match attempt kernel with
        | none => ⟨kernel, some (.step attempt), started.reverse, isIdle⟩
        | some (kernel, thread) =>
          turn id fuel { kernel with now := kernel.now + 1 } thread started false
    | some (.stopped _) => ⟨kernel, some thread, started.reverse, isIdle⟩
    | _ => ⟨kernel, none, started.reverse, isIdle⟩

/-- Let each process of a queue take a turn. It gives the queue after that, in reverse, and whether
nothing could be done at all. -/
def round : Kernel → List (Nat × Thread) → List (Nat × Thread) → Bool →
    Kernel × List (Nat × Thread) × Bool
  | kernel, [], done, isIdle => (kernel, done, isIdle)
  | kernel, (id, thread) :: rest, done, isIdle =>
    let result := turn id turnLength kernel thread [] true
    let done := match result.thread? with
      | some thread => (id, thread) :: done
      | none => done
    round result.kernel rest (result.started.reverse ++ done) (isIdle && result.isIdle)

/-- The earliest time to come at which an active process wants to be woken. -/
def nextWake? (kernel : Kernel) : Option Nat :=
  (kernel.processes.filterMap fun (_, process) =>
    match process.standing, process.wakes? with
    | .active, some time => if kernel.now < time then some time else none
    | _, _ => none).min?

/-- Let all processes run until they have ended or wait for each other, at most so many rounds. -/
def run : Nat → Schedule → Schedule
  | 0, schedule => schedule
  | fuel + 1, ⟨kernel, queue⟩ =>
    if queue.isEmpty then ⟨kernel, queue⟩
    else
      let (kernel, queue, isIdle) := round kernel queue [] true
      let queue := queue.reverse
      if !isIdle then run fuel ⟨kernel, queue⟩
      else match nextWake? kernel with
        | some time => run fuel ⟨{ kernel with now := time }, queue⟩
        | none => ⟨kernel, queue⟩

/-- How many rounds processes may need before the machine counts as stuck. -/
def maxRounds : Nat := 1000000

end Schedule

end Relocation.Machine
