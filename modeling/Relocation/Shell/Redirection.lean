import Relocation.Shell.Expansion

/-!
# Redirections

A redirection makes a descriptor stand for another open file while a command runs. What
the descriptor stood for is moved out of the way and comes back afterwards. If a
redirection fails, the command is not run.
-/

namespace Relocation.Shell

open Machine (Kernel Program)

namespace Redirection

/-- A redirection whose words are expanded. -/
inductive Prepared where
  | file (descriptor : Nat) (mode : FileMode) (path : Bytes)
  /-- Copy a descriptor, or close one if there is no source. -/
  | copy (descriptor : Nat) (source? : Option Nat)
  | here (descriptor document : Nat)

/-- Report an error in what was parsed. -/
def misread {α : Type} (message : String) : Run α := do
  modify fun shell => { shell with line := shell.parsedLine }
  faultOf ("Syntax error: " ++ message)

/-- Expand the words of a redirection. -/
def prepare (evaluator : Evaluator) : Redirection → Run Prepared
  | .file descriptor mode path => return .file descriptor mode (← Expansion.text evaluator path)
  | .copy descriptor source => do
    match ← Expansion.text evaluator source with
    | [byte] =>
      if byte = 45 then return .copy descriptor none
      else if isDigit byte then return .copy descriptor (some (byte.toNat - 48))
      else misread "Bad fd number"
    | _ => misread "Bad fd number"
  | .here descriptor document => return .here descriptor document

/-! ### Opening -/

/-- The text of an error about a file that is opened or made. -/
def problem (missing : String) (errno : Errno) : String :=
  if errno = .noEntry || errno = .notDirectory then missing else errno.libraryText

/-- Report that a file cannot be opened. -/
def cannotOpen {α : Type} (path : Bytes) (errno : Errno) : Run α :=
  fault (Bytes.ofString "cannot open " ++ path ++
    Bytes.ofString (": " ++ problem "No such file" errno))

/-- Report that a file cannot be made. -/
def cannotCreate {α : Type} (path : Bytes) (errno : Errno) : Run α :=
  fault (Bytes.ofString "cannot create " ++ path ++
    Bytes.ofString (": " ++ problem "Directory nonexistent" errno))

/-- Open a file for a redirection and give its descriptor. -/
def openPath (path : Bytes) (mode : Machine.Mode) : Run Nat := do
  match ← (Program.openPath path mode : Program _) with
  | .ok descriptor => return descriptor
  | .error errno => if mode.creates then cannotCreate path errno else cannotOpen path errno

/-- Open a file that must not exist yet, unless it is no regular one. -/
def openUnlessRegular (path : Bytes) : Run Nat := do
  match ← (Program.ask fun kernel process => kernel.facts process path : Program _) with
  | .error _ => openPath path { writes := true, creates := true, isNew := true }
  | .ok facts =>
    if facts.kind = .regular then cannotCreate path .fileExists
    else openPath path { writes := true }

/-- Open a file in the mode of a redirection. -/
def openFile (mode : FileMode) (path : Bytes) : Run Nat := do
  match mode with
  | .read => openPath path { reads := true }
  | .readWrite => openPath path { reads := true, writes := true, creates := true }
  | .append => openPath path { writes := true, creates := true, appends := true }
  | .overwrite => openPath path { writes := true, creates := true, truncates := true }
  | .write =>
    if ← isOn 'C' then openUnlessRegular path
    else openPath path { writes := true, creates := true, truncates := true }

/-- The signals that a process ignores which writes a long here-document. -/
def ignoredByWriter : List Signal := [2, 3, 1, 20]

/-- Write a here-document into a pipe and give the descriptor from which it is read. The pipe is
there before the text is expanded, and stays open if that fails. A long text is written by a process
of its own. -/
def openDocument (evaluator : Evaluator) (document : Nat) : Run Nat := do
  let word := ((← get).documents.lookup document).getD []
  let (source, sink) ← (Expansion.makePipe : Program _)
  let text ← Expansion.document evaluator word
  if text.length ≤ Machine.pipeUnit then
    let _ ← (Program.write sink text : Program _)
  else
    let _ ← Run.fork do
      Program.close source
      for signal in ignoredByWriter do
        Signals.dispose signal .ignored
      let _ ← (Program.write sink text : Program _)
      Run.leave 0
  Program.close sink
  return source

/-! ### Descriptors -/

/-- The least descriptor to which others are moved out of the way. -/
def leastAside : Nat := 10

/-- Move a descriptor out of the way. -/
def setAside (descriptor : Nat) : Program Saved :=
  Program.call fun process kernel =>
    match kernel.slot? process descriptor with
    | none => (.closed, kernel)
    | some slot =>
      let (other, kernel) := kernel.addDescriptor process leastAside slot.file true
      (.moved other, kernel.setDescriptor process descriptor none)

/-- Make a descriptor a copy of another one, if that one is open. -/
def copyDescriptor (source target : Nat) : Program Bool :=
  Program.call fun process kernel =>
    match kernel.slot? process source with
    | none => (false, kernel)
    | some slot =>
      (true, kernel.setDescriptor process target (some { slot with isPrivate := false }))

/-- Note how a descriptor was before, in the innermost command with redirections. -/
def noteDisplaced (descriptor : Nat) (saved : Saved) : Run Unit := modify fun shell =>
  { shell with displaced := match shell.displaced with
    | frame :: rest => ((descriptor, saved) :: frame.filter (·.1 ≠ descriptor)) :: rest
    | [] => [] }

/-- What a redirection puts in the place of a descriptor. -/
inductive Source where
  | nothing
  | opened (descriptor : Nat)
  | copied (descriptor : Nat)

/-- Put something in the place of a descriptor. -/
def place (source : Source) (descriptor : Nat) : Run Unit := do
  match source with
  | .nothing => Program.close descriptor
  | .opened other => Expansion.moveDescriptor other descriptor
  | .copied other =>
    if !(← (copyDescriptor other descriptor : Program _)) then
      faultOf (Decimal.ofNat other ++ ": Bad file descriptor")

/-- Put something in the place of a descriptor, which is noted so that it can come back. -/
def displace (source : Source) (descriptor : Nat) : Run Unit := do
  let isNothing := match source with
    | .nothing => true
    | _ => false
  match ((← get).displaced.headD []).lookup descriptor with
  | some saved =>
    if isNothing && saved = .closed then noteDisplaced descriptor .untouched
    place source descriptor
  | none =>
    let isInPlace : Bool := match source with
      | .opened other => other = descriptor
      | _ => false
    if isInPlace then noteDisplaced descriptor .closed
    else
      let saved ← (setAside descriptor : Program _)
      noteDisplaced descriptor (if isNothing && saved = .closed then .untouched else saved)
      if !isNothing then place source descriptor

/-- Carry out a redirection, which is taken back later if `isTemporary` holds. -/
def carryOut (evaluator : Evaluator) (isTemporary : Bool) (redirection : Prepared) : Run Unit := do
  let put (source : Source) (descriptor : Nat) : Run Unit :=
    if isTemporary then displace source descriptor else place source descriptor
  match redirection with
  | .file descriptor mode path => put (.opened (← openFile mode path)) descriptor
  | .copy descriptor none => put .nothing descriptor
  | .copy descriptor (some source) =>
    if source = descriptor then return else put (.copied source) descriptor
  | .here descriptor document => put (.opened (← openDocument evaluator document)) descriptor

/-! ### Taking back -/

/-- Take the redirections of the innermost command back, or only forget them if `isKept` holds. -/
def takeBack (isKept : Bool) : Run Unit := do
  let shell ← get
  match shell.displaced with
  | [] => return
  | frame :: rest =>
    set { shell with displaced := rest }
    for descriptor in List.range leastAside do
      match frame.lookup descriptor with
      | none => pure ()
      | some .untouched => pure ()
      | some .closed => if !isKept then Program.close descriptor
      | some (.moved other) =>
        if !isKept then let _ ← (copyDescriptor other descriptor : Program _)
        Program.close other

/-- Take redirections back until there are those of so many commands, at most so often. -/
def takeBackTo (depth : Nat) : Nat → Run Unit
  | 0 => return
  | fuel + 1 => do
    if (← get).displaced.length ≤ depth then return
    takeBack false
    takeBackTo depth fuel

/-- Take redirections back until there are those of so many commands. -/
def unwind (depth : Nat) : Run Unit := do
  takeBackTo depth (← get).displaced.length

/-! ### All of them -/

/-- Expand the words of redirections. -/
def prepareAll (evaluator : Evaluator) (redirections : List Redirection) : Run (List Prepared) :=
  redirections.mapM (prepare evaluator)

/-- Carry out redirections for a while. It gives whether they succeeded. -/
def attempt (evaluator : Evaluator) (redirections : List Prepared) : Run Bool := do
  match ← Run.observe (redirections.forM (carryOut evaluator true)) with
  | .ok () => return true
  | .error .error => return false
  | .error interrupt => throw interrupt

/-- Begin a command with redirections. -/
def enter (redirections : List Redirection) : Run Unit := do
  if !redirections.isEmpty then
    modify fun shell => { shell with displaced := [] :: shell.displaced }

end Redirection

end Relocation.Shell
