import Relocation.Shell.Builtin.Options

/-!
# Builtins on signals
-/

namespace Relocation.Shell.Builtin

open Machine (Program)

/-- The number of signals, with the end of the shell counted as one. -/
def signalCount : Nat := 65

/-- The signal that is known to the system by a name but not to the shell. -/
def namelessSignal : Signal := 16

/-- The name of a signal for the shell. The signals without names of their own are counted from the
ends of their range. -/
def signalName (signal : Signal) : String :=
  match if signal = namelessSignal then none else signal.name? with
  | some name => name
  | none =>
    if signal = 0 then "EXIT"
    else if signal = 34 then "RTMIN"
    else if signal = 64 then "RTMAX"
    else if 34 < signal ∧ signal < 50 then "RTMIN+" ++ Decimal.ofNat (signal - 34)
    else if 50 ≤ signal ∧ signal < 64 then "RTMAX-" ++ Decimal.ofNat (64 - signal)
    else Decimal.ofNat signal

/-- The signal whose number a word is. -/
def numbered? (word : Bytes) : Option Signal :=
  (Decimal.natural? (word.map fun byte => Char.ofNat byte.toNat)).filter (· < signalCount)

/-- The signal that a word names, in any case of letters, or whose number it is. -/
def signal? (least : Signal) (word : Bytes) : Option Signal :=
  let text := word.map fun byte => Char.ofNat byte.toNat
  (numbered? word).orElse fun _ =>
    (List.range signalCount).find? fun signal =>
      least ≤ signal && (signalName signal).toUpper.toList = text.map (·.toUpper)

/-- Report a wrong use of `kill`. -/
def misuseOfKill {α : Type} : Run α :=
  faultOf "Usage: kill [-s sigspec | -signum | -sigspec] [pid | job]... or\nkill -l [exitstatus]"

/-- Print the names of signals, or of the one behind a number or the status of a killed child. -/
def listSignals : List Bytes → Run Nat
  | [] => do
    let names := (List.range signalCount).map fun signal =>
      if signal = 0 then "0\n" else signalName signal ++ "\n"
    print (Bytes.ofString (String.join names))
    return 0
  | word :: _ => do
    let number ← natural word
    let signal := if 128 < number then number - 128 else number
    if 0 < signal ∧ signal < signalCount then
      printLine (Bytes.ofString (signalName signal))
      return 0
    else fault (Bytes.ofString "invalid signal number or exit status: " ++ word)

/-- The signal that is sent if no other is named. -/
def terminationSignal : Signal := 15

/-- What the first arguments of `kill` ask for. -/
inductive KillMode where
  | list (words : List Bytes)
  | send (signal : Signal) (targets : List Bytes)

/-- Read the arguments of `kill`. -/
def readKill (arguments : List Bytes) : Run KillMode := do
  match arguments with
  | [] => misuseOfKill
  | (45 :: word) :: rest =>
    match signal? 1 word with
    | some signal => return .send signal rest
    | none =>
      let (options, rest) ← readOptions "ls:" arguments
      let lists := has 'l' options
      let named ← (options.filter (·.letter = 's')).mapM fun option => do
        match signal? 1 option.argument with
        | some signal => pure signal
        | none => fault (Bytes.ofString "invalid signal number or name: " ++ option.argument)
      match lists, named.getLast? with
      | true, none => return .list rest
      | true, some _ => if rest.isEmpty then return .list rest else misuseOfKill
      | false, signal? => return .send (signal?.getD terminationSignal) rest
  | words => return .send terminationSignal words

/-- A number that stands for processes. -/
def processNumber (word : Bytes) : Run Int := do
  match word with
  | 45 :: group => return -(← natural group : Nat)
  | 37 :: _ =>
    let job ← Jobs.ofName word
    return -((job.members.head?.map (·.process)).getD 0 : Nat)
  | _ => return (← natural word : Nat)

/-- Send a signal to processes. -/
def kill (arguments : List Bytes) : Run Nat := do
  match ← readKill arguments with
  | .list words => listSignals words
  | .send signal targets =>
    if targets.isEmpty then misuseOfKill
    let mut status := 0
    for word in targets do
      let number ← processNumber word
      match ←
          (Program.call fun process kernel => kernel.kill process number signal : Program _) with
      | .ok () => pure ()
      | .error errno =>
        complainOf (errno.libraryText ++ "\n")
        status := 1
    return status

/-- Print the actions for signals as commands that restore them. -/
def printTraps : Run Nat := do
  for signal in List.range signalCount do
    match (← get).traps.lookup signal with
    | some action =>
      printLine (Bytes.ofString "trap -- " ++ quote action ++
        Bytes.ofString (" " ++ signalName signal))
    | none => pure ()
  return 0

/-- Set the action for signals up to the first word that names none. -/
def setTraps (action? : Option Bytes) : List Bytes → Run Nat
  | [] => return 0
  | word :: rest => do
    match signal? 0 word with
    | none =>
      remark (Bytes.ofString "trap: " ++ word ++ Bytes.ofString ": bad trap")
      return 1
    | some signal =>
      Signals.setTrap signal action?
      setTraps action? rest

/-- Set what is done when signals arrive, or at the end of the shell. -/
def trap (arguments : List Bytes) : Run Nat := do
  match ← operands arguments with
  | [] => printTraps
  | [word] => setTraps none [word]
  | action :: words =>
    if (numbered? action).isSome then setTraps none (action :: words)
    else setTraps (if action = [45] then none else some action) words

end Relocation.Shell.Builtin
