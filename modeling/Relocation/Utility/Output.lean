import Relocation.Shell.Condition
import Relocation.Shell.Format
import Relocation.Utility.Options

/-!
# Utilities that write their arguments

The programs that do what builtins of the shell do as well.
-/

namespace Relocation.Utility

open Machine (Program)
open Shell (Condition Format.printf Format.unescapeAll)

/-- Write the arguments as a line, without its end after `-n`, and with escapes after `-e`. -/
def echo : Work := fun task => do
  let isOption (word : Bytes) : Bool := match word with
    | 45 :: letters => !letters.isEmpty && letters.all fun byte => [110, 101, 69].contains byte
    | _ => false
  let letters := (task.arguments.takeWhile isOption).flatten
  let line := [32].intercalate (task.arguments.dropWhile isOption)
  let expands := (letters.reverse.find? fun byte => byte = 101 || byte = 69) = some 101
  let (line, ends) := if expands then Format.unescapeAll line else (line, false)
  task.put (if letters.contains 110 || ends then line else line ++ [10])
  return 0

/-- Write formatted arguments. -/
def printf : Work := fun task => do
  let words := match task.arguments with
    | [45, 45] :: rest => rest
    | words => words
  match words with
  | [] => task.misuse (Bytes.ofString "missing operand")
  | format :: arguments =>
    let result := Format.printf format arguments
    task.put result.output
    for complaint in result.complaints do
      task.report complaint
    match result.failure? with
    | some message => task.fail message
    | none => return if result.complaints.isEmpty then 0 else 1

/-- Evaluate a condition. -/
def test : Work := fun task process next =>
  Condition.status task.arguments { process, mainProcess := process, name := task.name }
    fun result _ => next (match result with
      | .ok status => status
      | .error _ => 2)

/-- Evaluate a condition before a closing bracket. -/
def bracketTest : Work := fun task => do
  if task.arguments.getLast? = some [93] then
    test { task with arguments := task.arguments.dropLast }
  else task.fail (Bytes.ofString "missing ']'") 2

end Relocation.Utility
