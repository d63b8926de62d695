import Relocation.Bytes
import Relocation.Text.Blank
import Relocation.Text.Decimal

/-!
# The target process

The process whose environment and namespaces are borrowed is named by its process
ID, a positive 32-bit integer. Only the number is held: the process may end at any
time, and then its directory under `/proc` is gone.
-/

namespace Relocation

/-- The largest process ID. -/
def maxProcessId : Nat := 2147483647

/-- The process whose environment and namespaces are borrowed, by its ID. -/
structure Target where
  pid : Nat
  pos : 0 < pid := by decide
  le_max : pid ≤ maxProcessId := by decide
  deriving DecidableEq

namespace Target

/-- The target with an ID, or the text of the ID if no process can have it. -/
def ofInt (pid : Int) : Except String Target :=
  if h : 0 < pid.toNat ∧ pid.toNat ≤ maxProcessId then .ok ⟨pid.toNat, h.1, h.2⟩
  else .error (Decimal.ofInt pid)

/-- Read a target from an argument: a decimal integer, with blanks around it allowed. A text that
is no 32-bit integer is given back as it stands, and an integer that is no process ID in decimal. -/
def parse (argument : String) : Except String Target :=
  match Decimal.integer? (Blank.trim argument.toList) with
  | some value =>
    if -2147483648 ≤ value ∧ value ≤ 2147483647 then ofInt value else .error argument
  | none => .error argument

/-- The process ID in decimal. -/
def text (target : Target) : String :=
  Decimal.ofNat target.pid

/-- The directory of the process. -/
def directory (target : Target) : Bytes :=
  Bytes.ofString "/proc/" ++ Bytes.ofString target.text

/-- The file that holds the environment with which the process was started. -/
def environmentPath (target : Target) : Bytes :=
  target.directory ++ Bytes.ofString "/environ"

end Target

end Relocation
