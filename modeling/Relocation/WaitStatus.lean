import Relocation.Signal

/-!
# Wait statuses

The kernel describes the end of a process by 32 bits. The low seven bits tell
whether it exited (all clear), was stopped (all set) or was killed by a signal. The
exit status of a launch is the command's own, or 128 more than the signal.
-/

namespace Relocation

/-- The 32 bits with which the kernel describes how a process ended. -/
structure WaitStatus where
  bits : UInt32
  deriving DecidableEq, Repr

namespace WaitStatus

/-- The status of a process that exited with `code`. -/
def exited (code : UInt8) : WaitStatus :=
  ⟨code.toUInt32 <<< 8⟩

/-- The status of a process that a signal killed. -/
def killed (signal : Signal) : WaitStatus :=
  ⟨signal.toUInt32 &&& 0x7f⟩

/-- The code with which the process exited, if it did. -/
def code? (status : WaitStatus) : Option UInt8 :=
  if status.bits &&& 0x7f = 0 then some (status.bits >>> 8).toUInt8 else none

/-- The signal that killed the process, if one did. -/
def signal? (status : WaitStatus) : Option Signal :=
  let low := status.bits &&& 0x7f
  if low = 0 ∨ low = 0x7f then none else some low.toNat

/-- The exit status that passes a command's end on: its own code, 128 more than the signal that
killed it, and 255 for anything else. -/
def exitStatus (status : WaitStatus) : UInt8 :=
  match status.code?, status.signal? with
  | some code, _ => code
  | none, some signal => 128 + signal.toUInt8
  | none, none => 255

end WaitStatus

end Relocation
