import Relocation.Libraries
import Relocation.Machine.Host

/-!
# Running the program on a machine

What a run of the program gives on a host: an exit status and two streams of text. On
the standard error the launcher's lines and what its command writes stand in the
order in which they are written.
-/

namespace Relocation.Machine

namespace Host

/-- The standard error of a history: the records that are written as lines, and in between what
processes wrote. -/
def errorsFrom (host : Host) (situation : Situation) (filter : Filter) : History → Bytes
  | [] => []
  | event :: rest =>
    let next := host.step situation event
    match event with
    | .recorded record =>
      let line := if filter.admits record then
          Bytes.ofString (Invocation.line record.line) else []
      line ++ host.errorsFrom next filter rest
    | .logging filter => host.errorsFrom next filter rest
    | .called (.spawn image) (.ok _) =>
      (run situation image).errors ++ host.errorsFrom next filter rest
    | .called _ _ => host.errorsFrom next filter rest

/-- What a run of the program gives on a host: its exit status and what is written to its standard
output and error. -/
structure Report where
  status : UInt8
  output : Bytes
  errors : Bytes

/-- Run the program on a host. -/
def invoke (host : Host) (arguments : List String) : Report :=
  let (result, history) := (Invocation.session .common arguments).run host.system
  { status := Invocation.exitStatus result
    output := host.output history ++ Bytes.ofString (Invocation.outputText result)
    errors := host.errorsFrom host.start .off history ++
      Bytes.ofString (Invocation.closingText .customary result) }

end Host

end Relocation.Machine
