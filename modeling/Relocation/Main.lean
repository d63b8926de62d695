import Relocation.Machine.Report

/-!
# The program

A rehearsal of a launch. The command line, the variables that matter and the target's
environment are real; the machine on which the command runs is a plain one that
exists only in memory, on which the target shares every namespace with the launcher.
-/

namespace Relocation.Rehearsal

open Machine (Host Peer)

/-- The variables that are inherited. -/
def inheritedNames : List String := ["HOME", "PATH", "RUST_LOG"]

/-- The inode numbers of the namespaces of a plain machine. -/
def inodes (kind : Namespace.Kind) : Nat :=
  4026531834 + Namespace.Kind.entryOrder.idxOf kind

/-- The name of a plain machine. -/
def hostname : Bytes := Bytes.ofString "localhost"

/-- A plain machine with the given variables and processes. -/
def host (entries : List Environment.Entry) (peers : List Peer) : Host where
  kernel := Machine.standardKernel Machine.Execution.programNames
  directory := [Machine.slashByte]
  environment := .ofEntries entries
  inodes := inodes
  hostname := hostname
  peers := peers

/-- The target that a command line names, if it names one. -/
def target? (arguments : List String) : Option Target :=
  match CommandLine.parse arguments with
  | .ok options => (options.target?.bind fun text => (Target.parse text).toOption)
  | .error _ => none

/-- The variables that are inherited and set. -/
def readEntries : IO (List Environment.Entry) :=
  inheritedNames.filterMapM fun name => do
    return (← IO.getEnv name).map fun value => (Bytes.ofString name, Bytes.ofString value)

/-- The target as a process of a plain machine, if its environment can be read. -/
def readPeer (target : Target) : IO (List Peer) := do
  let path := Utf8.textLossy target.environmentPath
  match ← (IO.FS.readBinFile path).toBaseIO with
  | .ok block =>
    return [{ pid := target.pid, block := block.toList, inodes := inodes, hostname := hostname }]
  | .error _ => return []

/-- The processes that a command line names. -/
def readPeers (arguments : List String) : IO (List Peer) :=
  match target? arguments with
  | some target => readPeer target
  | none => return []

/-- Write bytes to a stream. -/
def write (stream : IO.FS.Stream) (bytes : Bytes) : IO Unit := do
  stream.write ⟨bytes.toArray⟩
  stream.flush

end Relocation.Rehearsal

/-- Rehearse a launch and exit with its status. -/
def main (arguments : List String) : IO UInt32 := do
  let entries ← Relocation.Rehearsal.readEntries
  let peers ← Relocation.Rehearsal.readPeers arguments
  let report := (Relocation.Rehearsal.host entries peers).invoke arguments
  Relocation.Rehearsal.write (← IO.getStdout) report.output
  Relocation.Rehearsal.write (← IO.getStderr) report.errors
  return report.status.toUInt32
