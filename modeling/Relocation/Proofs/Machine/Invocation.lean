import Relocation.Machine.Report
import Relocation.Proofs.Invocation.ExitStatus
import Relocation.Proofs.Launch.Image

/-!
# Invocations on a machine

On a host the shell that an invocation starts runs to its end, and the invocation passes
that end on. A host refuses to start a process for a zero byte only if there is one, so a
launch never fails for that reason unless the launcher inherited one. As long as no
process is started, everything that is written is the launcher's own.
-/

namespace Relocation.Machine

open Environment Invocation

/-- The wait status that tells how a process ended. -/
def Ending.waitStatus : Ending → WaitStatus
  | .exited status => .exited status.toUInt8
  | .killed signal => .killed signal

/-- A process that exited has exited with its status, of which the lowest byte counts. -/
theorem Ending.exitedWith_waitStatus (code : Nat) :
    (Ending.exited code).waitStatus.ExitedWith (code % 256) := by
  have hbits : (WaitStatus.exited code.toUInt8).bits.toNat = code % 256 * 256 := by
    simp [WaitStatus.exited]
    omega
  rw [waitStatus, WaitStatus.ExitedWith, hbits]
  omega

/-- A process that a signal killed was killed by that signal. -/
theorem Ending.killedBy_waitStatus {signal : Nat} (hpos : 0 < signal) (hlt : signal < 127) :
    (Ending.killed signal).waitStatus.KilledBy signal := by
  have hmask (number : Nat) : number &&& 127 = number % 128 :=
    Nat.and_two_pow_sub_one_eq_mod number 7
  have hbits : (WaitStatus.killed signal).bits.toNat = signal := by
    simp [WaitStatus.killed, hmask]
    omega
  rw [waitStatus, WaitStatus.KilledBy, hbits]
  omega

namespace Host

variable {host : Host} {situation : Situation} {image : ProcessImage} {arguments : List String}
  {options : Options} {status : WaitStatus}

/-! ### Starting a process -/

/-- A host starts a process where the launcher stands. -/
theorem reply_spawn (host : Host) (history : History) (image : ProcessImage) :
    host.system.reply history (.spawn image) = spawn (host.situation history) image := rfl

/-- A host refuses to start a process for a zero byte exactly if there is one in it. -/
theorem spawn_eq_nulInArgument_iff :
    spawn situation image = .error .nulInArgument ↔ image.hasNul = true := by
  rw [spawn]
  constructor
  · intro h
    by_contra hfree
    rw [if_neg hfree] at h
    split at h
    · cases h
    · split at h <;> cases h
  · exact fun h => if_pos h

/-- A process that is started runs to its end on the machine, and its wait status tells how it
ended. -/
theorem eq_waitStatus_of_spawn (h : spawn situation image = .ok status) :
    status = (run situation image).ending.waitStatus := by
  rw [spawn] at h
  split at h
  · cases h
  · split at h
    · cases h
    · split at h
      · cases h
      · rw [← Except.ok.inj h]
        cases (run situation image).ending <;> rfl

/-- A launch on a host does not fail for a zero byte if the launcher inherited none. -/
theorem launch_ne_nulInArgument {past : History} (request : Request)
    (hinherited : ∀ entry ∈ (past.environment host.environment).entries,
      0 ∉ entry.1 ∧ 0 ∉ entry.2) :
    (launch request host.system past).1 ≠ .error (.spawn .nulInArgument) := by
  intro hresult
  have hcourse := launch_course request host.system past
  rw [hresult] at hcourse
  obtain ⟨image, before, hspawn, hreply⟩ := hcourse.reply_of_spawn_error
  have hnul : image.hasNul = true := spawn_eq_nulInArgument_iff.mp hreply
  simp [hcourse.hasNul_of_spawn_mem hinherited hspawn] at hnul

/-! ### The exit status -/

/-- An invocation whose arguments can be read exits as carrying them out does. -/
theorem status_invoke (hparse : Libraries.common.parse arguments = .ok options) :
    (host.invoke arguments).status = exitCode .common options host.system [] := by
  rw [invoke, session_of_parse hparse]
  rfl

/-- Whether the shell for the command of some options runs on a machine and comes to an end. -/
def RunsShell (host : Host) (options : Options) (ending : Ending) : Prop :=
  ∃ request past command environment, requestOf options = .ok request ∧
    request.decoding host.system past = .ok command ∧
    (run (host.situation (past ++ request.decodedEvents host.system past command))
      (shellImage command environment)).ending = ending

/-- An invocation whose stages all succeed runs the shell for the decoded command on the machine. -/
theorem runsShell_of_runs (h : Runs .common options host.system [] status) :
    ∃ ending : Ending, host.RunsShell options ending ∧ status = ending.waitStatus := by
  obtain ⟨_, request, hrequest, overlay, command, _, _, hdecode, _, hshell⟩ := h
  generalize [] ++ readyEvents .common options host.system [] request = past at hdecode hshell
  -- The reply is rewritten, as to unfold it would be to run the shell.
  rw [Request.shellReply, reply_spawn] at hshell
  exact ⟨_, ⟨request, past, command, _, hrequest, hdecode, rfl⟩, eq_waitStatus_of_spawn hshell⟩

/-- An invocation that comes to run the shell exits with the status with which the shell exited, or
with 128 more than the signal that killed it. -/
theorem toNat_status_invoke (hparse : Libraries.common.parse arguments = .ok options)
    (hruns : Runs .common options host.system [] status) :
    ∃ ending : Ending, host.RunsShell options ending ∧
      (∀ code, ending = .exited code → (host.invoke arguments).status.toNat = code % 256) ∧
      ∀ signal, ending = .killed signal → 0 < signal → signal < 127 →
        (host.invoke arguments).status.toNat = 128 + signal := by
  obtain ⟨ending, hending, rfl⟩ := runsShell_of_runs hruns
  rw [status_invoke hparse, exitCode_of_runs hruns]
  refine ⟨ending, hending, ?_, ?_⟩
  · rintro code rfl
    exact (Ending.exitedWith_waitStatus code).toNat_exitStatus
  · rintro signal rfl hpos hlt
    rw [(Ending.killedBy_waitStatus hpos hlt).toNat_exitStatus, Nat.add_comm]

/-- An invocation exits with zero only if the shell for its command ran on the machine and exited
with zero. -/
theorem exited_of_status_invoke (hparse : Libraries.common.parse arguments = .ok options)
    (hzero : (host.invoke arguments).status = 0) :
    ∃ ending : Ending, host.RunsShell options ending ∧ ending.waitStatus.ExitedWith 0 := by
  rw [status_invoke hparse] at hzero
  obtain ⟨status, hruns, hexited⟩ := exitCode_eq_zero_iff.mp hzero
  obtain ⟨ending, hending, rfl⟩ := runsShell_of_runs hruns
  exact ⟨ending, hending, hexited⟩

/-! ### What is written -/

/-- The lines of records. -/
def linesOfRecords (records : List Record) : Bytes :=
  records.flatMap fun record => Bytes.ofString (Invocation.line record.line)

/-- While no process is started, nothing is written but the lines of the records that the filter
admits. -/
theorem errorsFrom_of_unspawned {history : History}
    (h : ∀ image, .spawn image ∉ history.calls) (situation : Situation) (filter : Filter) :
    host.errorsFrom situation filter history = linesOfRecords (history.writtenFrom filter) := by
  induction history generalizing situation filter with
  | nil => rfl
  | cons event rest ih =>
    cases event with
    | recorded record =>
      have hrest := ih h (host.step situation (.recorded record)) filter
      rw [errorsFrom, History.writtenFrom, hrest]
      split <;> rfl
    | logging other =>
      exact ih h _ other
    | called call reply =>
      have hrest := ih fun image hmem => h image (List.mem_cons_of_mem _ hmem)
      cases call with
      | spawn image => exact absurd List.mem_cons_self (h image)
      | _ => exact hrest _ filter

/-- While no process is started, none writes anything. -/
theorem outcomesAfter_of_unspawned {history : History} (h : ∀ image, .spawn image ∉ history.calls)
    (situation : Situation) : host.outcomesAfter situation history = [] := by
  induction history generalizing situation with
  | nil => rfl
  | cons event rest ih =>
    cases event with
    | called call reply =>
      have hrest := ih fun image hmem => h image (List.mem_cons_of_mem _ hmem)
      cases call with
      | spawn image => exact absurd List.mem_cons_self (h image)
      | _ => exact hrest _
    | _ => exact ih h _

/-- What an invocation writes that starts no process: its text on the standard output, and on the
standard error a line for each record that is written and then how it ended. -/
theorem invoke_of_unspawned {result : Except Failure Invocation.Ending} {history : History}
    (hrun : (session .common arguments).run host.system = (result, history))
    (h : ∀ image, .spawn image ∉ history.calls) :
    (host.invoke arguments).output = Bytes.ofString (outputText result) ∧
      (host.invoke arguments).errors =
        linesOfRecords history.written ++ Bytes.ofString (closingText .customary result) := by
  rw [invoke, hrun]
  constructor
  · have hnone : host.output history = [] := by
      rw [output, outcomes, outcomesAfter_of_unspawned h, List.flatMap_nil]
    exact congrArg (· ++ _) hnone
  · exact congrArg (· ++ _) (errorsFrom_of_unspawned h host.start .off)

end Host

end Relocation.Machine
