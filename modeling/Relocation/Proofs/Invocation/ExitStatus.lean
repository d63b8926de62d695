import Relocation.Libraries
import Relocation.Proofs.Invocation.Course
import Relocation.Proofs.Launch.Diagnostics
import Relocation.Proofs.Launch.Results
import Relocation.Proofs.WaitStatus

/-!
# The exit status of an invocation

An invocation exits with zero only if it came to start the shell and the shell exited with
zero. Otherwise the exit status tells what happened: the shell's own code, 128 more
than the signal that killed it, or one of three statuses for a failure of the launcher
itself.
-/

namespace Relocation

/-- Only the empty text has no bytes. -/
theorem Bytes.ofString_eq_nil_iff {text : String} : ofString text = [] ↔ text = "" := by
  have hnonempty : ∀ c : Char, String.utf8EncodeChar c ≠ [] := by
    intro c hnil
    have hlength := String.length_utf8EncodeChar c
    have hpos := c.utf8Size_pos
    rw [hnil, List.length_nil] at hlength
    omega
  rw [Bytes.ofString, List.flatMap_eq_nil_iff, ← String.toList_eq_nil_iff,
    List.eq_nil_iff_forall_not_mem]
  exact forall_congr' fun c => ⟨fun h hmem => hnonempty c (h hmem), fun h hmem => absurd hmem h⟩

namespace Invocation

/-- Whether the texts of a command line name no process, or there is no command among them. -/
def Unusable (options : Options) : Prop :=
  (∃ text, Target.parse (options.target?.getD "0") = .error text) ∨
    options.command? = none ∨ options.command? = some ""

section

variable (libraries : Libraries) (options : Options) (system : System) (past : History)

/-- The exit status with which carrying out a command line ends. -/
def exitCode : UInt8 :=
  exitStatus (carryOut libraries options system past).1

/-- Whether every stage up to the start of the shell succeeds, and the shell ends with a status. -/
def Runs (status : WaitStatus) : Prop :=
  system.reply past .pause = .ok () ∧ ∃ request, requestOf options = .ok request ∧
    request.Runs system (past ++ readyEvents libraries options system past request) status

/-- Whether the launcher comes to see that it has no process for a target or no command. -/
def Refuses : Prop :=
  system.reply past .pause = .ok () ∧ Unusable options

/-- Whether the launcher comes to see that the length of the encoded command is wrong. -/
def Misencoded : Prop :=
  system.reply past .pause = .ok () ∧ ∃ request, requestOf options = .ok request ∧
    request.Misencoded system (past ++ readyEvents libraries options system past request)

end

variable {libraries : Libraries} {options : Options} {system : System} {past : History}
  {failure : Failure} {result : Except Failure Ending} {events : History}

/-- A command line makes a request exactly if its texts are usable. -/
theorem exists_requestOf_ok_iff :
    (∃ request, requestOf options = .ok request) ↔ ¬ Unusable options := by
  rw [requestOf, Request.ofTexts]
  cases hparse : Target.parse (options.target?.getD "0") with
  | error text =>
    have hunusable : Unusable options := Or.inl ⟨text, hparse⟩
    exact iff_of_false (by rintro ⟨request, h⟩; cases h) (not_not_intro hunusable)
  | ok target =>
    cases hcommand : options.command? with
    | none =>
      have hunusable : Unusable options := Or.inr (Or.inl hcommand)
      exact iff_of_false (by rintro ⟨request, h⟩; cases h) (not_not_intro hunusable)
    | some text =>
      by_cases hempty : text = ""
      · subst hempty
        have hunusable : Unusable options := Or.inr (Or.inr hcommand)
        exact iff_of_false (by rintro ⟨request, h⟩; cases h) (not_not_intro hunusable)
      · have husable : ¬ Unusable options := by
          simp [Unusable, hparse, hcommand, hempty]
        obtain ⟨byte, rest, hbytes⟩ :=
          List.exists_cons_of_ne_nil (mt Bytes.ofString_eq_nil_iff.mp hempty)
        rw [Option.map_some, hbytes]
        exact iff_of_true ⟨_, rfl⟩ husable

/-- A request is refused with 1. -/
theorem exitStatus_of_requestOf (h : requestOf options = .error failure) :
    failure.exitStatus = 1 := by
  rcases Request.ofTexts_error_cases h with rfl | ⟨text, _, rfl⟩ <;> rfl

/-- A command line is carried out to its end exactly if every stage succeeds and the shell ends,
and then it ends with the exit status for that. -/
theorem Course.eq_ok_iff (h : Course libraries options system past result events)
    {ending : Ending} :
    result = .ok ending ↔ ∃ status, Runs libraries options system past status ∧
      ending = .launched status.exitStatus := by
  constructor
  · rintro rfl
    cases h with
    | @launched request status events hpause hrequest hlaunch =>
      have hcourse := Request.course_of_launch hlaunch
      exact ⟨status, ⟨hpause, request, hrequest, hcourse.eq_ok_iff.mp rfl⟩, rfl⟩
  · rintro ⟨status, ⟨hpause, request, hrequest, hruns⟩, rfl⟩
    have hok := (launch_course request system _).eq_ok_iff.mpr hruns
    cases h with
    | unpaused hfailed => simp [hpause] at hfailed
    | refused _ hfailed => simp [hrequest] at hfailed
    | failed _ hother hfailed =>
      obtain rfl := Except.ok.inj (hrequest.symm.trans hother)
      simp [hfailed] at hok
    | launched _ hother hlaunch =>
      obtain rfl := Except.ok.inj (hrequest.symm.trans hother)
      rw [hlaunch] at hok
      obtain rfl := Except.ok.inj hok
      rfl

/-- A failure is reported with 1 if the texts are refused, with 254 if the length of the encoded
command is wrong and with 255 otherwise. -/
theorem Course.exitStatus_of_error
    (h : Course libraries options system past (.error failure) events) :
    (Refuses options system past ∧ ¬ Misencoded libraries options system past ∧
        failure.exitStatus = 1) ∨
      (¬ Refuses options system past ∧ Misencoded libraries options system past ∧
        failure.exitStatus = 254) ∨
      (¬ Refuses options system past ∧ ¬ Misencoded libraries options system past ∧
        failure.exitStatus = 255) := by
  cases h with
  | unpaused hpause =>
    have hstopped : system.reply past .pause ≠ .ok () := by simp [hpause]
    exact Or.inr (Or.inr ⟨fun h => hstopped h.1, fun h => hstopped h.1, rfl⟩)
  | refused hpause hrequest =>
    have hunusable : Unusable options := by
      by_contra husable
      obtain ⟨request, hok⟩ := exists_requestOf_ok_iff.mpr husable
      simp [hrequest] at hok
    refine Or.inl ⟨⟨hpause, hunusable⟩, ?_, exitStatus_of_requestOf hrequest⟩
    rintro ⟨_, request, hok, _⟩
    simp [hrequest] at hok
  | @failed request _ events hpause hrequest hlaunch =>
    have husable : ¬ Refuses options system past :=
      fun h => exists_requestOf_ok_iff.mp ⟨request, hrequest⟩ h.2
    have hmisencoded : Misencoded libraries options system past ↔
        request.Misencoded system (past ++ readyEvents libraries options system past request) := by
      refine ⟨fun ⟨_, other, hother, h⟩ => ?_, fun h => ⟨hpause, request, hrequest, h⟩⟩
      obtain rfl := Except.ok.inj (hrequest.symm.trans hother)
      exact h
    have hcourse := Request.course_of_launch hlaunch
    rw [hmisencoded]
    rcases hcourse.exitStatus_of_error with ⟨hmis, hstatus⟩ | ⟨hmis, hstatus⟩
    · exact Or.inr (Or.inl ⟨husable, hmis, hstatus⟩)
    · exact Or.inr (Or.inr ⟨husable, hmis, hstatus⟩)

/-- The exit status of a command line whose shell ended is the one for that end. -/
theorem exitCode_of_runs {status : WaitStatus} (h : Runs libraries options system past status) :
    exitCode libraries options system past = status.exitStatus := by
  have hok := (carryOut_course libraries options system past).eq_ok_iff.mpr ⟨status, h, rfl⟩
  rw [exitCode, hok]
  rfl

/-- Carrying out a command line fails exactly if some stage up to the start of the shell does. -/
theorem carryOut_error_iff :
    (∃ failure, (carryOut libraries options system past).1 = .error failure) ↔
      ∀ status, ¬ Runs libraries options system past status := by
  have hcourse := carryOut_course libraries options system past
  constructor
  · rintro ⟨failure, hfailure⟩ status hruns
    have hok := hcourse.eq_ok_iff.mpr ⟨status, hruns, rfl⟩
    simp [hfailure] at hok
  · intro hnone
    cases hresult : (carryOut libraries options system past).1 with
    | error failure => exact ⟨failure, rfl⟩
    | ok ending =>
      obtain ⟨status, hruns, _⟩ := hcourse.eq_ok_iff.mp hresult
      exact absurd hruns (hnone status)

/-- The exit status of a failure of the launcher is one of three, by what it comes to see. -/
theorem exitCode_of_error (h : (carryOut libraries options system past).1 = .error failure) :
    (Refuses options system past ∧ ¬ Misencoded libraries options system past ∧
        exitCode libraries options system past = 1) ∨
      (¬ Refuses options system past ∧ Misencoded libraries options system past ∧
        exitCode libraries options system past = 254) ∨
      (¬ Refuses options system past ∧ ¬ Misencoded libraries options system past ∧
        exitCode libraries options system past = 255) := by
  have hcourse := carryOut_course libraries options system past
  have hcode : exitCode libraries options system past = failure.exitStatus := by
    rw [exitCode, h]
    rfl
  rw [h] at hcourse
  rw [hcode]
  exact hcourse.exitStatus_of_error

/-- The exit status is zero exactly if every stage succeeds and the shell exits with zero. -/
theorem exitCode_eq_zero_iff :
    exitCode libraries options system past = 0 ↔
      ∃ status, Runs libraries options system past status ∧ status.ExitedWith 0 := by
  constructor
  · intro hzero
    by_cases hnone : ∀ status, ¬ Runs libraries options system past status
    · obtain ⟨failure, hfailure⟩ := carryOut_error_iff.mpr hnone
      rcases exitCode_of_error hfailure with ⟨_, _, h⟩ | ⟨_, _, h⟩ | ⟨_, _, h⟩ <;>
        rw [hzero] at h <;> cases h
    · obtain ⟨status, hruns⟩ := not_forall_not.mp hnone
      rw [exitCode_of_runs hruns] at hzero
      exact ⟨status, hruns, WaitStatus.exitStatus_eq_zero_iff.mp hzero⟩
  · rintro ⟨status, hruns, hexited⟩
    rw [exitCode_of_runs hruns]
    exact WaitStatus.exitStatus_eq_zero_iff.mpr hexited

/-- The exit status of an invocation, by what happens when its command line is carried out. -/
structure Classified (libraries : Libraries) (options : Options) (system : System)
    (past : History) : Prop where
  /-- A run whose arguments can be read exits as carrying them out does. -/
  session_eq : ∀ arguments, libraries.parse arguments = .ok options →
    exitStatus (session libraries arguments system past).1 =
      exitCode libraries options system past
  /-- It is zero exactly if every stage succeeds and the shell exits with zero. -/
  eq_zero_iff : exitCode libraries options system past = 0 ↔
    ∃ status, Runs libraries options system past status ∧ status.ExitedWith 0
  /-- It is the code with which the shell exits. -/
  exited : ∀ status code, Runs libraries options system past status → status.ExitedWith code →
    (exitCode libraries options system past).toNat = code
  /-- It is 128 more than the signal that kills the shell. -/
  killed : ∀ status signal, Runs libraries options system past status → status.KilledBy signal →
    (exitCode libraries options system past).toNat = 128 + signal ∧
      129 ≤ (exitCode libraries options system past).toNat ∧
      (exitCode libraries options system past).toNat ≤ 254
  /-- It is 255 for any other end of the shell. -/
  otherwise : ∀ status, Runs libraries options system past status →
    (∀ code, ¬ status.ExitedWith code) → (∀ signal, ¬ status.KilledBy signal) →
    exitCode libraries options system past = 255
  /-- A core image makes no difference. -/
  core : ∀ status : WaitStatus,
    (WaitStatus.mk (status.bits ||| 0x80)).exitStatus = status.exitStatus
  /-- The launcher fails exactly if some stage up to the start of the shell does. -/
  failed_iff : (∃ failure, (carryOut libraries options system past).1 = .error failure) ↔
    ∀ status, ¬ Runs libraries options system past status
  /-- It fails with 1 if there is no valid target or no command. -/
  refused : (∀ status, ¬ Runs libraries options system past status) →
    Refuses options system past → exitCode libraries options system past = 1
  /-- It fails with 254 if the encoded command has the wrong length. -/
  misencoded : (∀ status, ¬ Runs libraries options system past status) →
    Misencoded libraries options system past → exitCode libraries options system past = 254
  /-- It fails with 255 otherwise. -/
  failed : (∀ status, ¬ Runs libraries options system past status) →
    ¬ Refuses options system past → ¬ Misencoded libraries options system past →
    exitCode libraries options system past = 255

/-- The exit status of an invocation is classified for every command line that can be read. -/
theorem exitCode_classified (libraries : Libraries) (options : Options) (system : System)
    (past : History) : Classified libraries options system past where
  session_eq arguments hparse := by rw [session_of_parse hparse, exitCode]
  eq_zero_iff := exitCode_eq_zero_iff
  exited status code hruns h := by
    rw [exitCode_of_runs hruns]
    exact h.toNat_exitStatus
  killed status signal hruns h := by
    rw [exitCode_of_runs hruns]
    have hsum := h.toNat_exitStatus
    obtain ⟨_, hpos, hlt⟩ := h
    omega
  otherwise status hruns hcode hsignal := by
    rw [exitCode_of_runs hruns]
    exact WaitStatus.exitStatus_of_neither hcode hsignal
  core := WaitStatus.exitStatus_or_core
  failed_iff := carryOut_error_iff
  refused hnone href := by
    obtain ⟨failure, hfailure⟩ := carryOut_error_iff.mpr hnone
    rcases exitCode_of_error hfailure with ⟨_, _, h⟩ | ⟨hno, _⟩ | ⟨hno, _⟩
    · exact h
    · exact absurd href hno
    · exact absurd href hno
  misencoded hnone hmis := by
    obtain ⟨failure, hfailure⟩ := carryOut_error_iff.mpr hnone
    rcases exitCode_of_error hfailure with ⟨_, hno, _⟩ | ⟨_, _, h⟩ | ⟨_, hno, _⟩
    · exact absurd hmis hno
    · exact h
    · exact absurd hmis hno
  failed hnone href hmis := by
    obtain ⟨failure, hfailure⟩ := carryOut_error_iff.mpr hnone
    rcases exitCode_of_error hfailure with ⟨hno, _⟩ | ⟨_, hno, _⟩ | ⟨_, _, h⟩
    · exact absurd hno href
    · exact absurd hno hmis
    · exact h

/-- An obliging system on which the shell ends with a status. -/
def endingWith (status : WaitStatus) : System where
  reply past call :=
    match call with
    | .spawn _ => .ok status
    | other => (System.obliging [] .empty).reply past other
  reserves _ _ := true
  environment := .empty

/-- A shell that signal 15 killed with a core image makes the launcher exit with 143. -/
theorem exitCode_killed_with_core :
    (exitCode .common
      { target? := some " +7", command? := some "Og==", selection := { net := true },
        importsEnvironment := false, isVerbose := true }
      (endingWith ⟨0x8f⟩) []).toNat = 128 + 15 := by
  have hruns : Runs .common
      { target? := some " +7", command? := some "Og==", selection := { net := true },
        importsEnvironment := false, isVerbose := true }
      (endingWith ⟨0x8f⟩) [] ⟨0x8f⟩ :=
    ⟨rfl, _, rfl, .empty, [58], rfl, rfl, rfl, by decide, rfl⟩
  exact ((exitCode_classified _ _ _ _).killed _ 15 hruns (by decide)).1

end Invocation

end Relocation
