import Relocation.Proofs.Launch.Entrance
import Relocation.Proofs.Launch.Stages

/-!
# What the log of a launch tells

A launch records each stage when it is reached and each kind of namespace when it was
handled, and nothing in between begins like these records. So the log is an account of
the launch. From its texts it is read which namespaces were entered and which the
launcher was a member of, how far the launch came, and at which stage it failed.
-/

namespace Relocation

open Session Environment Namespace

namespace Request

variable {request : Request} {system : System} {past : History}
  {result : Except Failure WaitStatus} {events : History}

/-- The import of the environment ignores every kind. -/
theorem ignores_importing (request : Request) (system : System) (past : History) (kind : Kind) :
    (request.importing system past).2.Ignores request.target kind where
  calls := request.not_concerns_importing system past kind
  marks membership := by
    cases himport : (request.importing system past).1 with
    | error failure => simp [(requestImport_of_importing himport).marks_of_error]
    | ok overlay => simp [(requestImport_of_importing himport).marks_of_ok]

/-- When the namespaces are joined, it is told of every kind how the launcher came to be in its
namespace. -/
theorem tells_joinedEvents (request : Request) (system : System) (past : History) (kind : Kind) :
    (request.joinedEvents system past).Tells request.target kind := by
  have hentering := (request.entering_entries system past).tells request.selection.nodup_kinds kind
  have himporting := request.ignores_importing system past kind
  have hmark : History.Ignores request.target kind [.recorded .namespacesJoined] :=
    ⟨by simp, by simp [Record.mark?, Record.stage?]⟩
  exact (hmark.agrees_left _).tells ((himporting.agrees_right _).tells hentering)

/-- A launch tells of every kind how the launcher came to be in its namespace. -/
theorem Course.tells (h : request.Course system past result events) (kind : Kind) :
    events.Tells request.target kind := by
  have himporting := request.ignores_importing system past kind
  have hentering := (request.entering_entries system past).tells request.selection.nodup_kinds kind
  have hjoined := request.tells_joinedEvents system past kind
  have hdecoded (command : Bytes) :
      (request.decodedEvents system past command).Tells request.target kind := by
    have hmark : History.Ignores request.target kind [.recorded (.commandDecoded command.length)] :=
      ⟨by simp, by simp [Record.mark?, Record.stage?]⟩
    exact (hmark.agrees_left _).tells hjoined
  cases h with
  | importFailed => exact himporting.tells
  | entryFailed => exact (himporting.agrees_right _).tells hentering
  | decodingFailed => exact hjoined
  | nulFound => exact hjoined
  | spawnFailed =>
    refine (History.Ignores.agrees_left ⟨?_, ?_⟩ _).tells (hdecoded _)
    · simp [Call.Concerns]
    · simp
  | finished =>
    refine (History.Ignores.agrees_left ⟨?_, ?_⟩ _).tells (hdecoded _)
    · simp [Call.Concerns]
    · simp [Record.mark?, Record.stage?]

/-- A launch whose first phase fails leaves no mark. -/
theorem Course.marks_of_importing_error (h : request.Course system past result events)
    {failure : Failure} (himport : (request.importing system past).1 = .error failure) :
    events.marks = [] := by
  cases h with
  | importFailed => exact (requestImport_of_importing himport).marks_of_error
  | entryFailed hok => simp [himport] at hok
  | decodingFailed hok => simp [himport] at hok
  | nulFound hok => simp [himport] at hok
  | spawnFailed hok => simp [himport] at hok
  | finished hok => simp [himport] at hok

/-- A launch whose first phase succeeds leaves the mark of the import, if there was one, and then
those of the namespaces and those of the stages after them. -/
theorem Course.exists_marks_of_importing_ok (h : request.Course system past result events)
    {overlay : Overlay} (himport : (request.importing system past).1 = .ok overlay) :
    ∃ final : List Stage,
      events.marks = request.importStages.map .reached ++ (request.entering system past).2.marks ++
        final.map .reached ∧
      final <+: [.namespacesJoined, .commandDecoded, .executed] := by
  have hmarks := (requestImport_of_importing himport).marks_of_ok
  cases h with
  | importFailed hfailed => simp [himport] at hfailed
  | entryFailed => exact ⟨[], by simp [hmarks], by simp⟩
  | decodingFailed =>
    refine ⟨[.namespacesJoined], ?_, by simp⟩
    simp [joinedEvents, hmarks, Record.mark?, Record.stage?]
  | nulFound =>
    refine ⟨[.namespacesJoined], ?_, by simp⟩
    simp [joinedEvents, hmarks, Record.mark?, Record.stage?]
  | spawnFailed =>
    refine ⟨[.namespacesJoined, .commandDecoded], ?_, by simp⟩
    simp [decodedEvents, joinedEvents, hmarks, Record.mark?, Record.stage?]
  | finished =>
    refine ⟨[.namespacesJoined, .commandDecoded, .executed], ?_, by simp⟩
    simp [decodedEvents, joinedEvents, hmarks, Record.mark?, Record.stage?]

/-- The marks of a launch come in three groups: that of the import, those of the first kinds in
their order, and those of the stages after them. -/
theorem Course.exists_marks (h : request.Course system past result events) :
    ∃ initial memberships final,
      events.marks = initial.map .reached ++
        List.zipWith .handled request.selection.kinds memberships ++ final.map .reached ∧
      initial <+: [.environmentImported] ∧
      memberships.length ≤ request.selection.kinds.length ∧
      final <+: [.namespacesJoined, .commandDecoded, .executed] := by
  cases himport : (request.importing system past).1 with
  | error failure =>
    exact ⟨[], [], [], by simp [h.marks_of_importing_error himport], by simp, by simp, by simp⟩
  | ok overlay =>
    obtain ⟨final, hmarks, hfinal⟩ := h.exists_marks_of_importing_ok himport
    obtain ⟨memberships, hentering, hle, _⟩ := (request.entering_entries system past).exists_marks
    refine ⟨request.importStages, memberships, final, by rw [hmarks, hentering], ?_, hle, hfinal⟩
    rw [importStages]
    split <;> simp

/-- In a launch whose environment was imported, all kinds are handled exactly if each of them is
entered or needs not be entered. -/
theorem Course.entering_eq_ok_iff (h : request.Course system past result events)
    {overlay : Overlay} (himport : (request.importing system past).1 = .ok overlay) :
    (request.entering system past).1 = .ok () ↔
      ∀ kind ∈ request.selection.kinds,
        events.Enters kind ∨ events.Stays request.target kind := by
  obtain ⟨final, hmarks, _⟩ := h.exists_marks_of_importing_ok himport
  have hsame (kind : Kind) (membership : Membership) :
      .handled kind membership ∈ (request.entering system past).2.marks ↔
        .handled kind membership ∈ events.marks := by
    simp [hmarks]
  rw [(request.entering_entries system past).eq_ok_iff request.selection.nodup_kinds]
  refine forall₂_congr fun kind _ => ?_
  have htells := h.tells kind
  rw [← htells.entered, ← htells.already]
  constructor
  · rintro ⟨membership, hmark⟩
    rw [hsame] at hmark
    cases membership with
    | already => exact Or.inr hmark
    | entered => exact Or.inl hmark
  · rintro (hmark | hmark)
    · exact ⟨.entered, (hsame kind .entered).mpr hmark⟩
    · exact ⟨.already, (hsame kind .already).mpr hmark⟩

/-- The texts that a launch writes to a log at the level of debugging. -/
def log (words : Wording) (request : Request) (system : System) (past : History) : List String :=
  ((launch request system past).2.writtenFrom (.upTo .debug)).map (Record.textIn words)

/-- The marks that are read off the log are those of the launch. -/
theorem marksOf_log (words : Wording) (request : Request) (system : System) (past : History) :
    marksOf (request.log words system past) = (launch request system past).2.marks := by
  rw [log, (launch_course request system past).keepsFilter.writtenFrom_debug, marksOf_map_text]
  rfl

/-- Launches of one request with one log have left the same marks. -/
theorem marks_eq_of_log_eq {words : Wording} {other : System} {otherPast : History}
    (h : request.log words other otherPast = request.log words system past) :
    (launch request other otherPast).2.marks = (launch request system past).2.marks := by
  rw [← marksOf_log words, ← marksOf_log words, h]

end Request

/-- What the log of a launch at the level of debugging tells of the launch. -/
structure FaithfulLog (words : Wording) (request : Request) (system : System) (past : History) :
    Prop where
  /-- The selected kinds are all different. -/
  kinds_nodup : request.selection.kinds.Nodup
  /-- The marks come in order: the import of the environment, one for each of the first selected
  kinds, and the stages after them. -/
  marks_eq : ∃ initial memberships final,
    marksOf (request.log words system past) = initial.map .reached ++
      List.zipWith .handled request.selection.kinds memberships ++ final.map .reached ∧
    initial <+: [.environmentImported] ∧
    memberships.length ≤ request.selection.kinds.length ∧
    final <+: [.namespacesJoined, .commandDecoded, .executed]
  /-- A kind is marked as entered exactly if a call to enter its namespace succeeded. -/
  entered_iff : ∀ kind, .handled kind .entered ∈ marksOf (request.log words system past) ↔
    (launch request system past).2.Enters kind
  /-- It is marked as one that the launcher was a member of exactly if no such call was made because
  the inode numbers were equal. -/
  already_iff : ∀ kind, .handled kind .already ∈ marksOf (request.log words system past) ↔
    (launch request system past).2.Stays request.target kind
  /-- The import is marked exactly if it was asked for and succeeded. -/
  environmentImported_iff :
    .reached .environmentImported ∈ marksOf (request.log words system past) ↔
      request.importsEnvironment = true ∧
        ∃ overlay, (request.importing system past).1 = .ok overlay
  /-- The joining is marked exactly if the import and every selected kind succeeded. -/
  namespacesJoined_iff : .reached .namespacesJoined ∈ marksOf (request.log words system past) ↔
    (∃ overlay, (request.importing system past).1 = .ok overlay) ∧
      ∀ kind ∈ request.selection.kinds,
        (launch request system past).2.Enters kind ∨
          (launch request system past).2.Stays request.target kind
  /-- The decoding is marked exactly if moreover there was a command without a zero byte. -/
  commandDecoded_iff : .reached .commandDecoded ∈ marksOf (request.log words system past) ↔
    ∃ command, request.Yields system past command ∧ 0 ∉ command
  /-- The execution is marked exactly if moreover the shell was started and ended. -/
  executed_iff : .reached .executed ∈ marksOf (request.log words system past) ↔
    (∃ command, request.Yields system past command ∧ 0 ∉ command) ∧
      ∃ image status, .called (.spawn image) (.ok status) ∈ (launch request system past).2
  /-- The stage at which the launch failed is the one after those that are marked. -/
  failed_stage : (failure? (launch request system past).1).map Failure.stage? =
    (request.stages[((marksOf (request.log words system past)).filterMap Mark.stage?).length]?).map
      some
  /-- Launches of one request with the same log have entered the same namespaces. -/
  entered_eq : ∀ other otherPast,
    request.log words other otherPast = request.log words system past →
    ∀ kind, (launch request other otherPast).2.Enters kind ↔
      (launch request system past).2.Enters kind
  /-- They failed at the same stage, if at any. -/
  failed_eq : ∀ other otherPast,
    request.log words other otherPast = request.log words system past →
    (failure? (launch request other otherPast).1).map Failure.stage? =
      (failure? (launch request system past).1).map Failure.stage?

/-- The log of a launch is a faithful record of it, however errors are worded. -/
theorem launch_log_faithful (words : Wording) (request : Request) (system : System)
    (past : History) : FaithfulLog words request system past where
  kinds_nodup := request.selection.nodup_kinds
  marks_eq := by
    rw [Request.marksOf_log]
    exact (launch_course request system past).exists_marks
  entered_iff kind := by
    rw [Request.marksOf_log]
    exact ((launch_course request system past).tells kind).entered
  already_iff kind := by
    rw [Request.marksOf_log]
    exact ((launch_course request system past).tells kind).already
  environmentImported_iff := by
    rw [Request.marksOf_log, History.reached_mem_marks_iff]
    exact (launch_course request system past).environmentImported_mem_iff
  namespacesJoined_iff := by
    have hcourse := launch_course request system past
    rw [Request.marksOf_log, History.reached_mem_marks_iff, hcourse.namespacesJoined_mem_iff]
    refine and_congr_right ?_
    rintro ⟨overlay, himport⟩
    exact hcourse.entering_eq_ok_iff himport
  commandDecoded_iff := by
    rw [Request.marksOf_log, History.reached_mem_marks_iff]
    exact (launch_course request system past).commandDecoded_mem_iff
  executed_iff := by
    have hcourse := launch_course request system past
    rw [Request.marksOf_log, History.reached_mem_marks_iff, hcourse.executed_mem_iff,
      ← hcourse.called_spawn_mem_iff, ← hcourse.spawn_mem_iff, iff_and_self]
    rintro ⟨image, status, hcalled⟩
    exact ⟨image, History.mem_calls_of_called hcalled⟩
  failed_stage := by
    have hcourse := launch_course request system past
    rw [Request.marksOf_log, History.filterMap_stage?_marks]
    exact hcourse.stages_prefix.2
  entered_eq other otherPast hlog kind := by
    have hother := (launch_course request other otherPast).tells kind
    have htells := (launch_course request system past).tells kind
    rw [← hother.entered, ← htells.entered, Request.marks_eq_of_log_eq hlog]
  failed_eq other otherPast hlog := by
    have hcourse := launch_course request system past
    have hother := launch_course request other otherPast
    rw [ hother.stages_prefix.2, hcourse.stages_prefix.2, ← History.filterMap_stage?_marks,
      ← History.filterMap_stage?_marks, Request.marks_eq_of_log_eq hlog]

end Relocation
