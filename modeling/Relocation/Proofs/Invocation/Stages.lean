import Relocation.Proofs.Invocation.ExitStatus
import Relocation.Proofs.Launch.Stages

/-!
# The stages of an invocation

An invocation goes through the stages of its launch, with the stop of the launcher before
them and its exit behind them. With verbose output, and no filter in the environment,
each of them is written to the log when it is reached, in the order of the stages, except
for the first one. The stop is recorded before the command line is read, and logging
starts after that, so this record is always lost.
-/

namespace Relocation.Invocation

open Session

/-- The stages that a run writes to its log, read off the texts. -/
def loggedStages (libraries : Libraries) (arguments : List String) (system : System)
    (past : History) : List Stage :=
  (marksOf ((session libraries arguments system past).2.written.map
    (Record.textIn libraries.words))).filterMap Mark.stage?

/-- The stages that are logged if nothing fails. -/
def stages (options : Options) : List Stage :=
  (if options.importsEnvironment then [.environmentImported] else []) ++
    [.namespacesJoined, .commandDecoded, .executed, .exited]

/-- Whether an invocation reaches a stage: the stop of the launcher, then the stages of the launch,
and the exit once the shell has ended. -/
def Reaches (libraries : Libraries) (options : Options) (system : System) (past : History)
    (stage : Stage) : Prop :=
  system.reply past .pause = .ok () ∧
    (stage = .selfPaused ∨ ∃ request, requestOf options = .ok request ∧
      (request.Reaches system (past ++ readyEvents libraries options system past request) stage ∨
        stage = .exited ∧ ∃ status,
          request.Runs system (past ++ readyEvents libraries options system past request) status))

variable {libraries : Libraries} {options : Options} {system : System} {past : History}
  {request : Request} {result : Except Failure Ending} {events : History}

/-- A request imports the environment if the command line asks for it. -/
theorem importsEnvironment_of_requestOf (h : requestOf options = .ok request) :
    request.importsEnvironment = options.importsEnvironment := by
  rw [requestOf, Request.ofTexts] at h
  cases htarget : Target.parse (options.target?.getD "0") with
  | error text =>
    rw [htarget] at h
    cases h
  | ok target =>
    rw [htarget] at h
    cases hcommand : options.command?.map Bytes.ofString with
    | none =>
      rw [hcommand] at h
      cases h
    | some command =>
      rw [hcommand] at h
      cases command with
      | nil => cases h
      | cons byte rest =>
        cases h
        rfl

/-- Verbose output goes down to the level of debugging unless the environment has a filter. -/
theorem startFilter_of_verbose (hdebug : libraries.filter "debug" = .upTo .debug)
    (hverbose : options.isVerbose = true)
    (hunset : (past.environment system.environment).get? filterName = none) :
    startFilter libraries options system past = .upTo .debug := by
  simp [startFilter, filterText, filterText?, hunset, hverbose, hdebug]

/-- What is written of a launch at the level of debugging: the announcement and everything after
it. -/
theorem written_readyEvents_append
    (hfilter : startFilter libraries options system past = .upTo .debug)
    (hevents : events.KeepsFilter) :
    History.written (readyEvents libraries options system past request ++ events) =
      announcement request :: events.records := by
  have hready : readyEvents libraries options system past request ++ events =
      [.called .pause (.ok ()), .recorded .paused, .logging (.upTo .debug)] ++
        ([.recorded (announcement request)] ++ events) := by
    simp [readyEvents, startEvents, hfilter]
  have hannounced : History.KeepsFilter ([.recorded (announcement request)] ++ events) :=
    History.KeepsFilter.append (by simp [History.KeepsFilter]) hevents
  rw [hready]
  -- Before the filter is set nothing is written, not even that the launcher has stopped.
  exact hannounced.writtenFrom_debug

/-- The stages that are written of a launch are those of what happens in it. -/
theorem filterMap_stage?_written
    (hfilter : startFilter libraries options system past = .upTo .debug)
    (hevents : events.KeepsFilter) :
    (History.written (readyEvents libraries options system past request ++ events)).filterMap
        Record.stage? = events.stages := by
  have hannouncement : (announcement request).stage? = none := by
    rw [announcement]
    split <;> rfl
  rw [written_readyEvents_append hfilter hevents, List.filterMap_cons, hannouncement]
  rfl

/-- The stages that are reached after the stop once there is a request. -/
theorem reaches_iff (hpause : system.reply past .pause = .ok ())
    (hrequest : requestOf options = .ok request) {stage : Stage} (hstage : stage ≠ .selfPaused) :
    Reaches libraries options system past stage ↔
      request.Reaches system (past ++ readyEvents libraries options system past request) stage ∨
        stage = .exited ∧ ∃ status,
          request.Runs system (past ++ readyEvents libraries options system past request)
            status := by
  constructor
  · rintro ⟨_, hstop | ⟨other, hother, hreaches⟩⟩
    · exact absurd hstop hstage
    · obtain rfl := Except.ok.inj (hrequest.symm.trans hother)
      exact hreaches
  · intro hreaches
    exact ⟨hpause, Or.inr ⟨request, hrequest, hreaches⟩⟩

/-- The stages that are logged of an invocation if nothing fails are those of its launch and the
exit. -/
theorem stages_eq (hrequest : requestOf options = .ok request) :
    stages options = request.stages ++ [.exited] := by
  simp [stages, Request.stages, Request.importStages, importsEnvironment_of_requestOf hrequest]

/-- The stages that are written of an invocation are the first ones of those that are logged if
nothing fails. -/
theorem Course.stages_written_prefix (h : Course libraries options system past result events)
    (hfilter : startFilter libraries options system past = .upTo .debug) :
    events.written.filterMap Record.stage? <+: stages options := by
  cases h with
  | unpaused hpause => exact List.nil_prefix
  | refused hpause hrequest => exact List.nil_prefix
  | @failed request failure events hpause hrequest hlaunch =>
    have hcourse := Request.course_of_launch hlaunch
    rw [filterMap_stage?_written hfilter hcourse.keepsFilter, stages_eq hrequest]
    exact hcourse.stages_prefix.1.trans (List.prefix_append ..)
  | @launched request status events hpause hrequest hlaunch =>
    have hcourse := Request.course_of_launch hlaunch
    -- A launch that does not fail has gone through all its stages.
    have hall : events.stages = request.stages := by
      obtain ⟨hle, hnone⟩ := hcourse.stages_prefix
      exact hle.eq_of_length_le
        (List.getElem?_eq_none_iff.mp (Option.map_eq_none_iff.mp hnone.symm))
    have hkeeps : History.KeepsFilter (events ++ [.recorded (.exited status.exitStatus)]) :=
      hcourse.keepsFilter.append (by simp [History.KeepsFilter])
    rw [List.append_assoc, filterMap_stage?_written hfilter hkeeps, stages_eq hrequest,
      History.stages_append, hall]
    exact List.prefix_rfl

/-- The stages that are written of an invocation are those that it reaches after the stop. -/
theorem Course.mem_stages_written_iff (h : Course libraries options system past result events)
    (hfilter : startFilter libraries options system past = .upTo .debug) {stage : Stage} :
    stage ∈ events.written.filterMap Record.stage? ↔
      stage ≠ .selfPaused ∧ Reaches libraries options system past stage := by
  by_cases hstage : stage = .selfPaused
  · subst hstage
    refine iff_of_false (fun hmem => ?_) (by simp)
    have hplanned := (h.stages_written_prefix hfilter).subset hmem
    simp [stages] at hplanned
  rw [and_iff_right hstage]
  cases h with
  | unpaused hpause =>
    refine iff_of_false List.not_mem_nil ?_
    rintro ⟨hok, _⟩
    simp [hpause] at hok
  | refused hpause hrequest =>
    refine iff_of_false List.not_mem_nil ?_
    rintro ⟨_, hstop | ⟨request, hok, _⟩⟩
    · exact hstage hstop
    · simp [hrequest] at hok
  | @failed request failure events hpause hrequest hlaunch =>
    have hcourse := Request.course_of_launch hlaunch
    rw [filterMap_stage?_written hfilter hcourse.keepsFilter, reaches_iff hpause hrequest hstage,
      hcourse.mem_stages_iff]
    have hnone (status : WaitStatus) :
        ¬ request.Runs system (past ++ readyEvents libraries options system past request)
          status := by
      rw [← hcourse.eq_ok_iff]
      simp
    simp [hnone]
  | @launched request status events hpause hrequest hlaunch =>
    have hcourse := Request.course_of_launch hlaunch
    have hkeeps : History.KeepsFilter (events ++ [.recorded (.exited status.exitStatus)]) :=
      hcourse.keepsFilter.append (by simp [History.KeepsFilter])
    rw [List.append_assoc, filterMap_stage?_written hfilter hkeeps,
      reaches_iff hpause hrequest hstage, History.stages_append, List.mem_append,
      hcourse.mem_stages_iff]
    have hruns : ∃ status,
        request.Runs system (past ++ readyEvents libraries options system past request) status :=
      ⟨status, hcourse.eq_ok_iff.mp rfl⟩
    simp [hruns, Record.stage?]

/-- The shell is run in an invocation exactly if the exit is reached. -/
theorem Course.called_spawn_mem_iff (h : Course libraries options system past result events) :
    (∃ image status, .called (.spawn image) (.ok status) ∈ events) ↔
      Reaches libraries options system past .exited := by
  have hstart (image : ProcessImage) (status : WaitStatus) :
      .called (.spawn image) (.ok status) ∉ startEvents libraries options system past := by
    simp [startEvents]
  cases h with
  | unpaused hpause =>
    refine iff_of_false (by simp) ?_
    rintro ⟨hok, _⟩
    simp [hpause] at hok
  | refused hpause hrequest =>
    refine iff_of_false (by simp [hstart]) ?_
    rintro ⟨_, hstop | ⟨request, hok, _⟩⟩
    · cases hstop
    · simp [hrequest] at hok
  | @failed request failure events hpause hrequest hlaunch =>
    have hcourse := Request.course_of_launch hlaunch
    rw [reaches_iff hpause hrequest (by simp)]
    simp [readyEvents, hstart, hcourse.called_spawn_mem_iff, Request.Reaches]
  | @launched request status events hpause hrequest hlaunch =>
    have hcourse := Request.course_of_launch hlaunch
    rw [reaches_iff hpause hrequest (by simp)]
    simp [readyEvents, hstart, hcourse.called_spawn_mem_iff, Request.Reaches]

/-- With verbose output and no filter in the environment, an invocation logs the stages that it
reaches, in their order and each once, without gaps. There is one exception: that the launcher has
stopped is never logged, because it is recorded before logging starts. The exit is the last stage,
and it is logged exactly if the shell was run. So every stage that is reached is logged exactly if
the launcher could not stop itself, in which case it reaches none. All this is so whatever the
libraries do otherwise, if they take `debug` to mean the records of this level and of graver
ones. -/
theorem loggedStages_reached {libraries : Libraries} {arguments : List String} {options : Options}
    (system : System) (past : History) (hparse : libraries.parse arguments = .ok options)
    (hdebug : libraries.filter "debug" = .upTo .debug) (hverbose : options.isVerbose = true)
    (hunset : (past.environment system.environment).get? filterName = none) :
    loggedStages libraries arguments system past <+:
        (if options.importsEnvironment then [.environmentImported] else []) ++
          [.namespacesJoined, .commandDecoded, .executed, .exited] ∧
      (∀ stage, stage ∈ loggedStages libraries arguments system past ↔
        stage ≠ .selfPaused ∧ Reaches libraries options system past stage) ∧
      (.exited ∈ loggedStages libraries arguments system past ↔
        ∃ image status,
          .called (.spawn image) (.ok status) ∈ (session libraries arguments system past).2) ∧
      ((∀ stage, stage ∈ loggedStages libraries arguments system past ↔
          Reaches libraries options system past stage) ↔
        system.reply past .pause ≠ .ok ()) := by
  have hcourse := carryOut_course libraries options system past
  have hfilter := startFilter_of_verbose hdebug hverbose hunset
  have hlogged : loggedStages libraries arguments system past =
      (carryOut libraries options system past).2.written.filterMap Record.stage? := by
    rw [loggedStages, session_of_parse hparse, marksOf_map_text, filterMap_stage?_mark?]
  have hreached (stage : Stage) : stage ∈ loggedStages libraries arguments system past ↔
      stage ≠ .selfPaused ∧ Reaches libraries options system past stage := by
    rw [hlogged]
    exact hcourse.mem_stages_written_iff hfilter
  refine ⟨?_, hreached, ?_, ?_⟩
  · rw [hlogged]
    exact hcourse.stages_written_prefix hfilter
  · rw [hreached, session_of_parse hparse, hcourse.called_spawn_mem_iff]
    simp
  · constructor
    · intro hall hpause
      have hstop : Reaches libraries options system past .selfPaused := ⟨hpause, Or.inl rfl⟩
      exact ((hreached .selfPaused).mp ((hall .selfPaused).mpr hstop)).1 rfl
    · intro hpause stage
      rw [hreached, and_iff_right_iff_imp]
      rintro ⟨hstop, _⟩
      exact absurd hstop hpause

/-- The common libraries take `debug` to mean the records of this level and of graver ones. -/
theorem Libraries.common_filter_debug : Libraries.common.filter "debug" = .upTo .debug := by
  have hread : Directives.ofText "debug" = ⟨[⟨none, .upTo .debug⟩], none⟩ := by decide +kernel
  change (Directives.ofText "debug").filter .customary = .upTo .debug
  rw [hread]
  exact congrArg Filter.mk (funext fun record => Bool.and_true _)

/-- A run of `:` that succeeds logs its exit. -/
theorem loggedStages_reached_exit :
    .exited ∈ loggedStages .common ["-v", "-t", "7", "-c", "Og=="] (endingWith ⟨0⟩) [] := by
  have hparse : Libraries.common.parse ["-v", "-t", "7", "-c", "Og=="] =
      .ok
        { target? := some "7", command? := some "Og==", selection := .empty,
          importsEnvironment := false, isVerbose := true } := rfl
  obtain ⟨_, hreached, _⟩ := loggedStages_reached (endingWith ⟨0⟩) [] hparse
    Libraries.common_filter_debug rfl rfl
  refine (hreached .exited).mpr ⟨by decide, rfl, Or.inr ⟨_, rfl, Or.inr ⟨rfl, ⟨0⟩, ?_⟩⟩⟩
  exact ⟨.empty, [58], rfl, rfl, rfl, by decide, rfl⟩

/-- In the same run the launcher has stopped, but this is not logged. -/
theorem selfPaused_not_logged :
    ∃ options, Libraries.common.parse ["-v", "-t", "7", "-c", "Og=="] = .ok options ∧
      options.isVerbose = true ∧ (endingWith ⟨0⟩).environment.get? filterName = none ∧
      Reaches .common options (endingWith ⟨0⟩) [] .selfPaused ∧
      loggedStages .common ["-v", "-t", "7", "-c", "Og=="] (endingWith ⟨0⟩) [] =
        [.namespacesJoined, .commandDecoded, .executed, .exited] := by
  refine ⟨_, rfl, rfl, rfl, ⟨rfl, Or.inl rfl⟩, ?_⟩
  rw [loggedStages, marksOf_map_text, filterMap_stage?_mark?]
  rfl

end Relocation.Invocation
