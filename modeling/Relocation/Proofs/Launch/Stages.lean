import Relocation.Proofs.Launch.Results
import Relocation.Proofs.Launch.Secrecy
import Relocation.Proofs.Namespace.Marks

/-!
# The stages of a launch

A launch says of each stage that it was reached, in the order of the stages, and of no
other. It fails at the stage after the last one that it reached, if it fails at all. So
the stages that are recorded tell which phases succeeded.
-/

namespace Relocation

open Session Environment Namespace

/-- The stage that a failure keeps a launch from reaching, if there is one. -/
def Failure.stage? : Failure → Option Stage
  | .pause _ => some .selfPaused
  | .environmentUnreadable _ _ => some .environmentImported
  | .environmentTooLarge _ _ => some .environmentImported
  | .malformedVariable _ => some .environmentImported
  | .namespaceLookup _ _ => some .namespacesJoined
  | .namespaceOpen _ _ => some .namespacesJoined
  | .namespaceEntry _ _ _ => some .namespacesJoined
  | .encoding _ => some .commandDecoded
  | .embeddedNul => some .commandDecoded
  | .allocation _ => some .commandDecoded
  | .spawn _ => some .executed
  | .invalidTarget _ => none
  | .missingCommand => none

/-- The reading of an environment block keeps the filter of the log. -/
theorem Environment.BlockRead.keepsFilter {path : Bytes} {result : Except Failure Bytes}
    {events : History} (h : BlockRead path result events) : events.KeepsFilter := by
  obtain ⟨opened, reads, rfl, hreads⟩ := h.events_eq
  intro filter hfilter
  rcases List.mem_cons.mp hfilter with hfirst | hlater
  · cases hfirst
  · obtain ⟨file, most, reading, hread⟩ := hreads _ hlater
    cases hread

/-- The import of an environment keeps the filter of the log. -/
theorem Environment.Import.keepsFilter {target : Target} {result : Except Failure Overlay}
    {events : History} (h : Import target result events) : events.KeepsFilter := by
  cases h with
  | unread hread => exact hread.keepsFilter
  | malformed hread => exact hread.keepsFilter
  | imported hread => exact hread.keepsFilter.append (by simp [History.KeepsFilter])

/-- The import of an environment leaves no mark before it is over. -/
theorem Environment.Import.marks_eq_nil {target : Target} {result : Except Failure Overlay}
    {events : History} (h : Import target result events) : events.marks = [] := by
  cases h with
  | unread hread => simp [History.marks, hread.records_eq_nil]
  | malformed hread => simp [History.marks, hread.records_eq_nil]
  | imported hread =>
    simp [History.marks, hread.records_eq_nil, Record.mark?, Record.stage?]

namespace Request

/-- The stages of the import of an environment: one if it is asked for. -/
def importStages (request : Request) : List Stage :=
  if request.importsEnvironment then [.environmentImported] else []

/-- The stages that a launch goes through if nothing fails. -/
def stages (request : Request) : List Stage :=
  request.importStages ++ [.namespacesJoined, .commandDecoded, .executed]

end Request

namespace RequestImport

variable {request : Request} {result : Except Failure Overlay} {events : History}

/-- The first phase of a launch keeps the filter of the log. -/
theorem keepsFilter (h : RequestImport request result events) : events.KeepsFilter := by
  cases h with
  | skipped => simp [History.KeepsFilter]
  | failed _ himport => exact himport.keepsFilter
  | @imported overlay _ _ himport =>
    refine (himport.keepsFilter.append ?_).append (by simp [History.KeepsFilter])
    split <;> simp [History.KeepsFilter]

/-- A first phase that fails leaves no mark. -/
theorem marks_of_error {failure : Failure} (h : RequestImport request (.error failure) events) :
    events.marks = [] := by
  cases h with
  | failed _ himport => exact himport.marks_eq_nil

/-- A first phase that succeeds leaves the mark of the import if there was one. -/
theorem marks_of_ok {overlay : Overlay} (h : RequestImport request (.ok overlay) events) :
    events.marks = request.importStages.map .reached := by
  cases h with
  | skipped hoff => simp [Request.importStages, hoff]
  | imported hon himport =>
    rw [History.marks_append, History.marks_append, himport.marks_eq_nil, Request.importStages,
      if_pos hon]
    split <;> rfl

/-- A first phase that fails was to import an environment, and fails at that. -/
theorem stage?_of_error {failure : Failure} (h : RequestImport request (.error failure) events) :
    request.importsEnvironment = true ∧ failure.stage? = some .environmentImported := by
  cases h with
  | failed hon himport =>
    rcases himport.failure_cases with ⟨_, _, rfl⟩ | ⟨_, _, rfl⟩ | ⟨_, rfl⟩ <;> exact ⟨hon, rfl⟩

end RequestImport

/-- A failure to handle one of several kinds is one at joining the namespaces. -/
theorem Namespace.Entries.stage?_of_error {target : Target} {kinds : List Kind} {failure : Failure}
    {events : History} (h : Entries target kinds (.error failure) events) :
    failure.stage? = some .namespacesJoined := by
  rcases h.failure_cases with ⟨_, _, rfl⟩ | ⟨_, _, rfl⟩ | ⟨_, _, _, rfl⟩ <;> rfl

/-- A failure to decode a command is one at that stage. -/
theorem stage?_of_decodeCommand {reserves : Nat → Bool} {encoded : Bytes} {failure : Failure}
    (h : decodeCommand reserves encoded = .error failure) :
    failure.stage? = some .commandDecoded := by
  rcases decodeCommand_error_cases h with ⟨_, error, _, rfl⟩ | ⟨_, rfl⟩ <;> rfl

namespace Request

variable {request : Request} {system : System} {past : History}
  {result : Except Failure WaitStatus} {events : History}

/-- A launch keeps the filter of the log. -/
theorem Course.keepsFilter (h : request.Course system past result events) :
    events.KeepsFilter := by
  have himporting := (request.importing_requestImport system past).keepsFilter
  have hentering := (request.entering_entries system past).keepsFilter
  have hjoined : (request.joinedEvents system past).KeepsFilter :=
    (himporting.append hentering).append (by simp [History.KeepsFilter])
  have hdecoded (command : Bytes) : (request.decodedEvents system past command).KeepsFilter :=
    hjoined.append (by simp [History.KeepsFilter])
  cases h with
  | importFailed => exact himporting
  | entryFailed => exact himporting.append hentering
  | decodingFailed => exact hjoined
  | nulFound => exact hjoined
  | spawnFailed => exact (hdecoded _).append (by simp [History.KeepsFilter])
  | finished => exact (hdecoded _).append (by simp [History.KeepsFilter])

/-- The first phase leaves no stage if it fails. -/
theorem stages_importing_of_error {failure : Failure}
    (h : (request.importing system past).1 = .error failure) :
    (request.importing system past).2.stages = [] := by
  rw [← History.filterMap_stage?_marks, (requestImport_of_importing h).marks_of_error,
    List.filterMap_nil]

/-- The first phase leaves the stages of the import if it succeeds. -/
theorem stages_importing_of_ok {overlay : Overlay}
    (h : (request.importing system past).1 = .ok overlay) :
    (request.importing system past).2.stages = request.importStages := by
  rw [← History.filterMap_stage?_marks, (requestImport_of_importing h).marks_of_ok,
    List.filterMap_map]
  exact List.filterMap_some

/-- The second phase leaves no stage. -/
@[simp] theorem stages_entering (request : Request) (system : System) (past : History) :
    (request.entering system past).2.stages = [] :=
  History.stages_eq_nil (request.entering_entries system past).stage?_eq_none

/-- The stages when the namespaces are joined. -/
theorem stages_joinedEvents {overlay : Overlay}
    (himport : (request.importing system past).1 = .ok overlay) :
    (request.joinedEvents system past).stages = request.importStages ++ [.namespacesJoined] := by
  simp [joinedEvents, stages_importing_of_ok himport, Record.stage?]

/-- The stages when the command is decoded. -/
theorem stages_decodedEvents {overlay : Overlay}
    (himport : (request.importing system past).1 = .ok overlay) (command : Bytes) :
    (request.decodedEvents system past command).stages =
      request.importStages ++ [.namespacesJoined, .commandDecoded] := by
  simp [decodedEvents, stages_joinedEvents himport, Record.stage?]

/-- The stages of a launch are the first ones of those that it goes through if nothing fails. It
fails at the next one, or there is none and it does not fail. -/
theorem Course.stages_prefix (h : request.Course system past result events) :
    events.stages <+: request.stages ∧
      (failure? result).map Failure.stage? =
        (request.stages[events.stages.length]?).map some := by
  cases h with
  | importFailed himport =>
    obtain ⟨hon, hstage⟩ := (requestImport_of_importing himport).stage?_of_error
    simp [stages_importing_of_error himport, stages, importStages, hon, hstage]
  | entryFailed himport henter =>
    have hstage := (entries_of_entering henter).stage?_of_error
    simp [stages_importing_of_ok himport, stages, hstage]
  | decodingFailed himport _ hdecode =>
    simp [stages_joinedEvents himport, stages, stage?_of_decodeCommand hdecode]
  | nulFound himport => simp [stages_joinedEvents himport, stages, Failure.stage?]
  | spawnFailed himport => simp [stages_decodedEvents himport, stages, Failure.stage?]
  | finished himport => simp [stages_decodedEvents himport, stages, Record.stage?]

/-- A launch reaches the import of the environment exactly if that is asked for and succeeds. -/
theorem Course.environmentImported_mem_iff (h : request.Course system past result events) :
    .environmentImported ∈ events.stages ↔ request.importsEnvironment = true ∧
      ∃ overlay, (request.importing system past).1 = .ok overlay := by
  cases h with
  | importFailed himport => simp [stages_importing_of_error himport, himport]
  | entryFailed himport => simp [stages_importing_of_ok himport, himport, importStages]
  | decodingFailed himport => simp [stages_joinedEvents himport, himport, importStages]
  | nulFound himport => simp [stages_joinedEvents himport, himport, importStages]
  | spawnFailed himport => simp [stages_decodedEvents himport, himport, importStages]
  | finished himport =>
    simp [stages_decodedEvents himport, himport, importStages, Record.stage?]

/-- A launch joins the namespaces exactly if its first two phases succeed. -/
theorem Course.namespacesJoined_mem_iff (h : request.Course system past result events) :
    .namespacesJoined ∈ events.stages ↔
      (∃ overlay, (request.importing system past).1 = .ok overlay) ∧
        (request.entering system past).1 = .ok () := by
  cases h with
  | importFailed himport => simp [stages_importing_of_error himport, himport]
  | entryFailed himport henter =>
    simp [stages_importing_of_ok himport, himport, henter, importStages]
  | decodingFailed himport henter => simp [stages_joinedEvents himport, himport, henter]
  | nulFound himport henter => simp [stages_joinedEvents himport, himport, henter]
  | spawnFailed himport henter => simp [stages_decodedEvents himport, himport, henter]
  | finished himport henter => simp [stages_decodedEvents himport, himport, henter]

/-- A launch comes to the end of decoding exactly if it has a command without a zero byte. -/
theorem Course.commandDecoded_mem_iff (h : request.Course system past result events) :
    .commandDecoded ∈ events.stages ↔
      ∃ command, request.Yields system past command ∧ 0 ∉ command := by
  have hnone := request.spawn_not_mem_joinedEvents system past
  simp only [joinedEvents, History.calls_append, List.mem_append, not_or] at hnone
  rw [← h.spawn_mem_iff]
  cases h with
  | importFailed himport => simp [stages_importing_of_error himport, hnone]
  | entryFailed himport => simp [stages_importing_of_ok himport, importStages, hnone]
  | decodingFailed himport =>
    simp [stages_joinedEvents himport, importStages, spawn_not_mem_joinedEvents]
  | nulFound himport =>
    simp [stages_joinedEvents himport, importStages, spawn_not_mem_joinedEvents]
  | spawnFailed himport => simp [stages_decodedEvents himport]
  | finished himport => simp [stages_decodedEvents himport]

/-- A launch comes to the end of the shell exactly if every phase succeeds. -/
theorem Course.executed_mem_iff (h : request.Course system past result events) :
    .executed ∈ events.stages ↔ ∃ status, request.Runs system past status := by
  have hresult : .executed ∈ events.stages ↔ ∃ status, result = .ok status := by
    cases h with
    | importFailed himport => simp [stages_importing_of_error himport]
    | entryFailed himport => simp [stages_importing_of_ok himport, importStages]
    | decodingFailed himport => simp [stages_joinedEvents himport, importStages]
    | nulFound himport => simp [stages_joinedEvents himport, importStages]
    | spawnFailed himport => simp [stages_decodedEvents himport, importStages]
    | finished himport => simp [stages_decodedEvents himport, Record.stage?]
  rw [hresult]
  exact exists_congr fun status => h.eq_ok_iff

/-- The shell is started and ends exactly if every phase succeeds. -/
theorem Course.called_spawn_mem_iff (h : request.Course system past result events) :
    (∃ image status, .called (.spawn image) (.ok status) ∈ events) ↔
      ∃ status, request.Runs system past status := by
  have hjoined (image : ProcessImage) (status : WaitStatus) :
      .called (.spawn image) (.ok status) ∉ request.joinedEvents system past := fun hcalled =>
    request.spawn_not_mem_joinedEvents system past image (History.mem_calls_of_called hcalled)
  have hfirst := hjoined
  simp only [joinedEvents, List.mem_append, not_or] at hfirst
  have hresult : (∃ image status, .called (.spawn image) (.ok status) ∈ events) ↔
      ∃ status, result = .ok status := by
    cases h with
    | importFailed => simp [hfirst]
    | entryFailed => simp [hfirst]
    | decodingFailed => simp [hjoined]
    | nulFound => simp [hjoined]
    | spawnFailed =>
      refine iff_of_false ?_ (by simp)
      rintro ⟨image, status, hcalled⟩
      simp only [decodedEvents, List.mem_append, hjoined, false_or, List.mem_singleton,
        reduceCtorEq] at hcalled
      cases hcalled
    | @finished overlay command status =>
      exact iff_of_true ⟨shell system past command overlay, status, by simp⟩ ⟨status, rfl⟩
  rw [hresult]
  exact exists_congr fun status => h.eq_ok_iff

/-- Whether a launch reaches a stage. The first stage is over before a launch, and the last one
comes after it. -/
def Reaches (request : Request) (system : System) (past : History) : Stage → Prop
  | .selfPaused => False
  | .environmentImported =>
    request.importsEnvironment = true ∧ ∃ overlay, (request.importing system past).1 = .ok overlay
  | .namespacesJoined =>
    (∃ overlay, (request.importing system past).1 = .ok overlay) ∧
      (request.entering system past).1 = .ok ()
  | .commandDecoded => ∃ command, request.Yields system past command ∧ 0 ∉ command
  | .executed => ∃ status, request.Runs system past status
  | .exited => False

/-- The stages of a launch are those that it reaches. -/
theorem Course.mem_stages_iff (h : request.Course system past result events) {stage : Stage} :
    stage ∈ events.stages ↔ request.Reaches system past stage := by
  have hstages := h.stages_prefix.1.subset
  cases stage with
  | selfPaused =>
    refine iff_of_false (fun hmem => ?_) id
    simpa [stages, importStages] using hstages hmem
  | environmentImported => exact h.environmentImported_mem_iff
  | namespacesJoined => exact h.namespacesJoined_mem_iff
  | commandDecoded => exact h.commandDecoded_mem_iff
  | executed => exact h.executed_mem_iff
  | exited =>
    refine iff_of_false (fun hmem => ?_) id
    simpa [stages, importStages] using hstages hmem

end Request

end Relocation
