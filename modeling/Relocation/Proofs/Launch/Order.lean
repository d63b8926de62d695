import Relocation.Proofs.Launch.Phases

/-!
# The order of a launch

A launch goes through its phases in their order and stops at the first failure. So its
calls are those of the phases that it reaches, and its failure is that of the first
phase that fails. The shell is started if and only if nothing failed before and the
command has no zero byte, which is a failure of its own.
-/

namespace Relocation

open Session Environment Namespace

/-- The failure of a result, if it is one. -/
def failure? {α : Type} : Except Failure α → Option Failure
  | .ok _ => none
  | .error failure => some failure

/-- A result that is no failure has none. -/
@[simp] theorem failure?_ok {α : Type} (a : α) : failure? (.ok a) = none := rfl

/-- A failure is the failure of its result. -/
@[simp] theorem failure?_error {α : Type} (failure : Failure) :
    failure? (.error failure : Except Failure α) = some failure := rfl

/-- A result whose failures are put in other words has none if it had none. -/
@[simp] theorem failure?_mapError_ok {ε α : Type} (wrap : ε → Failure) (a : α) :
    failure? ((Except.ok a).mapError wrap) = none := rfl

/-- A failure that is put in other words is the failure of its result. -/
@[simp] theorem failure?_mapError_error {ε α : Type} (wrap : ε → Failure) (error : ε) :
    failure? ((Except.error error : Except ε α).mapError wrap) = some (wrap error) := rfl

/-- Whether a failure is one of the last two phases: a zero byte in the command, or a shell that
could not be started. -/
def Failure.IsLate : Failure → Prop
  | .embeddedNul => True
  | .spawn _ => True
  | _ => False

/-- A phase of a launch: the calls it makes and the failure it ends with, if it fails. -/
structure Phase where
  calls : List Call
  failure? : Option Failure

/-- The phases that are reached when each one follows only if none before it failed. -/
def Phase.reached : List Phase → List Phase
  | [] => []
  | phase :: rest => phase :: if phase.failure?.isSome then [] else reached rest

namespace Request

/-- The failure of a command in which there is a zero byte. -/
def nulFailure? : Except Failure Bytes → Option Failure
  | .ok command => if 0 ∈ command then some .embeddedNul else none
  | .error _ => none

/-- The phase of the shell, which needs the variables and the command of earlier phases. -/
def shellPhase (request : Request) (system : System) (past : History) :
    Except Failure Overlay → Except Failure Bytes → Phase
  | .ok overlay, .ok command =>
    { calls := [.spawn (shell system past command overlay)]
      failure? :=
        failure? ((request.shellReply system past command overlay).mapError Failure.spawn) }
  | _, _ => { calls := [], failure? := none }

/-- The five phases of a launch in their order. The command is decoded and checked without a
call. -/
def phases (request : Request) (system : System) (past : History) : List Phase :=
  [{ calls := (request.importing system past).2.calls
     failure? := failure? (request.importing system past).1 },
    { calls := (request.entering system past).2.calls
      failure? := failure? (request.entering system past).1 },
    { calls := [], failure? := failure? (request.decoding system past) },
    { calls := [], failure? := nulFailure? (request.decoding system past) },
    request.shellPhase system past (request.importing system past).1
      (request.decoding system past)]

variable {request : Request} {system : System} {past : History}
  {result : Except Failure WaitStatus} {events : History}

/-- The check of a command that was decoded. -/
theorem nulFailure?_ok (command : Bytes) :
    nulFailure? (.ok command) = if command.hasNul then some .embeddedNul else none := by
  simp [nulFailure?, Bytes.hasNul]

/-- The calls of a launch are those of the phases that it reaches. -/
theorem Course.calls_eq (h : request.Course system past result events) :
    events.calls = ((Phase.reached (request.phases system past)).map Phase.calls).flatten := by
  cases h with
  | importFailed himport => simp [phases, Phase.reached, himport]
  | entryFailed himport henter => simp [phases, Phase.reached, himport, henter]
  | decodingFailed himport henter hdecode =>
    simp [phases, Phase.reached, himport, henter, hdecode, joinedEvents]
  | nulFound himport henter hdecode hnul =>
    simp [phases, Phase.reached, himport, henter, hdecode, joinedEvents, nulFailure?_ok,
      hnul]
  | spawnFailed himport henter hdecode hnul hshell =>
    simp [phases, Phase.reached, himport, henter, hdecode, joinedEvents, nulFailure?_ok,
      hnul, decodedEvents, shellPhase]
  | finished himport henter hdecode hnul hshell =>
    simp [phases, Phase.reached, himport, henter, hdecode, joinedEvents, nulFailure?_ok,
      hnul, decodedEvents, shellPhase]

/-- The failure of a launch is that of the first phase that fails. -/
theorem Course.failure?_eq (h : request.Course system past result events) :
    failure? result = (request.phases system past).findSome? Phase.failure? := by
  cases h with
  | importFailed himport => simp [phases, himport]
  | entryFailed himport henter => simp [phases, himport, henter]
  | decodingFailed himport henter hdecode => simp [phases, himport, henter, hdecode]
  | nulFound himport henter hdecode hnul =>
    simp [phases, himport, henter, hdecode, nulFailure?_ok, hnul]
  | spawnFailed himport henter hdecode hnul hshell =>
    simp [phases, himport, henter, hdecode, nulFailure?_ok, hnul, shellPhase, hshell]
  | finished himport henter hdecode hnul hshell =>
    simp [phases, himport, henter, hdecode, nulFailure?_ok, hnul, shellPhase, hshell]

/-- Whether everything before the check for a zero byte succeeds, with a command as the outcome. -/
structure Yields (request : Request) (system : System) (past : History) (command : Bytes) :
    Prop where
  imports : ∃ overlay, (request.importing system past).1 = .ok overlay
  enters : (request.entering system past).1 = .ok ()
  decodes : request.decoding system past = .ok command

/-- A launch has at most one command. -/
theorem Yields.unique {command other : Bytes} (h : request.Yields system past command)
    (hother : request.Yields system past other) : command = other := by
  have heq := h.decodes.symm.trans hother.decodes
  injection heq

/-- A late failure is nothing that the import of an environment fails for. -/
theorem not_isLate_of_importing {failure : Failure}
    (h : (request.importing system past).1 = .error failure) : ¬ failure.IsLate := by
  have himport := requestImport_of_importing h
  cases himport with
  | failed hon himport =>
    rcases himport.failure_cases with ⟨_, _, rfl⟩ | ⟨_, _, rfl⟩ | ⟨_, rfl⟩ <;> exact id

/-- A late failure is nothing that the entry of a namespace fails for. -/
theorem not_isLate_of_entering {failure : Failure}
    (h : (request.entering system past).1 = .error failure) : ¬ failure.IsLate := by
  have hentries := entries_of_entering h
  rcases hentries.failure_cases with ⟨_, _, rfl⟩ | ⟨_, _, rfl⟩ | ⟨_, _, _, rfl⟩ <;> exact id

/-- A late failure is nothing that the decoding of a command fails for. -/
theorem not_isLate_of_decoding {failure : Failure}
    (h : request.decoding system past = .error failure) : ¬ failure.IsLate := by
  rcases decodeCommand_error_cases h with ⟨_, error, _, rfl⟩ | ⟨_, rfl⟩ <;> exact id

/-- A launch yields no command and fails for another reason than a zero byte, or it yields one with
a zero byte and fails for it, or it yields one without and starts the shell. -/
theorem Course.trichotomy (h : request.Course system past result events) :
    ((∀ command, ¬ request.Yields system past command) ∧ (∀ image, .spawn image ∉ events.calls) ∧
      result ≠ .error .embeddedNul) ∨
    (∃ command, request.Yields system past command ∧ 0 ∈ command ∧
      (∀ image, .spawn image ∉ events.calls) ∧ result = .error .embeddedNul) ∨
    (∃ command, request.Yields system past command ∧ 0 ∉ command ∧
      (∃ image, .spawn image ∈ events.calls) ∧ result ≠ .error .embeddedNul) := by
  have hjoined := request.spawn_not_mem_joinedEvents system past
  cases h with
  | importFailed himport =>
    refine Or.inl ⟨fun command h => ?_, fun image hspawn => hjoined image ?_, ?_⟩
    · obtain ⟨overlay, hok⟩ := h.imports
      simp [himport] at hok
    · simp [joinedEvents, hspawn]
    · rintro ⟨⟩
      exact not_isLate_of_importing himport trivial
  | entryFailed himport henter =>
    refine Or.inl ⟨fun command h => ?_, fun image hspawn => hjoined image ?_, ?_⟩
    · have hok := h.enters
      simp [henter] at hok
    · rw [joinedEvents, History.calls_append]
      exact List.mem_append_left _ hspawn
    · rintro ⟨⟩
      exact not_isLate_of_entering henter trivial
  | decodingFailed himport henter hdecode =>
    refine Or.inl ⟨fun command h => ?_, hjoined, ?_⟩
    · have hok := h.decodes
      simp [hdecode] at hok
    · rintro ⟨⟩
      exact not_isLate_of_decoding hdecode trivial
  | @nulFound overlay command himport henter hdecode hnul =>
    have hmem : 0 ∈ command := by simpa [Bytes.hasNul] using hnul
    exact Or.inr (Or.inl ⟨command, ⟨⟨overlay, himport⟩, henter, hdecode⟩, hmem, hjoined, rfl⟩)
  | @spawnFailed overlay command error himport henter hdecode hnul hshell =>
    have hmem : 0 ∉ command := by simpa [Bytes.hasNul] using hnul
    exact Or.inr (Or.inr ⟨command, ⟨⟨overlay, himport⟩, henter, hdecode⟩, hmem,
      ⟨shell system past command overlay, by simp⟩, by simp⟩)
  | @finished overlay command status himport henter hdecode hnul hshell =>
    have hmem : 0 ∉ command := by simpa [Bytes.hasNul] using hnul
    exact Or.inr (Or.inr ⟨command, ⟨⟨overlay, himport⟩, henter, hdecode⟩, hmem,
      ⟨shell system past command overlay, by simp⟩, by simp⟩)

/-- The shell is started exactly for a command without a zero byte. -/
theorem Course.spawn_mem_iff (h : request.Course system past result events) :
    (∃ image, .spawn image ∈ events.calls) ↔
      ∃ command, request.Yields system past command ∧ 0 ∉ command := by
  rcases h.trichotomy with ⟨hnone, hcalls, _⟩ | ⟨command, hyields, hmem, hcalls, _⟩ |
    ⟨command, hyields, hmem, hspawn, _⟩
  · simp [hnone, hcalls]
  · refine iff_of_false (by simpa using hcalls) ?_
    rintro ⟨other, hother, hfree⟩
    exact hfree (hyields.unique hother ▸ hmem)
  · exact iff_of_true hspawn ⟨command, hyields, hmem⟩

/-- A launch fails for a zero byte exactly when there is one in its command. -/
theorem Course.embeddedNul_iff (h : request.Course system past result events) :
    result = .error .embeddedNul ↔
      ∃ command, request.Yields system past command ∧ 0 ∈ command := by
  rcases h.trichotomy with ⟨hnone, _, hne⟩ | ⟨command, hyields, hmem, _, heq⟩ |
    ⟨command, hyields, hfree, _, hne⟩
  · simp [hnone, hne]
  · exact iff_of_true heq ⟨command, hyields, hmem⟩
  · refine iff_of_false hne ?_
    rintro ⟨other, hother, hmem⟩
    exact hfree (hyields.unique hother ▸ hmem)

/-- The calls of a launch are the first ones of those that are planned for the environment and the
namespaces, or all of them and the start of the shell. -/
theorem Course.calls_cases (h : request.Course system past result events) :
    ∃ file sizes parts,
      List.Forall₂ (EntryCalls request.target) request.selection.kinds parts ∧
      (events.calls <+: request.environmentCalls file sizes ++ parts.flatten ∨
        ∃ command overlay, request.decoding system past = .ok command ∧
          events.calls = request.environmentCalls file sizes ++ parts.flatten ++
            [.spawn (shell system past command overlay)]) := by
  obtain ⟨file, sizes, parts, hparts, himported, himportedAll, hentered, henteredAll⟩ :=
    exists_planned_calls request system past
  refine ⟨file, sizes, parts, hparts, ?_⟩
  cases h with
  | importFailed himport => exact Or.inl (himported.trans (List.prefix_append ..))
  | entryFailed himport henter =>
    rw [History.calls_append, himportedAll _ himport]
    exact Or.inl ((List.prefix_append_right_inj _).mpr hentered)
  | decodingFailed himport henter hdecode =>
    exact Or.inl (by simp [joinedEvents, himportedAll _ himport, henteredAll henter])
  | nulFound himport henter hdecode hnul =>
    exact Or.inl (by simp [joinedEvents, himportedAll _ himport, henteredAll henter])
  | @spawnFailed overlay command error himport henter hdecode hnul hshell =>
    refine Or.inr ⟨command, overlay, hdecode, ?_⟩
    simp [decodedEvents, joinedEvents, himportedAll _ himport, henteredAll henter]
  | @finished overlay command status himport henter hdecode hnul hshell =>
    refine Or.inr ⟨command, overlay, hdecode, ?_⟩
    simp [decodedEvents, joinedEvents, himportedAll _ himport, henteredAll henter]

/-- The calls of a launch are the first ones of those that are planned: the environment, the
namespaces one after the other, and the shell with the decoded command. -/
theorem Course.calls_planned (h : request.Course system past result events) :
    ∃ file sizes parts image,
      List.Forall₂ (EntryCalls request.target) request.selection.kinds parts ∧
      image.program = Bytes.ofString shellPath ∧
      (∀ command, request.decoding system past = .ok command →
        image.arguments = [Bytes.ofString "-c", command]) ∧
      events.calls <+:
        request.environmentCalls file sizes ++ parts.flatten ++ [.spawn image] := by
  obtain ⟨file, sizes, parts, hparts, hcalls | ⟨command, overlay, hdecode, hcalls⟩⟩ :=
    h.calls_cases
  · refine ⟨file, sizes, parts,
      shell system past ((request.decoding system past).toOption.getD []) .empty, hparts, rfl,
      fun command hdecode => ?_, hcalls.trans (List.prefix_append ..)⟩
    simp [hdecode, shell, shellImage, Except.toOption]
  · refine ⟨file, sizes, parts, shell system past command overlay, hparts, rfl,
      fun other hother => ?_, ?_⟩
    · rw [hdecode] at hother
      cases hother
      rfl
    · exact hcalls ▸ List.prefix_rfl

end Request

/-- A launch goes through its phases in order and stops at the first failure. It makes the calls of
the phases that it reaches and no others, and fails as the first phase that fails. All its calls
are the first ones of those that are planned: the environment if it is asked for, the selected
namespaces in the order of entry, and the shell with the decoded command as its argument. The shell
is started exactly if nothing failed before and there is no zero byte in the command, and a zero
byte is the failure exactly if nothing failed before and there is one. -/
theorem launch_stops_at_first_failure (request : Request) (system : System) (past : History) :
    (launch request system past).2.calls =
        ((Phase.reached (request.phases system past)).map Phase.calls).flatten ∧
      failure? (launch request system past).1 =
        (request.phases system past).findSome? Phase.failure? ∧
      (∃ (file : Descriptor) (sizes : List Nat) (parts : List (List Call)) (image : ProcessImage),
        List.Forall₂ (EntryCalls request.target)
          ([.ipc, .uts, .net, .pid, .mnt].filter request.selection.contains) parts ∧
        image.program = Bytes.ofString "/bin/sh" ∧
        (∀ command, request.decoding system past = .ok command →
          image.arguments = [Bytes.ofString "-c", command]) ∧
        (launch request system past).2.calls <+:
          (if request.importsEnvironment then
            .openFile request.target.environmentPath :: sizes.map (.read file) else []) ++
          parts.flatten ++ [.spawn image]) ∧
      ((∃ image, .spawn image ∈ (launch request system past).2.calls) ↔
        ∃ command, request.Yields system past command ∧ 0 ∉ command) ∧
      ((launch request system past).1 = .error .embeddedNul ↔
        ∃ command, request.Yields system past command ∧ 0 ∈ command) := by
  have hcourse := launch_course request system past
  exact ⟨hcourse.calls_eq, hcourse.failure?_eq, hcourse.calls_planned, hcourse.spawn_mem_iff,
    hcourse.embeddedNul_iff⟩

end Relocation
