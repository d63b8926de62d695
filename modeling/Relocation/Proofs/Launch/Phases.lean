import Relocation.Proofs.Environment.Import
import Relocation.Proofs.Namespace.Entry

/-!
# The phases of a launch

A launch has five phases: the import of the environment, the entry of the namespaces,
the decoding of the command, the check for a zero byte, and the shell. Here the outcome
of each phase gets a name, and the relation `Course` lists the ways in which a launch
can go through its phases. Every launch goes one of these ways.
-/

namespace Relocation

open Session Environment Namespace

namespace Request

section

variable (request : Request) (system : System) (past : History)

/-- The first phase, with the variables that it imports. -/
def importing : Except Failure Overlay × History :=
  importEnvironment request system past

/-- The second phase, after a first phase that succeeded. -/
def entering : Except Failure Unit × History :=
  enterAll request.target request.selection.kinds system (past ++ (request.importing system past).2)

/-- What has happened in the launch when the command is decoded. -/
def joinedEvents : History :=
  (request.importing system past).2 ++ (request.entering system past).2 ++
    [.recorded .namespacesJoined]

/-- The command of the request, decoded into the memory that can be had after the namespaces were
entered. -/
def decoding : Except Failure Bytes :=
  decodeCommand (system.reserves (past ++ request.joinedEvents system past)) request.encodedCommand

/-- The shell as it is started for a command with imported variables. -/
def shell (command : Bytes) (overlay : Overlay) : ProcessImage :=
  shellImage command (overlay.apply (past.environment system.environment))

/-- What has happened in the launch when the shell is started. -/
def decodedEvents (command : Bytes) : History :=
  request.joinedEvents system past ++ [.recorded (.commandDecoded command.length)]

/-- How the shell for a command ends. -/
def shellReply (command : Bytes) (overlay : Overlay) : Except IoError WaitStatus :=
  system.reply (past ++ request.decodedEvents system past command)
    (.spawn (shell system past command overlay))

end

/-- Everything that a launch can come to, phase by phase. -/
inductive Course (request : Request) (system : System) (past : History) :
    Except Failure WaitStatus → History → Prop where
  | importFailed {failure : Failure}
      (himport : (request.importing system past).1 = .error failure) :
      Course request system past (.error failure) (request.importing system past).2
  | entryFailed {overlay : Overlay} {failure : Failure}
      (himport : (request.importing system past).1 = .ok overlay)
      (henter : (request.entering system past).1 = .error failure) :
      Course request system past (.error failure)
        ((request.importing system past).2 ++ (request.entering system past).2)
  | decodingFailed {overlay : Overlay} {failure : Failure}
      (himport : (request.importing system past).1 = .ok overlay)
      (henter : (request.entering system past).1 = .ok ())
      (hdecode : request.decoding system past = .error failure) :
      Course request system past (.error failure) (request.joinedEvents system past)
  | nulFound {overlay : Overlay} {command : Bytes}
      (himport : (request.importing system past).1 = .ok overlay)
      (henter : (request.entering system past).1 = .ok ())
      (hdecode : request.decoding system past = .ok command) (hnul : command.hasNul = true) :
      Course request system past (.error .embeddedNul) (request.joinedEvents system past)
  | spawnFailed {overlay : Overlay} {command : Bytes} {error : IoError}
      (himport : (request.importing system past).1 = .ok overlay)
      (henter : (request.entering system past).1 = .ok ())
      (hdecode : request.decoding system past = .ok command) (hnul : command.hasNul = false)
      (hshell : request.shellReply system past command overlay = .error error) :
      Course request system past (.error (.spawn error))
        (request.decodedEvents system past command ++
          [.called (.spawn (shell system past command overlay)) (.error error)])
  | finished {overlay : Overlay} {command : Bytes} {status : WaitStatus}
      (himport : (request.importing system past).1 = .ok overlay)
      (henter : (request.entering system past).1 = .ok ())
      (hdecode : request.decoding system past = .ok command) (hnul : command.hasNul = false)
      (hshell : request.shellReply system past command overlay = .ok status) :
      Course request system past (.ok status)
        (request.decodedEvents system past command ++
          [.called (.spawn (shell system past command overlay)) (.ok status),
            .recorded (.executed status)])

end Request

namespace Request

/-- The first phase comes to one of its listed outcomes. -/
theorem importing_requestImport (request : Request) (system : System) (past : History) :
    RequestImport request (request.importing system past).1 (request.importing system past).2 :=
  importEnvironment_requestImport request system past

/-- The second phase comes to one of its listed outcomes. -/
theorem entering_entries (request : Request) (system : System) (past : History) :
    Entries request.target request.selection.kinds (request.entering system past).1
      (request.entering system past).2 :=
  enterAll_entries ..

variable {request : Request} {system : System} {past : History}

/-- Before the command is decoded, the environment of the target is opened and read, and namespaces
are dealt with. Nothing else is done. -/
theorem calls_joinedEvents {call : Call} (h : call ∈ (request.joinedEvents system past).calls) :
    call = .openFile request.target.environmentPath ∨ (∃ file most, call = .read file most) ∨
      (∃ kind, call.Concerns request.target kind) ∨ call = .holdsCapability := by
  simp only [joinedEvents, History.calls_append, List.mem_append, History.calls_cons_recorded,
    History.calls_nil, List.not_mem_nil, or_false] at h
  rcases h with himported | hentered
  · obtain ⟨file, sizes, hinitial, _⟩ := (request.importing_requestImport system past).calls
    refine (mem_environmentCalls (hinitial.subset himported)).imp_right fun ⟨most, hread⟩ => ?_
    exact Or.inl ⟨file, most, hread⟩
  · have hconcerns := (request.entering_entries system past).concerns call hentered
    refine Or.inr (Or.inr (hconcerns.imp_left ?_))
    rintro ⟨kind, _, hconcerns⟩
    exact ⟨kind, hconcerns⟩

/-- No process is started before the shell. -/
theorem spawn_not_mem_joinedEvents (request : Request) (system : System) (past : History)
    (image : ProcessImage) : .spawn image ∉ (request.joinedEvents system past).calls := by
  intro hspawn
  rcases calls_joinedEvents hspawn with h | ⟨_, _, h⟩ | ⟨_, h⟩ | h
  · cases h
  · cases h
  · exact h
  · cases h

/-- No variable of the launcher is set before the shell is started. -/
theorem setVariable_not_mem_joinedEvents (request : Request) (system : System) (past : History)
    (key value : Bytes) : .setVariable key value ∉ (request.joinedEvents system past).calls := by
  intro hset
  rcases calls_joinedEvents hset with h | ⟨_, _, h⟩ | ⟨_, h⟩ | h
  · cases h
  · cases h
  · exact h
  · cases h

/-- The launcher's own environment is the same when the command is decoded. -/
theorem environment_decodedEvents (request : Request) (system : System) (past : History)
    (command : Bytes) (inherited : Variables) :
    (past ++ request.decodedEvents system past command).environment inherited =
      past.environment inherited := by
  refine History.environment_append (fun key value hset => ?_) inherited
  have hjoined := request.setVariable_not_mem_joinedEvents system past key value
  simp [decodedEvents, hjoined] at hset

end Request

/-- A command is not decoded because the decoder refuses it or because there is no memory for it. -/
theorem decodeCommand_error_cases {reserves : Nat → Bool} {encoded : Bytes} {failure : Failure}
    (h : decodeCommand reserves encoded = .error failure) :
    (reserves (Base64.capacity encoded.length) = true ∧
        ∃ error, Base64.decode encoded = .error error ∧ failure = .encoding error) ∨
      (reserves (Base64.capacity encoded.length) = false ∧
        failure = .allocation (Base64.capacity encoded.length)) := by
  rw [decodeCommand] at h
  split at h
  · next hmemory =>
    cases hdecode : Base64.decode encoded with
    | ok command =>
      rw [hdecode] at h
      cases h
    | error error =>
      rw [hdecode] at h
      cases h
      exact Or.inl ⟨hmemory, error, rfl, rfl⟩
  · next hmemory =>
    cases h
    exact Or.inr ⟨by simpa using hmemory, rfl⟩

/-- A command that cannot be decoded is not given. -/
theorem commandOf_of_error {request : Request} {system : System} {past : History}
    {failure : Failure}
    (hdecode : decodeCommand (system.reserves past) request.encodedCommand = .error failure) :
    commandOf request system past = (.error failure, []) := by
  rw [commandOf, bind_of_ok reserves_apply, List.append_nil, hdecode]
  rfl

/-- A decoded command is given unless there is a zero byte in it. -/
theorem commandOf_of_ok {request : Request} {system : System} {past : History} {command : Bytes}
    (hdecode : decodeCommand (system.reserves past) request.encodedCommand = .ok command) :
    commandOf request system past =
      (if command.hasNul then .error .embeddedNul else .ok command, []) := by
  rw [commandOf, bind_of_ok reserves_apply, List.append_nil, hdecode,
    bind_of_ok (ofExcept_apply _)]
  dsimp only
  split <;> rfl

/-- A shell that cannot be started is a failure. -/
theorem execute_of_error {command : Bytes} {overlay : Overlay} {system : System} {past : History}
    {image : ProcessImage} {error : IoError}
    (himage : Request.shell system past command overlay = image)
    (h : system.reply past (.spawn image) = .error error) :
    execute command overlay system past =
      (.error (.spawn error), [.called (.spawn image) (.error error)]) := by
  rw [execute, bind_of_ok environment_apply, List.append_nil, ← Request.shell, himage,
    bind_of_ok (call_of_reply h)]
  rfl

/-- The status of a shell that was started is the result. -/
theorem execute_of_ok {command : Bytes} {overlay : Overlay} {system : System} {past : History}
    {image : ProcessImage} {status : WaitStatus}
    (himage : Request.shell system past command overlay = image)
    (h : system.reply past (.spawn image) = .ok status) :
    execute command overlay system past =
      (.ok status, [.called (.spawn image) (.ok status)]) := by
  rw [execute, bind_of_ok environment_apply, List.append_nil, ← Request.shell, himage,
    bind_of_ok (call_of_reply h)]
  rfl

/-- The first phase of a launch with a known result. -/
theorem importEnvironment_of_importing {request : Request} {system : System} {past : History}
    {result : Except Failure Overlay} (h : (request.importing system past).1 = result) :
    importEnvironment request system past = (result, (request.importing system past).2) :=
  Prod.ext h rfl

/-- The second phase of a launch with a known result. -/
theorem enterAll_of_entering {request : Request} {system : System} {past : History}
    {result : Except Failure Unit} (h : (request.entering system past).1 = result) :
    enterAll request.target request.selection.kinds system
        (past ++ (request.importing system past).2) =
      (result, (request.entering system past).2) :=
  Prod.ext h rfl

/-- Every launch goes one of the listed ways. -/
theorem launch_course (request : Request) (system : System) (past : History) :
    request.Course system past (launch request system past).1 (launch request system past).2 := by
  rw [launch]
  cases himport : (request.importing system past).1 with
  | error failure =>
    rw [bind_of_error (importEnvironment_of_importing himport)]
    exact .importFailed himport
  | ok overlay =>
    rw [bind_of_ok (importEnvironment_of_importing himport)]
    cases henter : (request.entering system past).1 with
    | error failure =>
      rw [bind_of_error (enterAll_of_entering henter)]
      exact .entryFailed himport henter
    | ok =>
      rw [bind_of_ok (enterAll_of_entering henter), bind_of_ok (record_apply _)]
      have hjoined : past ++ (request.importing system past).2 ++
          (request.entering system past).2 ++ [.recorded .namespacesJoined] =
          past ++ request.joinedEvents system past := by
        simp [Request.joinedEvents]
      dsimp only
      rw [hjoined]
      cases hdecode : request.decoding system past with
      | error failure =>
        rw [bind_of_error (commandOf_of_error hdecode)]
        have hcourse := Request.Course.decodingFailed himport henter hdecode
        simpa [Request.joinedEvents] using hcourse
      | ok command =>
        cases hnul : command.hasNul with
        | true =>
          have hcommand := commandOf_of_ok hdecode
          rw [if_pos hnul] at hcommand
          rw [bind_of_error hcommand]
          have hcourse := Request.Course.nulFound himport henter hdecode hnul
          simpa [Request.joinedEvents] using hcourse
        | false =>
          have hcommand := commandOf_of_ok hdecode
          rw [if_neg (by simp [hnul])] at hcommand
          rw [bind_of_ok hcommand, bind_of_ok (record_apply _)]
          have hdecoded : past ++ request.joinedEvents system past ++ [] ++
              [.recorded (.commandDecoded command.length)] =
              past ++ request.decodedEvents system past command := by
            simp [Request.decodedEvents]
          -- The shell inherits the environment with which the launch began.
          have himage : Request.shell system (past ++ request.decodedEvents system past command)
              command overlay = Request.shell system past command overlay := by
            rw [Request.shell, request.environment_decodedEvents system past command, Request.shell]
          dsimp only
          rw [hdecoded]
          cases hshell : request.shellReply system past command overlay with
          | error error =>
            rw [bind_of_error (execute_of_error himage hshell)]
            have hcourse := Request.Course.spawnFailed himport henter hdecode hnul hshell
            simpa [Request.decodedEvents, Request.joinedEvents] using hcourse
          | ok status =>
            rw [bind_of_ok (execute_of_ok himage hshell), bind_of_ok (record_apply _)]
            have hcourse := Request.Course.finished himport henter hdecode hnul hshell
            simpa [Request.decodedEvents, Request.joinedEvents] using hcourse

namespace Request

/-- A launch whose outcome is known went one of the listed ways to it. -/
theorem course_of_launch {request : Request} {system : System} {past : History}
    {result : Except Failure WaitStatus} {events : History}
    (h : launch request system past = (result, events)) :
    request.Course system past result events := by
  have hcourse := launch_course request system past
  rwa [h] at hcourse

/-- A first phase whose result is known comes to an outcome with this result. -/
theorem requestImport_of_importing {request : Request} {system : System} {past : History}
    {result : Except Failure Overlay} (h : (request.importing system past).1 = result) :
    RequestImport request result (request.importing system past).2 :=
  h ▸ request.importing_requestImport system past

/-- A second phase whose result is known comes to an outcome with this result. -/
theorem entries_of_entering {request : Request} {system : System} {past : History}
    {result : Except Failure Unit} (h : (request.entering system past).1 = result) :
    Entries request.target request.selection.kinds result (request.entering system past).2 :=
  h ▸ request.entering_entries system past

/-- The calls of the first two phases are those that are planned for them, all of them if the phase
succeeds. -/
theorem exists_planned_calls (request : Request) (system : System) (past : History) :
    ∃ file sizes parts,
      List.Forall₂ (EntryCalls request.target) request.selection.kinds parts ∧
      (request.importing system past).2.calls <+: request.environmentCalls file sizes ∧
      (∀ overlay, (request.importing system past).1 = .ok overlay →
        (request.importing system past).2.calls = request.environmentCalls file sizes) ∧
      (request.entering system past).2.calls <+: parts.flatten ∧
      ((request.entering system past).1 = .ok () →
        (request.entering system past).2.calls = parts.flatten) := by
  obtain ⟨file, sizes, hinitial, hall⟩ := (request.importing_requestImport system past).calls
  obtain ⟨parts, hparts, hentered, hevery⟩ := (request.entering_entries system past).calls
  exact ⟨file, sizes, parts, hparts, hinitial, hall, hentered, hevery⟩

end Request

end Relocation
