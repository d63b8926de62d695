import Relocation.Proofs.Environment.Block
import Relocation.Proofs.Launch.Phases

/-!
# The environment of the shell

A launch starts at most one process, the shell, and the environment of the shell is the
one that the launcher inherited with the imported variables set on top of it. Seen from
the block that is imported, a key has the value of its last record there, and a key
without a record keeps what the launcher inherited.
-/

namespace Relocation

open Session Environment

namespace History

/-- The processes that are started in a history. -/
def images (history : History) : List ProcessImage :=
  history.calls.filterMap fun
    | .spawn image => some image
    | _ => none

/-- The processes started in two histories that follow one another. -/
@[simp] theorem images_append (first second : History) :
    images (first ++ second) = images first ++ images second := by
  simp [images]

/-- A history without a call that starts a process has no processes. -/
theorem images_eq_nil {history : History} (h : ∀ image, .spawn image ∉ history.calls) :
    history.images = [] := by
  refine List.filterMap_eq_nil_iff.mpr fun call hcall => ?_
  cases call with
  | spawn image => exact absurd hcall (h image)
  | _ => rfl

end History

namespace Request

variable {request : Request} {system : System} {past : History}

/-- What the first phase gives: the variables of the block that is read, if they are asked for. -/
theorem importing_result (request : Request) (system : System) (past : History) :
    (request.importing system past).1 =
      if request.importsEnvironment then
        (readBlock request.target.environmentPath system past).1 >>= fun block =>
          (parseBlock block).mapError .malformedVariable
      else .ok .empty := by
  rw [importing, importEnvironment]
  split
  · have hfrom : (importFrom request.target system past).1 =
        (readBlock request.target.environmentPath system past).1 >>= fun block =>
          (parseBlock block).mapError .malformedVariable := by
      refine fst_bind _ fun block before => ?_
      cases parseBlock block <;> rfl
    rw [← hfrom]
    -- What is recorded of the import does not change what it gives.
    refine (fst_bind (importFrom request.target) fun overlay before => ?_).trans (bind_pure _)
    dsimp only
    split <;> rfl
  · rfl

/-- What is imported if a block is read: its variables, or a failure for a block that is refused. -/
theorem importing_of_read {block : Bytes} (hon : request.importsEnvironment = true)
    (hread : (readBlock request.target.environmentPath system past).1 = .ok block) :
    (request.importing system past).1 = (parseBlock block).mapError .malformedVariable := by
  rw [importing_result, if_pos hon, hread]
  rfl

/-- A launch whose first phases succeed starts one process, the shell in the environment that the
imported variables make of the inherited one. -/
theorem Course.images_eq {result : Except Failure WaitStatus} {events : History}
    (h : request.Course system past result events) {overlay : Overlay} {command : Bytes}
    (himport : (request.importing system past).1 = .ok overlay)
    (henter : (request.entering system past).1 = .ok ())
    (hdecode : request.decoding system past = .ok command) (hnul : 0 ∉ command) :
    events.images = [shell system past command overlay] := by
  have hjoined : (request.joinedEvents system past).images = [] :=
    History.images_eq_nil (request.spawn_not_mem_joinedEvents system past)
  have hdecoded : (request.decodedEvents system past command).images = [] := by
    rw [decodedEvents, History.images_append, hjoined]
    rfl
  cases h with
  | importFailed hfailed => simp [himport] at hfailed
  | entryFailed _ hfailed => simp [henter] at hfailed
  | decodingFailed _ _ hfailed => simp [hdecode] at hfailed
  | nulFound _ _ hother hfound =>
    obtain rfl : command = _ := by simpa [hdecode] using hother
    exact absurd (by simpa [Bytes.hasNul] using hfound) hnul
  | spawnFailed hoverlay _ hother =>
    obtain rfl : overlay = _ := by simpa [himport] using hoverlay
    obtain rfl : command = _ := by simpa [hdecode] using hother
    rw [History.images_append, hdecoded]
    rfl
  | finished hoverlay _ hother =>
    obtain rfl : overlay = _ := by simpa [himport] using hoverlay
    obtain rfl : command = _ := by simpa [hdecode] using hother
    rw [History.images_append, hdecoded]
    rfl

/-- A launch sets no variable of the launcher. -/
theorem Course.setVariable_not_mem {result : Except Failure WaitStatus} {events : History}
    (h : request.Course system past result events) (key value : Bytes) :
    .setVariable key value ∉ events.calls := by
  have hjoined := request.setVariable_not_mem_joinedEvents system past key value
  have hfirst := hjoined
  simp only [joinedEvents, History.calls_append, List.mem_append, not_or] at hfirst
  cases h with
  | importFailed => exact hfirst.1.1
  | entryFailed => simp [hfirst]
  | decodingFailed => exact hjoined
  | nulFound => exact hjoined
  | spawnFailed => simp [decodedEvents, hjoined]
  | finished => simp [decodedEvents, hjoined]

end Request

/-- The environment that the shell sees. In a launch whose other phases succeed, the shell is the
one process that is started. If the environment of the target is imported and its block is accepted,
each key has the value of the last record for it in the block, and without such a record it has the
value that the launcher inherited, or none. If it is not imported, the environment is the inherited
one. The launcher's own environment is the same before and after. -/
theorem launch_environment (request : Request) (system : System) (past : History) {command : Bytes}
    (henter : (request.entering system past).1 = .ok ())
    (hdecode : request.decoding system past = .ok command) (hnul : 0 ∉ command) :
    (∀ block overlay, request.importsEnvironment = true →
      (readBlock request.target.environmentPath system past).1 = .ok block →
      parseBlock block = .ok overlay →
      ∃ environment,
        (launch request system past).2.images = [shellImage command environment] ∧
        ∀ key,
          (∀ value, LastRecord (List.splitOn 0 block) key value →
            environment.get? key = some value) ∧
          ((¬ ∃ value, LastRecord (List.splitOn 0 block) key value) →
            environment.get? key = (past.environment system.environment).get? key)) ∧
      (request.importsEnvironment = false →
        (launch request system past).2.images =
          [shellImage command (past.environment system.environment)]) ∧
      (past ++ (launch request system past).2).environment system.environment =
        past.environment system.environment := by
  have hcourse := launch_course request system past
  refine ⟨fun block overlay hon hread hparse => ?_, fun hoff => ?_,
    History.environment_append hcourse.setVariable_not_mem _⟩
  · have himport : (request.importing system past).1 = .ok overlay := by
      rw [Request.importing_of_read hon hread, hparse]
      rfl
    refine ⟨overlay.apply (past.environment system.environment),
      hcourse.images_eq himport henter hdecode hnul,
      fun key => ⟨fun value hlast => ?_, fun hnone => ?_⟩⟩
    · rw [Overlay.get?_apply, (get?_of_parseBlock hparse).mpr hlast]
      rfl
    · have hunset : overlay.get? key = none := by
        refine Option.eq_none_iff_forall_ne_some.mpr fun value hvalue => ?_
        exact hnone ⟨value, (get?_of_parseBlock hparse).mp hvalue⟩
      rw [Overlay.get?_apply, hunset]
      rfl
  · have himport : (request.importing system past).1 = .ok .empty := by
      rw [Request.importing_result, hoff]
      rfl
    exact hcourse.images_eq himport henter hdecode hnul

/-- A request for the network namespace of a process, without its environment. -/
def Request.forNetwork (encoded : Bytes) : Request where
  target := ⟨7, by decide, by decide⟩
  encodedCommand := encoded
  selection := { net := true }
  importsEnvironment := false

/-- A request for the environment and the network namespace of a process. -/
def Request.forEnvironment (encoded : Bytes) : Request :=
  { Request.forNetwork encoded with importsEnvironment := true }

/-- A system that has a process with an environment block, gives the launcher an environment, and
lets every call succeed. The launcher is a member of all namespaces already. -/
def System.obliging (block : Bytes) (environment : Variables) : System where
  reply history call :=
    match call with
    | .pause => .ok ()
    | .openFile _ => .ok ⟨3⟩
    | .read file most => ⟨0, .ofBytes most (block.drop (history.bytesRead file).length)⟩
    | .setVariable _ _ => ()
    | .inode _ => .ok 4026531836
    | .enterNamespace _ _ => .ok ()
    | .holdsCapability => .ok true
    | .spawn _ => .ok (.exited 0)
  reserves _ _ := true
  environment := environment

/-- The block `A=1 B=x=y A=` sets `A`, which is inherited, to its last value, and `B` to a value
with an equals sign in it. The inherited `C` stays as it was. -/
theorem launch_environment_overridden :
    ∃ environment,
      (launch (.forEnvironment [79, 103, 61, 61])
          (System.obliging [65, 61, 49, 0, 66, 61, 120, 61, 121, 0, 0, 65, 61, 0]
            (.ofEntries [([65], [48]), ([67], [50])])) []).2.images =
        [shellImage [58] environment] ∧
      environment.get? [65] = some [] ∧ environment.get? [66] = some [120, 61, 121] ∧
        environment.get? [67] = some [50] := by
  obtain ⟨environment, himages, hkeys⟩ :=
    (@launch_environment (.forEnvironment [79, 103, 61, 61])
        (System.obliging [65, 61, 49, 0, 66, 61, 120, 61, 121, 0, 0, 65, 61, 0]
          (.ofEntries [([65], [48]), ([67], [50])])) [] [58] rfl (by decide) (by decide)).1
      [65, 61, 49, 0, 66, 61, 120, 61, 121, 0, 0, 65, 61, 0] _ rfl (by decide +kernel) rfl
  have hrecords : List.splitOn 0 ([65, 61, 49, 0, 66, 61, 120, 61, 121, 0, 0, 65, 61, 0] : Bytes) =
      [[65, 61, 49], [66, 61, 120, 61, 121], [], [65, 61], []] := by decide
  rw [hrecords] at hkeys
  refine ⟨environment, himages, (hkeys _).1 _ ?_, (hkeys _).1 _ ?_, (hkeys _).2 ?_⟩
  · exact ⟨by decide, [[65, 61, 49], [66, 61, 120, 61, 121], []], [[]], rfl, by decide⟩
  · exact ⟨by decide, [[65, 61, 49]], [[], [65, 61], []], rfl, by decide⟩
  · rintro ⟨value, hlast⟩
    simpa using hlast.mem

end Relocation
