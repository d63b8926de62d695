import Relocation.Proofs.Base64.Endings
import Relocation.Proofs.Launch.Order

/-!
# The result of a launch

A launch gives the status of the shell exactly if every phase succeeds, and then it is the
status that the system answers to the start of the shell. Any other launch fails, and
is reported with 254 if the length of the encoded command is the reason and with 255
otherwise.
-/

namespace Relocation.Request

open Session Environment Namespace

/-- Whether every phase of a launch succeeds and the shell ends with a status. -/
def Runs (request : Request) (system : System) (past : History) (status : WaitStatus) : Prop :=
  ∃ overlay command,
    (request.importing system past).1 = .ok overlay ∧
    (request.entering system past).1 = .ok () ∧
    request.decoding system past = .ok command ∧ 0 ∉ command ∧
    request.shellReply system past command overlay = .ok status

/-- Whether a launch comes as far as the decoding of the command, has the memory for it, and finds
an encoded command of the wrong length. -/
structure Misencoded (request : Request) (system : System) (past : History) : Prop where
  imports : ∃ overlay, (request.importing system past).1 = .ok overlay
  enters : (request.entering system past).1 = .ok ()
  reserved : system.reserves (past ++ request.joinedEvents system past)
    (Base64.capacity request.encodedCommand.length) = true
  length_ne : request.encodedCommand.length % 4 ≠ 0

variable {request : Request} {system : System} {past : History} {failure : Failure}
  {status : WaitStatus} {result : Except Failure WaitStatus} {events : History}

/-- The status of the shell is the result exactly if every phase succeeds. -/
theorem Course.eq_ok_iff (h : request.Course system past result events) :
    result = .ok status ↔ request.Runs system past status := by
  constructor
  · rintro rfl
    cases h with
    | @finished overlay command _ himport henter hdecode hnul hshell =>
      have hfree : 0 ∉ command := by simpa [Bytes.hasNul] using hnul
      exact ⟨overlay, command, himport, henter, hdecode, hfree, hshell⟩
  · rintro ⟨overlay, command, himport, henter, hdecode, hfree, hshell⟩
    cases h with
    | importFailed hfailed => simp [himport] at hfailed
    | entryFailed _ hfailed => simp [henter] at hfailed
    | decodingFailed _ _ hfailed => simp [hdecode] at hfailed
    | nulFound _ _ hother hnul =>
      obtain rfl := Except.ok.inj (hdecode.symm.trans hother)
      simp [Bytes.hasNul, hfree] at hnul
    | spawnFailed himported _ hother _ hfailed =>
      obtain rfl := Except.ok.inj (himport.symm.trans himported)
      obtain rfl := Except.ok.inj (hdecode.symm.trans hother)
      simp [hshell] at hfailed
    | finished himported _ hother _ hended =>
      obtain rfl := Except.ok.inj (himport.symm.trans himported)
      obtain rfl := Except.ok.inj (hdecode.symm.trans hother)
      obtain rfl := Except.ok.inj (hended.symm.trans hshell)
      rfl

/-- An encoded command of the wrong length is not decoded. -/
theorem Misencoded.decoding_ne_ok (h : request.Misencoded system past) (command : Bytes) :
    request.decoding system past ≠ .ok command := by
  obtain ⟨length, hdecode⟩ := Base64.decode_invalidLength_iff.mpr h.length_ne
  rw [decoding, decodeCommand, if_pos h.reserved, hdecode]
  simp [Except.mapError]

/-- A failure to import the environment is reported with 255. -/
theorem exitStatus_of_importing (h : (request.importing system past).1 = .error failure) :
    failure.exitStatus = 255 := by
  have himport := requestImport_of_importing h
  cases himport with
  | failed hon himport =>
    rcases himport.failure_cases with ⟨_, _, rfl⟩ | ⟨_, _, rfl⟩ | ⟨_, rfl⟩ <;> rfl

/-- A failure to enter the namespaces is reported with 255. -/
theorem exitStatus_of_entering (h : (request.entering system past).1 = .error failure) :
    failure.exitStatus = 255 := by
  have hentries := entries_of_entering h
  rcases hentries.failure_cases with ⟨_, _, rfl⟩ | ⟨_, _, rfl⟩ | ⟨_, _, _, rfl⟩ <;> rfl

/-- A failure to decode the command is reported with 254 if there is memory and the length of the
encoded command is wrong, and with 255 otherwise. -/
theorem exitStatus_of_decoding (h : request.decoding system past = .error failure) :
    failure.exitStatus =
      if system.reserves (past ++ request.joinedEvents system past)
          (Base64.capacity request.encodedCommand.length) = true ∧
        request.encodedCommand.length % 4 ≠ 0 then 254
      else 255 := by
  rcases decodeCommand_error_cases h with ⟨hreserved, error, hdecode, rfl⟩ | ⟨hreserved, rfl⟩
  · have hlength := @Base64.decode_invalidLength_iff request.encodedCommand
    rw [hdecode] at hlength
    cases error <;> simp_all [Failure.exitStatus]
  · simp [hreserved, Failure.exitStatus]

/-- A launch that fails is reported with 254 if the length of the encoded command is the reason and
with 255 otherwise. -/
theorem Course.exitStatus_of_error (h : request.Course system past (.error failure) events) :
    (request.Misencoded system past ∧ failure.exitStatus = 254) ∨
      (¬ request.Misencoded system past ∧ failure.exitStatus = 255) := by
  cases h with
  | importFailed himport =>
    refine Or.inr ⟨fun hmis => ?_, exitStatus_of_importing himport⟩
    obtain ⟨overlay, hok⟩ := hmis.imports
    simp [himport] at hok
  | entryFailed himport henter =>
    refine Or.inr ⟨fun hmis => ?_, exitStatus_of_entering henter⟩
    have hok := hmis.enters
    simp [henter] at hok
  | @decodingFailed overlay _ himport henter hdecode =>
    rw [exitStatus_of_decoding hdecode]
    split
    · next hmis => exact Or.inl ⟨⟨⟨overlay, himport⟩, henter, hmis.1, hmis.2⟩, rfl⟩
    · next hmis => exact Or.inr ⟨fun h => hmis ⟨h.reserved, h.length_ne⟩, rfl⟩
  | nulFound _ _ hdecode =>
    exact Or.inr ⟨fun hmis => hmis.decoding_ne_ok _ hdecode, rfl⟩
  | spawnFailed _ _ hdecode =>
    exact Or.inr ⟨fun hmis => hmis.decoding_ne_ok _ hdecode, rfl⟩

end Relocation.Request
