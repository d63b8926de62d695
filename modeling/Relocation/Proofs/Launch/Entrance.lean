import Relocation.Proofs.Launch.Answers
import Relocation.Proofs.Launch.Phases
import Relocation.Proofs.Namespace.Entrance

/-!
# Which namespaces a launch enters

Once the environment is imported, the selected kinds are handled one after the other
until one of them fails. The history of a launch shows how far it got: a complete part
for each kind that was handled, and after these parts either what the first failure
left or the start of the shell. A namespace is entered in its own part only.
-/

namespace Relocation

open Session Environment Namespace

namespace Request

variable {request : Request} {system : System} {past : History}
  {result : Except Failure WaitStatus} {events : History}

/-- The import of the environment concerns no namespace. -/
theorem not_concerns_importing (request : Request) (system : System) (past : History)
    (kind : Kind) :
    ∀ call ∈ (request.importing system past).2.calls, ¬ call.Concerns request.target kind := by
  intro call hcall
  obtain ⟨file, sizes, hinitial, _⟩ := (request.importing_requestImport system past).calls
  rcases mem_environmentCalls (hinitial.subset hcall) with rfl | ⟨most, rfl⟩
  · exact kind.environmentPath_ne_targetPath request.target
  · exact id

/-- Until the command is decoded, a launch concerns selected kinds only. -/
theorem mem_kinds_of_concerns_joinedEvents (request : Request) (system : System) (past : History)
    {kind : Kind} {call : Call} (hcall : call ∈ (request.joinedEvents system past).calls)
    (hconcerns : call.Concerns request.target kind) : kind ∈ request.selection.kinds := by
  simp only [joinedEvents, History.calls_append, List.mem_append, History.calls_cons_recorded,
    History.calls_nil, List.not_mem_nil, or_false] at hcall
  rcases hcall with hcall | hcall
  · exact (request.not_concerns_importing system past kind call hcall hconcerns).elim
  · rcases (request.entering_entries system past).concerns call hcall with
      ⟨other, hother, hconcernsOther⟩ | rfl
    · rwa [hconcerns.unique hconcernsOther]
    · exact hconcerns.elim

/-- A launch fails while it imports the environment or while it enters the namespaces, or it goes on
with at most the start of the shell. -/
theorem Course.events_cases (h : request.Course system past result events) :
    (∃ failure, (request.importing system past).1 = .error failure ∧ result = .error failure ∧
      events = (request.importing system past).2) ∨
    (∃ failure, (request.entering system past).1 = .error failure ∧ result = .error failure ∧
      events = (request.importing system past).2 ++ (request.entering system past).2) ∨
    ((request.entering system past).1 = .ok () ∧
      ∃ tail, events = request.joinedEvents system past ++ tail ∧
        ∀ call ∈ tail.calls, ∃ image, call = .spawn image) := by
  cases h with
  | @importFailed failure himport => exact Or.inl ⟨failure, himport, rfl, rfl⟩
  | @entryFailed _ failure _ henter => exact Or.inr (Or.inl ⟨failure, henter, rfl, rfl⟩)
  | decodingFailed _ henter _ => exact Or.inr (Or.inr ⟨henter, [], by simp, by simp⟩)
  | nulFound _ henter _ _ => exact Or.inr (Or.inr ⟨henter, [], by simp, by simp⟩)
  | spawnFailed _ henter _ _ _ =>
    rw [decodedEvents, List.append_assoc]
    exact Or.inr (Or.inr ⟨henter, _, rfl, by simp⟩)
  | finished _ henter _ _ _ =>
    rw [decodedEvents, List.append_assoc]
    exact Or.inr (Or.inr ⟨henter, _, rfl, by simp⟩)

/-- A launch concerns selected kinds only. -/
theorem Course.mem_kinds_of_concerns (h : request.Course system past result events) {kind : Kind}
    {call : Call} (hcall : call ∈ events.calls) (hconcerns : call.Concerns request.target kind) :
    kind ∈ request.selection.kinds := by
  rcases h.events_cases with ⟨failure, _, _, rfl⟩ | ⟨failure, _, _, rfl⟩ | ⟨_, tail, rfl, htail⟩
  · exact (request.not_concerns_importing system past kind call hcall hconcerns).elim
  · refine request.mem_kinds_of_concerns_joinedEvents system past ?_ hconcerns
    rw [joinedEvents, History.calls_append]
    exact List.mem_append_left _ hcall
  · rw [History.calls_append, List.mem_append] at hcall
    rcases hcall with hcall | hcall
    · exact request.mem_kinds_of_concerns_joinedEvents system past hcall hconcerns
    · obtain ⟨image, rfl⟩ := htail call hcall
      exact hconcerns.elim

/-- What a launch whose environment was imported does after it handled some of the kinds: if these
were all of them it starts the shell at most, and otherwise the next one fails. -/
inductive Remainder (request : Request) (handled : Nat) :
    Except Failure WaitStatus → History → Prop where
  | complete {result : Except Failure WaitStatus} {rest : History}
      (hall : handled = request.selection.kinds.length)
      (hspawn : ∀ call ∈ rest.calls, ∃ image, call = .spawn image) :
      Remainder request handled result rest
  | failed {kind : Kind} {failure : Failure} {rest : History}
      (hkind : request.selection.kinds[handled]? = some kind)
      (hentry : Entry request.target kind (.error failure) rest) :
      Remainder request handled (.error failure) rest

/-- A launch that did not handle a kind fails at it. -/
theorem Remainder.of_next {handled : Nat} {rest : History} {kind : Kind}
    (h : Remainder request handled result rest)
    (hkind : request.selection.kinds[handled]? = some kind) :
    ∃ failure, Entry request.target kind (.error failure) rest ∧ result = .error failure := by
  cases h with
  | complete hall _ => simp [hall] at hkind
  | @failed other failure _ hother hentry =>
    cases hkind.symm.trans hother
    exact ⟨failure, hentry, rfl⟩

/-- A launch that handled all kinds starts the shell at most. -/
theorem Remainder.of_all {handled : Nat} {rest : History}
    (h : Remainder request handled result rest) (hall : handled = request.selection.kinds.length) :
    ∀ call ∈ rest.calls, ∃ image, call = .spawn image := by
  cases h with
  | complete _ hspawn => exact hspawn
  | failed hkind _ => simp [hall] at hkind

/-- A launch whose environment was imported handles the first kinds completely, one after the
other. If these are not all no process is started. -/
theorem Course.exists_handled (h : request.Course system past result events) {overlay : Overlay}
    (himport : (request.importing system past).1 = .ok overlay) :
    ∃ parts rest, events = (request.importing system past).2 ++ parts.flatten ++ rest ∧
      List.Forall₂ (Handled request.target) (request.selection.kinds.take parts.length) parts ∧
      Remainder request parts.length result rest ∧
      (parts.length < request.selection.kinds.length → ∀ image, .spawn image ∉ events.calls) := by
  obtain ⟨parts, rest, hentering, hparts, hend⟩ := (request.entering_entries system past).split
  rcases h.events_cases with ⟨failure, hfailed, _, _⟩ | ⟨failure, henter, rfl, rfl⟩ |
    ⟨henter, tail, rfl, htail⟩
  · simp [himport] at hfailed
  · have hspawn := request.spawn_not_mem_joinedEvents system past
    refine ⟨parts, rest, by rw [hentering, List.append_assoc], hparts, ?_, fun _ image hmem =>
      hspawn image ?_⟩
    · rcases hend with ⟨_, _, hok⟩ | ⟨kind, other, hkind, hentry, hother⟩
      · simp [henter] at hok
      · cases henter.symm.trans hother
        exact .failed hkind hentry
    · rw [joinedEvents, History.calls_append]
      exact List.mem_append_left _ hmem
  · rcases hend with ⟨hall, rfl, _⟩ | ⟨kind, failure, _, _, hfailure⟩
    · refine ⟨parts, .recorded .namespacesJoined :: tail, ?_, hparts, .complete hall htail,
        fun hlt => absurd hall (Nat.ne_of_lt hlt)⟩
      simp [joinedEvents, hentering]
    · simp [henter] at hfailure

/-- After the complete parts a launch concerns no kind but the one that fails. -/
theorem Remainder.not_concerns {handled : Nat} {rest : History} {kind : Kind}
    (h : Remainder request handled result rest)
    (hkind : request.selection.kinds[handled]? ≠ some kind) :
    ∀ call ∈ rest.calls, ¬ call.Concerns request.target kind := by
  intro call hcall hconcerns
  cases h with
  | complete _ hspawn =>
    obtain ⟨image, rfl⟩ := hspawn call hcall
    exact hconcerns
  | failed hfailed hentry =>
    rcases hentry.concerns call hcall with hconcernsFailed | rfl
    · exact hkind (hfailed.trans (by rw [hconcernsFailed.unique hconcerns]))
    · exact hconcerns

/-- A kind that was handled is not the next one. -/
theorem getElem?_kinds_ne_of_mem_take {handled : Nat} {kind : Kind}
    (h : kind ∈ request.selection.kinds.take handled) :
    request.selection.kinds[handled]? ≠ some kind := by
  intro hnext
  have hdrop : kind ∈ request.selection.kinds.drop handled :=
    List.mem_of_getElem? (i := 0) (by simpa using hnext)
  exact List.disjoint_take_drop request.selection.nodup_kinds (Nat.le_refl _) h hdrop

/-- A kind that comes after the next one was not handled and is not the next one. -/
theorem not_mem_take_succ_of_mem_drop {handled : Nat} {kind : Kind}
    (h : kind ∈ request.selection.kinds.drop (handled + 1)) :
    kind ∉ request.selection.kinds.take (handled + 1) := fun htake =>
  List.disjoint_take_drop request.selection.nodup_kinds (Nat.le_refl _) htake h

/-- In a launch each namespace whose kind was handled is entered once, unless the launcher was a
member when its turn came. -/
theorem countP_enters_handled_launch {parts : List History} {rest : History}
    (hparts : List.Forall₂ (Handled request.target) (request.selection.kinds.take parts.length)
      parts) (hrest : Remainder request parts.length result rest) :
    List.Forall₂
      (fun kind part => ∃ own theirs file, part = handling request.target kind own theirs file ∧
        (History.calls ((request.importing system past).2 ++ parts.flatten ++ rest)).countP
            (Call.enters kind) =
          if own = theirs then 0 else 1)
      (request.selection.kinds.take parts.length) parts := by
  have hnodup := request.selection.nodup_kinds.sublist (List.take_sublist parts.length _)
  have hcounts :=
    countP_enters_handled hparts hnodup (request.importing system past).2.calls rest.calls
    (fun kind _ => Call.countP_enters_eq_zero request.target
      (request.not_concerns_importing system past kind))
    (fun kind hkind => Call.countP_enters_eq_zero request.target
      (hrest.not_concerns (getElem?_kinds_ne_of_mem_take hkind)))
  simpa only [History.calls_append] using hcounts

/-- In a launch the kinds after the one that failed are not touched. -/
theorem not_concerns_of_mem_drop {parts : List History} {rest : History}
    (hparts : List.Forall₂ (Handled request.target) (request.selection.kinds.take parts.length)
      parts) (hrest : Remainder request parts.length result rest) {kind : Kind}
    (hkind : kind ∈ request.selection.kinds.drop (parts.length + 1)) :
    ∀ call ∈ History.calls ((request.importing system past).2 ++ parts.flatten ++ rest),
      ¬ call.Concerns request.target kind := by
  have huntouched := not_mem_take_succ_of_mem_drop hkind
  intro call hcall hconcerns
  rw [History.calls_append, History.calls_append, List.mem_append, List.mem_append] at hcall
  rcases hcall with (hcall | hcall) | hcall
  · exact request.not_concerns_importing system past kind call hcall hconcerns
  · obtain ⟨other, hother, hconcernsOther⟩ := concerns_of_mem_handled hparts call hcall
    rw [← hconcerns.unique hconcernsOther] at hother
    exact huntouched (List.take_subset_take_left _ (Nat.le_succ _) hother)
  · refine hrest.not_concerns (fun hnext => huntouched ?_) call hcall hconcerns
    rw [List.take_add_one, hnext]
    simp

end Request

/-- A launch whose environment was imported handles some of the first selected kinds completely. Of
their namespaces it enters each one once whose inode number differs from that of the launcher's own
namespace when its turn comes, through the handle of the target, and none of the others. If these
are not all kinds then the next one fails, its failure is that of the launch, the kinds after it
are not touched, and no command is run. No launch touches a kind that is not selected, the mount
namespace comes last, and all answers are those of the system at their moments. -/
theorem launch_enters_in_order (request : Request) (system : System) (past : History) :
    (∀ overlay, (request.importing system past).1 = .ok overlay →
      ∃ parts rest,
        (launch request system past).2 =
          (request.importing system past).2 ++ parts.flatten ++ rest ∧
        parts.length ≤ request.selection.kinds.length ∧
        List.Forall₂
          (fun kind part => ∃ own theirs file,
            part = handling request.target kind own theirs file ∧
              (launch request system past).2.calls.countP (Call.enters kind) =
                if own = theirs then 0 else 1)
          (request.selection.kinds.take parts.length) parts ∧
        (∀ kind, request.selection.kinds[parts.length]? = some kind →
          ∃ failure, Entry request.target kind (.error failure) rest ∧
            (launch request system past).1 = .error failure ∧
            ∀ image, .spawn image ∉ (launch request system past).2.calls) ∧
        (parts.length = request.selection.kinds.length →
          ∀ call ∈ rest.calls, ∃ image, call = .spawn image) ∧
        ∀ kind ∈ request.selection.kinds.drop (parts.length + 1),
          ∀ call ∈ (launch request system past).2.calls, ¬ call.Concerns request.target kind) ∧
    (∀ kind, request.selection.contains kind = false →
      ∀ call ∈ (launch request system past).2.calls, ¬ call.Concerns request.target kind) ∧
    (request.selection.contains .mnt = true → request.selection.kinds.getLast? = some .mnt) ∧
    History.Answered system past (launch request system past).2 := by
  have hcourse := launch_course request system past
  refine ⟨fun overlay himport => ?_, fun kind hoff call hcall hconcerns => ?_,
    Selection.getLast?_kinds, faithful_launch request system past⟩
  · obtain ⟨parts, rest, hevents, hparts, hrest, hspawn⟩ := hcourse.exists_handled himport
    refine ⟨parts, rest, hevents, ?_, ?_, fun kind hkind => ?_, fun hall => ?_,
      fun kind hkind => ?_⟩
    · have hlength := hparts.length_eq
      rw [List.length_take] at hlength
      omega
    · rw [hevents]
      exact Request.countP_enters_handled_launch hparts hrest
    · obtain ⟨failure, hentry, hfailure⟩ := hrest.of_next hkind
      exact ⟨failure, hentry, hfailure, hspawn (List.getElem?_eq_some_iff.mp hkind).1⟩
    · exact hrest.of_all hall
    · rw [hevents]
      exact Request.not_concerns_of_mem_drop hparts hrest hkind
  · have hkind := Selection.mem_kinds_iff.mp (hcourse.mem_kinds_of_concerns hcall hconcerns)
    simp [hoff] at hkind

end Relocation
