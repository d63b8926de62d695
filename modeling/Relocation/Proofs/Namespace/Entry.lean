import Mathlib.Data.List.Forall2
import Relocation.Launch
import Relocation.Proofs.Namespace.Paths
import Relocation.Proofs.Session

/-!
# Entering namespaces, call by call

Handling a kind of namespace takes up to four calls, each of which can fail. The
relation `Entry` lists everything that it can come to, independently of the program,
and `Entries` does so for several kinds one after the other. From the lists it is read
off that the kinds before the first failure are handled completely, that the kinds
after it are not touched, and that no call is about a kind that is not in the list.
-/

namespace Relocation.Namespace

open Session

/-- What happens when a kind is handled without a failure. Both inode numbers are asked for. If they
are equal nothing more is done; otherwise the target's handle is opened and its namespace entered
with the flag of the kind. -/
def handling (target : Target) (kind : Kind) (own theirs : Nat) (file : Descriptor) : History :=
  [.called (.inode kind.ownPath) (.ok own),
    .called (.inode (kind.targetPath target)) (.ok theirs)] ++
  if own = theirs then [.recorded (.alreadyMember kind theirs (kind.targetPath target))]
  else
    [.called (.openFile (kind.targetPath target)) (.ok file),
      .called (.enterNamespace file kind.flag) (.ok ()),
      .recorded (.entered kind theirs (kind.targetPath target))]

/-- What happens after the kernel refused a namespace: a refusal for lack of privilege is explained
in the log. -/
def explanation (kind : Kind) (error : CallError) (holds : Except String Bool) : History :=
  if error = .kernel .notPermitted then
    [.called .holdsCapability holds, .recorded (explanationRecord kind holds)]
  else []

/-- Everything that handling a kind can come to, with its calls, their answers and its records. -/
inductive Entry (target : Target) (kind : Kind) : Except Failure Membership → History → Prop where
  | handled (own theirs : Nat) (file : Descriptor) :
      Entry target kind (.ok (if own = theirs then .already else .entered))
        (handling target kind own theirs file)
  | ownUnknown (error : IoError) :
      Entry target kind (.error (.namespaceLookup kind.ownPath error))
        [.called (.inode kind.ownPath) (.error error)]
  | targetUnknown (own : Nat) (error : IoError) :
      Entry target kind (.error (.namespaceLookup (kind.targetPath target) error))
        [.called (.inode kind.ownPath) (.ok own),
          .called (.inode (kind.targetPath target)) (.error error)]
  | unopened (own theirs : Nat) (error : IoError) (hne : own ≠ theirs) :
      Entry target kind (.error (.namespaceOpen (kind.targetPath target) error))
        [.called (.inode kind.ownPath) (.ok own),
          .called (.inode (kind.targetPath target)) (.ok theirs),
          .called (.openFile (kind.targetPath target)) (.error error)]
  | refused (own theirs : Nat) (file : Descriptor) (error : CallError)
      (holds : Except String Bool) (hne : own ≠ theirs) :
      Entry target kind (.error (.namespaceEntry kind (kind.targetPath target) error))
        ([.called (.inode kind.ownPath) (.ok own),
          .called (.inode (kind.targetPath target)) (.ok theirs),
          .called (.openFile (kind.targetPath target)) (.ok file),
          .called (.enterNamespace file kind.flag) (.error error)] ++
        explanation kind error holds)

variable {system : System} {past : History}

/-- The inode number of a file that can be looked up. -/
theorem inode_of_ok {path : Bytes} {number : Nat}
    (h : system.reply past (.inode path) = .ok number) :
    inode path system past = (.ok number, [.called (.inode path) (.ok number)]) := by
  rw [inode, call_bind_apply, h]
  rfl

/-- A file that cannot be looked up is named in the failure. -/
theorem inode_of_error {path : Bytes} {error : IoError}
    (h : system.reply past (.inode path) = .error error) :
    inode path system past =
      (.error (.namespaceLookup path error), [.called (.inode path) (.error error)]) := by
  rw [inode, call_bind_apply, h]
  rfl

/-- The explanation of a refusal always succeeds. -/
theorem explainRefusal_apply (kind : Kind) (system : System) (past : History) :
    explainRefusal kind system past =
      (.ok (), explanation kind (.kernel .notPermitted) (system.reply past .holdsCapability)) := by
  rw [explainRefusal, call_bind_apply]
  rfl

/-- The explanation of a refusal does not say that a stage was reached. -/
@[simp] theorem stage?_explanationRecord (kind : Kind) (holds : Except String Bool) :
    (explanationRecord kind holds).stage? = none := by
  rcases holds with reason | _ | _ <;> rfl

/-- A refusal ends with its failure, whether or not it is explained. -/
theorem refusal_apply (kind : Kind) (error : CallError) (failure : Failure) (system : System)
    (past : History) :
    (if error = .kernel .notPermitted then do
        explainRefusal kind
        fail failure
      else fail failure : Session Membership) system past =
      (.error failure, explanation kind error (system.reply past .holdsCapability)) := by
  by_cases h : error = .kernel .notPermitted
  · rw [if_pos h, bind_of_ok (explainRefusal_apply kind system past), h]
    simp
  · rw [if_neg h, explanation, if_neg h, fail_apply]

/-- Handling a kind comes to one of the listed outcomes. -/
theorem enter_entry (target : Target) (kind : Kind) (system : System) (past : History) :
    Entry target kind (enter target kind system past).1 (enter target kind system past).2 := by
  rw [enter]
  cases hown : system.reply past (.inode kind.ownPath) with
  | error error =>
    rw [bind_of_error (inode_of_error hown)]
    exact .ownUnknown error
  | ok own =>
    rw [bind_of_ok (inode_of_ok hown)]
    generalize past ++ [.called (.inode kind.ownPath) (.ok own)] = before
    cases htheirs : system.reply before (.inode (kind.targetPath target)) with
    | error error =>
      rw [bind_of_error (inode_of_error htheirs)]
      exact .targetUnknown own error
    | ok theirs =>
      rw [bind_of_ok (inode_of_ok htheirs)]
      generalize before ++ [.called (.inode (kind.targetPath target)) (.ok theirs)] = before
      by_cases heq : own = theirs
      · rw [if_pos heq, bind_of_ok (record_apply _)]
        have hentry : Entry target kind _ _ := .handled own theirs ⟨0⟩
        rwa [handling, if_pos heq, if_pos heq] at hentry
      · rw [if_neg heq]
        cases hopen : system.reply before (.openFile (kind.targetPath target)) with
        | error error =>
          rw [bind_of_ok (call_of_reply hopen)]
          exact .unopened own theirs error heq
        | ok file =>
          rw [bind_of_ok (call_of_reply hopen)]
          dsimp only
          generalize before ++ [.called (.openFile (kind.targetPath target)) (.ok file)] = before
          cases hset : system.reply before (.enterNamespace file kind.flag) with
          | error error =>
            rw [bind_of_ok (call_of_reply hset)]
            dsimp only
            rw [refusal_apply]
            exact .refused own theirs file error _ heq
          | ok =>
            rw [bind_of_ok (call_of_reply hset)]
            have hentry : Entry target kind _ _ := .handled own theirs file
            rwa [handling, if_neg heq, if_neg heq] at hentry

/-- Everything that handling several kinds can come to: the first failure ends it. -/
inductive Entries (target : Target) : List Kind → Except Failure Unit → History → Prop where
  | done : Entries target [] (.ok ()) []
  | next {kind : Kind} {rest : List Kind} {membership : Membership} {events more : History}
      {result : Except Failure Unit} (hentry : Entry target kind (.ok membership) events)
      (hrest : Entries target rest result more) :
      Entries target (kind :: rest) result (events ++ more)
  | stopped {kind : Kind} {rest : List Kind} {events : History} {failure : Failure}
      (hentry : Entry target kind (.error failure) events) :
      Entries target (kind :: rest) (.error failure) events

/-- Entering the namespaces of a target comes to one of the listed outcomes. -/
theorem enterAll_entries (target : Target) (kinds : List Kind) (system : System)
    (past : History) :
    Entries target kinds (enterAll target kinds system past).1
      (enterAll target kinds system past).2 := by
  induction kinds generalizing past with
  | nil => exact .done
  | cons kind rest ih =>
    have hentry := enter_entry target kind system past
    rw [enterAll]
    rcases bind_cases (enter target kind) (fun _ => enterAll target rest) system past with
      ⟨failure, events, heq, hbind⟩ | ⟨membership, events, heq, hbind⟩
    · rw [hbind]
      rw [heq] at hentry
      exact .stopped hentry
    · rw [hbind]
      rw [heq] at hentry
      exact .next hentry (ih (past ++ events))

/-- Whether a part of a history is the complete handling of a kind. -/
def Handled (target : Target) (kind : Kind) (part : History) : Prop :=
  ∃ own theirs file, part = handling target kind own theirs file

/-- A kind is handled without a failure exactly in the one way. -/
theorem Entry.handled_of_ok {target : Target} {kind : Kind} {membership : Membership}
    {events : History} (h : Entry target kind (.ok membership) events) :
    Handled target kind events := by
  cases h with
  | handled own theirs file => exact ⟨own, theirs, file, rfl⟩

/-- The history of several kinds falls into the complete handlings of the first ones, and after them
either nothing, when all were handled, or what the first kind that failed left. -/
theorem Entries.split {target : Target} {kinds : List Kind} {result : Except Failure Unit}
    {events : History} (h : Entries target kinds result events) :
    ∃ parts rest, events = parts.flatten ++ rest ∧
      List.Forall₂ (Handled target) (kinds.take parts.length) parts ∧
      ((parts.length = kinds.length ∧ rest = [] ∧ result = .ok ()) ∨
        ∃ kind failure, kinds[parts.length]? = some kind ∧
          Entry target kind (.error failure) rest ∧ result = .error failure) := by
  induction h with
  | done => exact ⟨[], [], rfl, .nil, Or.inl ⟨rfl, rfl, rfl⟩⟩
  | @next kind kinds membership events more result hentry hrest ih =>
    obtain ⟨parts, rest, rfl, hparts, hend⟩ := ih
    refine ⟨events :: parts, rest, by simp, ?_, ?_⟩
    · exact .cons hentry.handled_of_ok hparts
    · simpa using hend
  | @stopped kind kinds events failure hentry =>
    exact ⟨[], events, rfl, .nil, Or.inr ⟨kind, failure, rfl, hentry, rfl⟩⟩

/-- The calls with which a kind is handled if none fails before the last: the two inode numbers, and
for a namespace to be entered its handle and the entry, with one more call if a refusal is to be
explained. -/
inductive EntryCalls (target : Target) (kind : Kind) : List Call → Prop where
  | member : EntryCalls target kind [.inode kind.ownPath, .inode (kind.targetPath target)]
  | entered (file : Descriptor) :
      EntryCalls target kind
        [.inode kind.ownPath, .inode (kind.targetPath target),
          .openFile (kind.targetPath target), .enterNamespace file kind.flag]
  | explained (file : Descriptor) :
      EntryCalls target kind
        [.inode kind.ownPath, .inode (kind.targetPath target),
          .openFile (kind.targetPath target), .enterNamespace file kind.flag, .holdsCapability]

/-- The calls of handling a kind are those that are planned, up to the first failure. -/
theorem Entry.calls {target : Target} {kind : Kind} {result : Except Failure Membership}
    {events : History} (h : Entry target kind result events) :
    ∃ calls, EntryCalls target kind calls ∧ events.calls <+: calls ∧
      ∀ membership, result = .ok membership → events.calls = calls := by
  cases h with
  | handled own theirs file =>
    by_cases heq : own = theirs
    · exact ⟨_, .member, by simp [handling, heq], by simp [handling, heq]⟩
    · exact ⟨_, .entered file, by simp [handling, heq], by simp [handling, heq]⟩
  | ownUnknown error => exact ⟨_, .member, by simp, by simp⟩
  | targetUnknown own error => exact ⟨_, .member, by simp, by simp⟩
  | unopened own theirs error hne => exact ⟨_, .entered ⟨0⟩, by simp, by simp⟩
  | refused own theirs file error holds hne =>
    by_cases hprivilege : error = .kernel .notPermitted
    · exact ⟨_, .explained file, by simp [explanation, hprivilege], by simp⟩
    · exact ⟨_, .entered file, by simp [explanation, hprivilege], by simp⟩

/-- The calls of handling several kinds are those that are planned for one kind after the other, up
to the first failure. -/
theorem Entries.calls {target : Target} {kinds : List Kind} {result : Except Failure Unit}
    {events : History} (h : Entries target kinds result events) :
    ∃ parts, List.Forall₂ (EntryCalls target) kinds parts ∧ events.calls <+: parts.flatten ∧
      (result = .ok () → events.calls = parts.flatten) := by
  induction h with
  | done => exact ⟨[], .nil, by simp, by simp⟩
  | @next kind kinds membership events more result hentry hrest ih =>
    obtain ⟨part, hpart, _, hall⟩ := hentry.calls
    obtain ⟨parts, hparts, hle, hok⟩ := ih
    refine ⟨part :: parts, .cons hpart hparts, ?_, fun h => ?_⟩
    · simpa [hall _ rfl] using hle
    · simp [hall _ rfl, hok h]
  | @stopped kind kinds events failure hentry =>
    obtain ⟨part, hpart, hle, _⟩ := hentry.calls
    have hrest : List.Forall₂ (EntryCalls target) kinds
        (kinds.map fun kind => [.inode kind.ownPath, .inode (kind.targetPath target)]) :=
      List.forall₂_map_right_iff.mpr (List.forall₂_same.mpr fun kind _ => .member)
    exact ⟨part :: _, .cons hpart hrest, hle.trans (List.prefix_append ..), by simp⟩

/-- The calls of handling a kind concern that kind, but for the one that explains a refusal. -/
theorem Entry.concerns {target : Target} {kind : Kind} {result : Except Failure Membership}
    {events : History} (h : Entry target kind result events) :
    ∀ call ∈ events.calls, call.Concerns target kind ∨ call = .holdsCapability := by
  cases h with
  | handled own theirs file =>
    rw [handling]
    split <;> simp [Call.Concerns]
  | ownUnknown error => simp [Call.Concerns]
  | targetUnknown own error => simp [Call.Concerns]
  | unopened own theirs error hne => simp [Call.Concerns]
  | refused own theirs file error holds hne =>
    rw [explanation]
    split <;> simp [Call.Concerns]

/-- The calls of handling several kinds concern these kinds, but for those that explain a
refusal. -/
theorem Entries.concerns {target : Target} {kinds : List Kind} {result : Except Failure Unit}
    {events : History} (h : Entries target kinds result events) :
    ∀ call ∈ events.calls,
      (∃ kind ∈ kinds, call.Concerns target kind) ∨ call = .holdsCapability := by
  induction h with
  | done => simp
  | @next kind kinds membership events more result hentry hrest ih =>
    intro call hcall
    rw [History.calls_append, List.mem_append] at hcall
    rcases hcall with hcall | hcall
    · exact (hentry.concerns call hcall).imp_left fun h => ⟨kind, by simp, h⟩
    · refine (ih call hcall).imp_left ?_
      rintro ⟨other, hother, hconcerns⟩
      exact ⟨other, List.mem_cons_of_mem kind hother, hconcerns⟩
  | @stopped kind kinds events failure hentry =>
    exact fun call hcall => (hentry.concerns call hcall).imp_left fun h => ⟨kind, by simp, h⟩

/-- A failure of handling a kind is one of three. -/
theorem Entry.failure_cases {target : Target} {kind : Kind} {failure : Failure} {events : History}
    (h : Entry target kind (.error failure) events) :
    (∃ path error, failure = .namespaceLookup path error) ∨
    (∃ path error, failure = .namespaceOpen path error) ∨
    (∃ path error, failure = .namespaceEntry kind path error) := by
  cases h with
  | ownUnknown error => exact Or.inl ⟨_, _, rfl⟩
  | targetUnknown own error => exact Or.inl ⟨_, _, rfl⟩
  | unopened own theirs error hne => exact Or.inr (Or.inl ⟨_, _, rfl⟩)
  | refused own theirs file error holds hne => exact Or.inr (Or.inr ⟨_, _, rfl⟩)

/-- A failure of handling several kinds is that of handling one of them. -/
theorem Entries.exists_entry_of_error {target : Target} {kinds : List Kind} {failure : Failure}
    {events : History} (h : Entries target kinds (.error failure) events) :
    ∃ kind part, Entry target kind (.error failure) part := by
  obtain ⟨parts, rest, _, _, hend⟩ := h.split
  rcases hend with ⟨_, _, hok⟩ | ⟨kind, other, _, hentry, hfailure⟩
  · cases hok
  · cases hfailure
    exact ⟨kind, rest, hentry⟩

/-- A failure of handling several kinds is one of three. -/
theorem Entries.failure_cases {target : Target} {kinds : List Kind} {failure : Failure}
    {events : History} (h : Entries target kinds (.error failure) events) :
    (∃ path error, failure = .namespaceLookup path error) ∨
    (∃ path error, failure = .namespaceOpen path error) ∨
    (∃ kind path error, failure = .namespaceEntry kind path error) := by
  obtain ⟨kind, part, hentry⟩ := h.exists_entry_of_error
  exact hentry.failure_cases.imp_right (Or.imp_right fun hentered => ⟨kind, hentered⟩)

end Relocation.Namespace
