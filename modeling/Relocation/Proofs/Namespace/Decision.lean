import Relocation.Proofs.Launch.Answers
import Relocation.Proofs.Namespace.Entry

/-!
# The decision about one namespace

What becomes of a kind is decided by four answers: about the launcher's own handle and
about the target's, to opening the target's handle, and to entering the namespace
behind it. Each is asked for only if those before it leave the matter open. Whether the
launcher has the capability to enter namespaces is asked after a refusal for lack of
privilege, for the log alone.
-/

namespace Relocation

/-- Whether a call enters a namespace. -/
def Call.isEntry : Call → Bool
  | .enterNamespace _ _ => true
  | _ => false

/-- Whether a record reports about the capability to enter namespaces. -/
def Record.reportsCapability : Record → Bool
  | .lacksCapability _ => true
  | .refusedDespiteCapability _ => true
  | .capabilitiesUnknown _ => true
  | _ => false

namespace Namespace

/-- The answers by which a kind is decided: about the launcher's own handle and the target's, to
opening the target's handle and to entering the namespace behind a file, and about the capability
when that was refused. -/
structure Answers where
  own : Except IoError Nat
  theirs : Except IoError Nat
  opened : Except IoError Descriptor
  entry : Descriptor → Except CallError Unit
  holds : Descriptor → Except String Bool

/-- The answers of a system after a history, each when those before it were given. -/
def answersOf (system : System) (past : History) (target : Target) (kind : Kind) : Answers :=
  let path := kind.targetPath target
  let own := system.reply past (.inode kind.ownPath)
  let past := past ++ [.called (.inode kind.ownPath) own]
  let theirs := system.reply past (.inode path)
  let past := past ++ [.called (.inode path) theirs]
  let opening (file : Descriptor) : History := past ++ [.called (.openFile path) (.ok file)]
  { own := own
    theirs := theirs
    opened := system.reply past (.openFile path)
    entry := fun file => system.reply (opening file) (.enterNamespace file kind.flag)
    holds := fun file =>
      system.reply
        (opening file ++
          [.called (.enterNamespace file kind.flag) (.error (.kernel .notPermitted))])
        .holdsCapability }

/-- Whether the answers lead to the entry of the namespace behind a file: both handles have inode
numbers, these differ, and the target's handle is opened as the file. -/
def Answers.Opens (answers : Answers) (file : Descriptor) : Prop :=
  ∃ own theirs, answers.own = .ok own ∧ answers.theirs = .ok theirs ∧ own ≠ theirs ∧
    answers.opened = .ok file

variable {system : System} {past : History} {target : Target} {kind : Kind} {answers : Answers}
  {result : Except Failure Membership} {events : History}

/-- Everything that handling a kind can come to, with the answers that lead to it. -/
inductive Decided (answers : Answers) (target : Target) (kind : Kind) :
    Except Failure Membership → History → Prop where
  | already {number : Nat} (hown : answers.own = .ok number)
      (htheirs : answers.theirs = .ok number) (file : Descriptor) :
      Decided answers target kind (.ok .already) (handling target kind number number file)
  | entered {own theirs : Nat} {file : Descriptor} (hown : answers.own = .ok own)
      (htheirs : answers.theirs = .ok theirs) (hne : own ≠ theirs)
      (hopened : answers.opened = .ok file) (hentry : answers.entry file = .ok ()) :
      Decided answers target kind (.ok .entered) (handling target kind own theirs file)
  | ownUnknown {error : IoError} (hown : answers.own = .error error) :
      Decided answers target kind (.error (.namespaceLookup kind.ownPath error))
        [.called (.inode kind.ownPath) (.error error)]
  | targetUnknown {own : Nat} {error : IoError} (hown : answers.own = .ok own)
      (htheirs : answers.theirs = .error error) :
      Decided answers target kind (.error (.namespaceLookup (kind.targetPath target) error))
        [.called (.inode kind.ownPath) (.ok own),
          .called (.inode (kind.targetPath target)) (.error error)]
  | unopened {own theirs : Nat} {error : IoError} (hown : answers.own = .ok own)
      (htheirs : answers.theirs = .ok theirs) (hne : own ≠ theirs)
      (hopened : answers.opened = .error error) :
      Decided answers target kind (.error (.namespaceOpen (kind.targetPath target) error))
        [.called (.inode kind.ownPath) (.ok own),
          .called (.inode (kind.targetPath target)) (.ok theirs),
          .called (.openFile (kind.targetPath target)) (.error error)]
  | refused {own theirs : Nat} {file : Descriptor} {error : CallError}
      (hown : answers.own = .ok own) (htheirs : answers.theirs = .ok theirs) (hne : own ≠ theirs)
      (hopened : answers.opened = .ok file) (hentry : answers.entry file = .error error) :
      Decided answers target kind (.error (.namespaceEntry kind (kind.targetPath target) error))
        ([.called (.inode kind.ownPath) (.ok own),
          .called (.inode (kind.targetPath target)) (.ok theirs),
          .called (.openFile (kind.targetPath target)) (.ok file),
          .called (.enterNamespace file kind.flag) (.error error)] ++
        explanation kind error (answers.holds file))

section Answered

variable {own theirs : Except IoError Nat} {opened : Except IoError Descriptor}
  {file : Descriptor} {entry : Except CallError Unit} {holds : Except String Bool}
  {rest : History}

/-- Where both handles were asked for, what was said of them are the answers. -/
theorem own_theirs_of_answered
    (h : History.Answered system past
      (.called (.inode kind.ownPath) own :: .called (.inode (kind.targetPath target)) theirs ::
        rest)) :
    (answersOf system past target kind).own = own ∧
      (answersOf system past target kind).theirs = theirs := by
  obtain ⟨rfl, rfl, _⟩ := h
  exact ⟨rfl, rfl⟩

/-- Where the target's handle was opened after that, what came of it is the answer. -/
theorem opened_of_answered
    (h : History.Answered system past
      (.called (.inode kind.ownPath) own :: .called (.inode (kind.targetPath target)) theirs ::
        .called (.openFile (kind.targetPath target)) opened :: rest)) :
    (answersOf system past target kind).opened = opened := by
  obtain ⟨rfl, rfl, rfl, _⟩ := h
  rfl

/-- Where a namespace was entered after that, what came of it is the answer. -/
theorem entry_of_answered
    (h : History.Answered system past
      (.called (.inode kind.ownPath) own :: .called (.inode (kind.targetPath target)) theirs ::
        .called (.openFile (kind.targetPath target)) (.ok file) ::
          .called (.enterNamespace file kind.flag) entry :: rest)) :
    (answersOf system past target kind).entry file = entry := by
  obtain ⟨rfl, rfl, _, rfl, _⟩ := h
  rfl

/-- Where the capability was asked for after a refusal, what was said of it is the answer. -/
theorem holds_of_answered
    (h : History.Answered system past
      (.called (.inode kind.ownPath) own :: .called (.inode (kind.targetPath target)) theirs ::
        .called (.openFile (kind.targetPath target)) (.ok file) ::
          .called (.enterNamespace file kind.flag) (.error (.kernel .notPermitted)) ::
            .called .holdsCapability holds :: rest)) :
    (answersOf system past target kind).holds file = holds := by
  obtain ⟨rfl, rfl, _, _, rfl, _⟩ := h
  simp [answersOf]

end Answered

/-- What handling a kind comes to is decided by the answers of the system. -/
theorem Entry.decided (h : Entry target kind result events)
    (hanswered : History.Answered system past events) :
    Decided (answersOf system past target kind) target kind result events := by
  cases h with
  | handled own theirs file =>
    obtain ⟨hown, htheirs⟩ := own_theirs_of_answered hanswered
    by_cases heq : own = theirs
    · subst heq
      rw [if_pos rfl]
      exact .already hown htheirs file
    · rw [handling, if_neg heq] at hanswered
      rw [if_neg heq]
      exact .entered hown htheirs heq (opened_of_answered hanswered) (entry_of_answered hanswered)
  | ownUnknown error => exact .ownUnknown hanswered.1.symm
  | targetUnknown own error =>
    obtain ⟨hown, htheirs⟩ := own_theirs_of_answered hanswered
    exact .targetUnknown hown htheirs
  | unopened own theirs error hne =>
    obtain ⟨hown, htheirs⟩ := own_theirs_of_answered hanswered
    exact .unopened hown htheirs hne (opened_of_answered hanswered)
  | refused own theirs file error holds hne =>
    obtain ⟨hown, htheirs⟩ := own_theirs_of_answered hanswered
    have hholds : explanation kind error holds =
        explanation kind error ((answersOf system past target kind).holds file) := by
      by_cases hprivilege : error = .kernel .notPermitted
      · subst hprivilege
        rw [holds_of_answered hanswered]
      · rw [explanation, explanation, if_neg hprivilege, if_neg hprivilege]
    rw [hholds]
    exact .refused hown htheirs hne (opened_of_answered hanswered) (entry_of_answered hanswered)

/-- Handling a kind comes to what the answers of the system decide. -/
theorem enter_decided (target : Target) (kind : Kind) (system : System) (past : History) :
    Decided (answersOf system past target kind) target kind (enter target kind system past).1
      (enter target kind system past).2 :=
  (enter_entry target kind system past).decided (faithful_enter target kind system past)

namespace Answers

variable {own theirs : Nat} {file other : Descriptor}

/-- Where the inode numbers differ the target's handle is opened as one file. -/
theorem opens_iff (hown : answers.own = .ok own) (htheirs : answers.theirs = .ok theirs)
    (hne : own ≠ theirs) (hopened : answers.opened = .ok other) :
    answers.Opens file ↔ file = other := by
  constructor
  · rintro ⟨_, _, _, _, _, hfile⟩
    exact Except.ok.inj (hfile.symm.trans hopened)
  · rintro rfl
    exact ⟨own, theirs, hown, htheirs, hne, hopened⟩

/-- Where an inode number is unknown, or both are the same, no file is opened. -/
theorem not_opens_of_handles
    (h : ∀ own theirs, answers.own = .ok own → answers.theirs = .ok theirs → own = theirs) :
    ¬ answers.Opens file := by
  rintro ⟨own, theirs, hown, htheirs, hne, _⟩
  exact hne (h own theirs hown htheirs)

/-- Where the target's handle cannot be opened no file is. -/
theorem not_opens_of_error {error : IoError} (h : answers.opened = .error error) :
    ¬ answers.Opens file := by
  rintro ⟨_, _, _, _, _, hopened⟩
  cases h.symm.trans hopened

end Answers

/-- The report about the capability that fits what came of asking for it. -/
inductive Reports (kind : Kind) : Except String Bool → Record → Prop where
  | held : Reports kind (.ok true) (.refusedDespiteCapability kind)
  | lacking : Reports kind (.ok false) (.lacksCapability kind)
  | unknown (reason : String) : Reports kind (.error reason) (.capabilitiesUnknown reason)

/-- The explanation of a refusal is the report that fits. -/
theorem reports_iff {holds : Except String Bool} {record : Record} :
    Reports kind holds record ↔ record = explanationRecord kind holds := by
  constructor
  · rintro (_ | _ | reason) <;> rfl
  · rintro rfl
    rcases holds with reason | held
    · exact .unknown reason
    · cases held
      · exact .lacking
      · exact .held

/-- The explanation of a refusal is a report about the capability. -/
theorem reportsCapability_explanationRecord (kind : Kind) (holds : Except String Bool) :
    (explanationRecord kind holds).reportsCapability = true := by
  rcases holds with reason | held
  · rfl
  · cases held <;> rfl

/-- What the answers settle about a kind: the calls that enter a namespace, the result of handling
the kind, and the reports about the capability. -/
structure Answers.Settle (answers : Answers) (target : Target) (kind : Kind)
    (result : Except Failure Membership) (events : History) : Prop where
  /-- A namespace is entered if the answers lead to it, through the file that was opened and with
  the flag of the kind. -/
  entry_iff : ∀ file flag reply, .called (.enterNamespace file flag) reply ∈ events ↔
    answers.Opens file ∧ flag = kind.flag ∧ reply = answers.entry file
  entry_once : events.calls.countP Call.isEntry ≤ 1
  already_iff : result = .ok .already ↔
    ∃ number, answers.own = .ok number ∧ answers.theirs = .ok number
  entered_iff : result = .ok .entered ↔ ∃ file, answers.Opens file ∧ answers.entry file = .ok ()
  /-- The failure is that of the first step that fails: the launcher's own handle, the target's, its
  opening, or the entry of the namespace. -/
  failure_iff : ∀ failure, result = .error failure ↔
    (∃ error, answers.own = .error error ∧ failure = .namespaceLookup kind.ownPath error) ∨
    (∃ own error, answers.own = .ok own ∧ answers.theirs = .error error ∧
      failure = .namespaceLookup (kind.targetPath target) error) ∨
    (∃ own theirs error, answers.own = .ok own ∧ answers.theirs = .ok theirs ∧ own ≠ theirs ∧
      answers.opened = .error error ∧
      failure = .namespaceOpen (kind.targetPath target) error) ∨
    (∃ file error, answers.Opens file ∧ answers.entry file = .error error ∧
      failure = .namespaceEntry kind (kind.targetPath target) error)
  /-- The capability is reported exactly if the entry was refused for lack of privilege. -/
  report_iff : ∀ record, record ∈ events.records.filter Record.reportsCapability ↔
    ∃ file, answers.Opens file ∧ answers.entry file = .error (.kernel .notPermitted) ∧
      Reports kind (answers.holds file) record
  report_once : events.records.countP Record.reportsCapability ≤ 1

section Settle

variable {own theirs number : Nat} {file : Descriptor}

/-- What is settled where both handles have one inode number. -/
theorem settle_of_member (hown : answers.own = .ok number) (htheirs : answers.theirs = .ok number)
    (file : Descriptor) :
    answers.Settle target kind (.ok .already) (handling target kind number number file) where
  entry_iff other _ _ := by
    have hnone := @Answers.not_opens_of_handles answers other (by simp [hown, htheirs])
    simp [handling, hnone]
  entry_once := by simp [handling, Call.isEntry]
  already_iff := iff_of_true rfl ⟨number, hown, htheirs⟩
  entered_iff := by simp [Answers.Opens, hown, htheirs]
  failure_iff _ := by simp [Answers.Opens, hown, htheirs]
  report_iff _ := by simp [Answers.Opens, hown, htheirs, handling, Record.reportsCapability]
  report_once := by simp [handling, Record.reportsCapability]

/-- What is settled where the namespace is entered. -/
theorem settle_of_entered (hown : answers.own = .ok own) (htheirs : answers.theirs = .ok theirs)
    (hne : own ≠ theirs) (hopened : answers.opened = .ok file)
    (hentry : answers.entry file = .ok ()) :
    answers.Settle target kind (.ok .entered) (handling target kind own theirs file) where
  entry_iff other flag reply := by
    rw [Answers.opens_iff hown htheirs hne hopened]
    constructor
    · intro hmem
      obtain ⟨⟨rfl, rfl⟩, rfl⟩ : (_ ∧ _) ∧ _ := by simpa [handling, hne] using hmem
      exact ⟨rfl, rfl, hentry.symm⟩
    · rintro ⟨rfl, rfl, rfl⟩
      simp [handling, hne, hentry]
  entry_once := by simp [handling, hne, Call.isEntry]
  already_iff := by simp [hown, htheirs, hne.symm]
  entered_iff :=
    iff_of_true rfl ⟨file, (Answers.opens_iff hown htheirs hne hopened).mpr rfl, hentry⟩
  failure_iff _ := by
    simp [Answers.opens_iff hown htheirs hne hopened, hown, htheirs, hopened, hentry]
  report_iff _ := by
    simp [Answers.opens_iff hown htheirs hne hopened, hentry, handling, hne,
      Record.reportsCapability]
  report_once := by simp [handling, hne, Record.reportsCapability]

/-- What is settled where the launcher's own handle is not found. -/
theorem settle_of_ownUnknown {error : IoError} (hown : answers.own = .error error) :
    answers.Settle target kind (.error (.namespaceLookup kind.ownPath error))
      [.called (.inode kind.ownPath) (.error error)] where
  entry_iff other _ _ := by
    have hnone := @Answers.not_opens_of_handles answers other (by simp [hown])
    simp [hnone]
  entry_once := by simp [Call.isEntry]
  already_iff := by simp [hown]
  entered_iff := by simp [Answers.Opens, hown]
  failure_iff _ := by simp [Answers.Opens, hown, eq_comm]
  report_iff _ := by simp [Answers.Opens, hown]
  report_once := by simp

/-- What is settled where the target's handle is not found. -/
theorem settle_of_targetUnknown {error : IoError} (hown : answers.own = .ok own)
    (htheirs : answers.theirs = .error error) :
    answers.Settle target kind (.error (.namespaceLookup (kind.targetPath target) error))
      [.called (.inode kind.ownPath) (.ok own),
        .called (.inode (kind.targetPath target)) (.error error)] where
  entry_iff other _ _ := by
    have hnone := @Answers.not_opens_of_handles answers other (by simp [htheirs])
    simp [hnone]
  entry_once := by simp [Call.isEntry]
  already_iff := by simp [htheirs]
  entered_iff := by simp [Answers.Opens, htheirs]
  failure_iff _ := by simp [Answers.Opens, hown, htheirs, eq_comm]
  report_iff _ := by simp [Answers.Opens, htheirs]
  report_once := by simp

/-- What is settled where the target's handle cannot be opened. -/
theorem settle_of_unopened {error : IoError} (hown : answers.own = .ok own)
    (htheirs : answers.theirs = .ok theirs) (hne : own ≠ theirs)
    (hopened : answers.opened = .error error) :
    answers.Settle target kind (.error (.namespaceOpen (kind.targetPath target) error))
      [.called (.inode kind.ownPath) (.ok own),
        .called (.inode (kind.targetPath target)) (.ok theirs),
        .called (.openFile (kind.targetPath target)) (.error error)] where
  entry_iff _ _ _ := by simp [Answers.not_opens_of_error hopened]
  entry_once := by simp [Call.isEntry]
  already_iff := by simp [hown, htheirs, hne.symm]
  entered_iff := by simp [Answers.Opens, hopened]
  failure_iff _ := by simp [Answers.Opens, hown, htheirs, hopened, hne, eq_comm]
  report_iff _ := by simp [Answers.Opens, hopened]
  report_once := by simp

/-- What is settled where the entry of the namespace is refused. -/
theorem settle_of_refused {error : CallError} (hown : answers.own = .ok own)
    (htheirs : answers.theirs = .ok theirs) (hne : own ≠ theirs)
    (hopened : answers.opened = .ok file) (hentry : answers.entry file = .error error) :
    answers.Settle target kind (.error (.namespaceEntry kind (kind.targetPath target) error))
      ([.called (.inode kind.ownPath) (.ok own),
        .called (.inode (kind.targetPath target)) (.ok theirs),
        .called (.openFile (kind.targetPath target)) (.ok file),
        .called (.enterNamespace file kind.flag) (.error error)] ++
      explanation kind error (answers.holds file)) where
  entry_iff other flag reply := by
    rw [Answers.opens_iff hown htheirs hne hopened]
    constructor
    · intro hmem
      rw [explanation] at hmem
      obtain ⟨⟨rfl, rfl⟩, rfl⟩ : (_ ∧ _) ∧ _ := by
        split at hmem <;> simpa using hmem
      exact ⟨rfl, rfl, hentry.symm⟩
    · rintro ⟨rfl, rfl, rfl⟩
      simp [hentry]
  entry_once := by
    rw [explanation]
    split <;> simp [List.countP_cons, Call.isEntry]
  already_iff := by simp [hown, htheirs, hne.symm]
  entered_iff := by simp [Answers.opens_iff hown htheirs hne hopened, hentry]
  failure_iff _ := by
    simp [Answers.opens_iff hown htheirs hne hopened, hown, htheirs, hopened, hentry, eq_comm]
  report_iff record := by
    rw [explanation]
    split
    · next hprivilege =>
      simp [Answers.opens_iff hown htheirs hne hopened, hentry, hprivilege, reports_iff,
        reportsCapability_explanationRecord]
    · next hprivilege =>
      simp [Answers.opens_iff hown htheirs hne hopened, hentry, hprivilege]
  report_once := by
    rw [explanation]
    split <;> simp [reportsCapability_explanationRecord]

end Settle

/-- However a kind is decided, the answers settle it. -/
theorem Decided.settle (h : Decided answers target kind result events) :
    answers.Settle target kind result events := by
  cases h with
  | already hown htheirs file => exact settle_of_member hown htheirs file
  | entered hown htheirs hne hopened hentry =>
    exact settle_of_entered hown htheirs hne hopened hentry
  | ownUnknown hown => exact settle_of_ownUnknown hown
  | targetUnknown hown htheirs => exact settle_of_targetUnknown hown htheirs
  | unopened hown htheirs hne hopened => exact settle_of_unopened hown htheirs hne hopened
  | refused hown htheirs hne hopened hentry =>
    exact settle_of_refused hown htheirs hne hopened hentry

/-- The answers of the system settle what handling a kind comes to. -/
theorem settle_enter (target : Target) (kind : Kind) (system : System) (past : History) :
    (answersOf system past target kind).Settle target kind (enter target kind system past).1
      (enter target kind system past).2 :=
  (enter_decided target kind system past).settle

/-- The result is the same whatever is said of the capability. -/
theorem Answers.Settle.result_eq {holds : Descriptor → Except String Bool}
    {other : Except Failure Membership} {more : History}
    (h : answers.Settle target kind result events)
    (hother : Answers.Settle { answers with holds } target kind other more) : other = result := by
  cases result with
  | error failure => exact (hother.failure_iff failure).mpr ((h.failure_iff failure).mp rfl)
  | ok membership =>
    cases membership with
    | already => exact hother.already_iff.mpr (h.already_iff.mp rfl)
    | entered => exact hother.entered_iff.mpr (h.entered_iff.mp rfl)

end Namespace

/-- A system that answers as another one does, but for the capability to enter namespaces. -/
def System.withCapability (system : System) (holds : History → Except String Bool) : System where
  reply history call :=
    match call with
    | .holdsCapability => holds history
    | call => system.reply history call
  reserves := system.reserves
  environment := system.environment

namespace Namespace

/-- What becomes of a kind is settled by the answers of the system about both handles, to opening
the target's handle and to entering the namespace behind it. The namespace is entered at most once,
exactly if both inode numbers are known and differ and the target's handle was opened, through the
file that this gave and with the flag of the kind. The launcher is a member already exactly if the
inode numbers are equal, and has entered the namespace exactly if that call was made and allowed;
otherwise the failure names the first step that failed. The capability is reported exactly if the
entry was refused for lack of privilege, also if it cannot be found out, and nothing that comes of
asking for it changes the result. -/
theorem enter_settled_by_answers (target : Target) (kind : Kind) (system : System)
    (past : History) :
    (answersOf system past target kind).Settle target kind (enter target kind system past).1
        (enter target kind system past).2 ∧
      ∀ holds : History → Except String Bool,
        (enter target kind (system.withCapability holds) past).1 =
          (enter target kind system past).1 := by
  have hsettled := settle_enter target kind system past
  refine ⟨hsettled, fun holds => ?_⟩
  exact hsettled.result_eq (settle_enter target kind (system.withCapability holds) past)

end Namespace

end Relocation
