import Relocation.Proofs.Log.Marks
import Relocation.Proofs.Namespace.Entry

/-!
# The marks of entering namespaces

When a kind is handled the log is marked once, and the mark tells how the launcher came
to be in the namespace: by a call that entered it, or by no call because the inode
numbers were equal. A kind that fails leaves no mark. A mark and the calls it stands for
are about one kind, so the handling of other kinds changes nothing of what they tell.
-/

namespace Relocation

open Namespace (Kind)

namespace History

/-- Whether the namespace of a kind is entered in a history. -/
def Enters (kind : Kind) (history : History) : Prop :=
  ∃ file, .called (.enterNamespace file kind.flag) (.ok ()) ∈ history

/-- Whether no call is made to enter the namespace of a kind because the launcher's own has the
inode number of the target's. -/
def Stays (target : Target) (kind : Kind) (history : History) : Prop :=
  (∃ number, .called (.inode kind.ownPath) (.ok number) ∈ history ∧
      .called (.inode (kind.targetPath target)) (.ok number) ∈ history) ∧
    ∀ file reply, .called (.enterNamespace file kind.flag) reply ∉ history

/-- Whether the marks of a history tell how the launcher came to be in the target's namespace of a
kind. -/
structure Tells (target : Target) (kind : Kind) (history : History) : Prop where
  entered : .handled kind .entered ∈ history.marks ↔ history.Enters kind
  already : .handled kind .already ∈ history.marks ↔ history.Stays target kind

/-- Whether nothing in a history is about a kind, no call and no mark. -/
structure Ignores (target : Target) (kind : Kind) (history : History) : Prop where
  calls : ∀ call ∈ history.calls, ¬ call.Concerns target kind
  marks : ∀ membership, .handled kind membership ∉ history.marks

/-- Whether two histories have everything in common that is about a kind. -/
structure Agrees (target : Target) (kind : Kind) (history other : History) : Prop where
  called : ∀ (call : Call) (reply : call.Reply), call.Concerns target kind →
    (.called call reply ∈ history ↔ .called call reply ∈ other)
  marked : ∀ membership,
    .handled kind membership ∈ history.marks ↔ .handled kind membership ∈ other.marks

variable {target : Target} {kind : Kind} {history other first second : History}

/-- In a history that ignores a kind no call about it is answered. -/
theorem Ignores.called (h : history.Ignores target kind) {call : Call}
    (hconcerns : call.Concerns target kind) (reply : call.Reply) :
    .called call reply ∉ history := by
  intro hcalled
  exact h.calls call (mem_calls_of_called hcalled) hconcerns

/-- Where nothing happens every kind is ignored. -/
theorem ignores_nil (target : Target) (kind : Kind) : Ignores target kind [] where
  calls := by simp
  marks := by simp

/-- Histories that follow one another ignore a kind if each of them does. -/
theorem Ignores.append (hfirst : first.Ignores target kind)
    (hsecond : second.Ignores target kind) : (first ++ second).Ignores target kind where
  calls call hcall := by
    rw [calls_append, List.mem_append] at hcall
    exact hcall.elim (hfirst.calls call) (hsecond.calls call)
  marks membership := by
    rw [marks_append, List.mem_append, not_or]
    exact ⟨hfirst.marks membership, hsecond.marks membership⟩

/-- What ignores a kind can be left out in front. -/
theorem Ignores.agrees_right (h : first.Ignores target kind) (second : History) :
    Agrees target kind (first ++ second) second where
  called call reply hconcerns := by
    rw [List.mem_append, or_iff_right (h.called hconcerns reply)]
  marked membership := by
    rw [marks_append, List.mem_append, or_iff_right (h.marks membership)]

/-- What ignores a kind can be left out behind. -/
theorem Ignores.agrees_left (h : second.Ignores target kind) (first : History) :
    Agrees target kind (first ++ second) first where
  called call reply hconcerns := by
    rw [List.mem_append, or_iff_left (h.called hconcerns reply)]
  marked membership := by
    rw [marks_append, List.mem_append, or_iff_left (h.marks membership)]

/-- A kind is told of in a history if it is in one that has the same about it. -/
theorem Agrees.tells (h : Agrees target kind history other) (htells : other.Tells target kind) :
    history.Tells target kind where
  entered := by
    rw [h.marked, htells.entered]
    exact exists_congr fun file => (h.called (.enterNamespace file kind.flag) (.ok ()) rfl).symm
  already := by
    rw [h.marked, htells.already]
    refine and_congr (exists_congr fun number => and_congr ?_ ?_)
      (forall_congr' fun file => forall_congr' fun reply => not_congr ?_)
    · exact (h.called (.inode kind.ownPath) (.ok number) (Or.inl rfl)).symm
    · exact (h.called (.inode (kind.targetPath target)) (.ok number) (Or.inr rfl)).symm
    · exact (h.called (.enterNamespace file kind.flag) reply rfl).symm

/-- A history that ignores a kind tells that nothing was done about it. -/
theorem Ignores.tells (h : history.Ignores target kind) : history.Tells target kind where
  entered := by
    refine iff_of_false (h.marks .entered) ?_
    rintro ⟨file, hcalled⟩
    exact @Ignores.called _ _ _ h (.enterNamespace file kind.flag) rfl _ hcalled
  already := by
    refine iff_of_false (h.marks .already) ?_
    rintro ⟨⟨number, hcalled, _⟩, _⟩
    exact @Ignores.called _ _ _ h (.inode kind.ownPath) (Or.inl rfl) _ hcalled

end History

namespace Namespace

variable {target : Target} {kind other : Kind} {result : Except Failure Membership}
  {events : History}

/-- A kind that is handled leaves one mark, and a kind that fails leaves none. -/
theorem Entry.marks_eq (h : Entry target kind result events) :
    events.marks = (result.toOption.map (Mark.handled kind)).toList := by
  cases h with
  | handled own theirs file =>
    rw [handling]
    split <;> rfl
  | ownUnknown error => rfl
  | targetUnknown own error => rfl
  | unopened own theirs error hne => rfl
  | refused own theirs file error holds hne =>
    rw [explanation]
    split
    · rcases holds with reason | _ | _ <;> rfl
    · rfl

/-- The handling of a kind tells how the launcher came to be in its namespace. -/
theorem Entry.tells (h : Entry target kind result events) : events.Tells target kind := by
  have hmarks := h.marks_eq
  have hpaths := (kind.ownPath_ne_targetPath target).symm
  constructor
  · rw [hmarks]
    cases h with
    | handled own theirs file =>
      by_cases heq : own = theirs <;> simp [Except.toOption, handling, heq, History.Enters]
    | ownUnknown error => simp [Except.toOption, History.Enters]
    | targetUnknown own error => simp [Except.toOption, History.Enters]
    | unopened own theirs error hne => simp [Except.toOption, History.Enters]
    | refused own theirs file error holds hne =>
      rw [explanation]
      split <;> simp [Except.toOption, History.Enters]
  · rw [hmarks]
    cases h with
    | handled own theirs file =>
      by_cases heq : own = theirs <;> simp [Except.toOption, handling, heq, History.Stays]
    | ownUnknown error => simp [Except.toOption, History.Stays, hpaths]
    | targetUnknown own error => simp [Except.toOption, History.Stays, hpaths]
    | unopened own theirs error hne =>
      simp [Except.toOption, History.Stays, hpaths, hpaths.symm, hne]
    | refused own theirs file error holds hne =>
      rw [explanation]
      split <;> simp [Except.toOption, History.Stays]

/-- The handling of a kind ignores the others. -/
theorem Entry.ignores (h : Entry target kind result events) (hne : other ≠ kind) :
    events.Ignores target other where
  calls call hcall hconcerns := by
    rcases h.concerns call hcall with hkind | rfl
    · exact hne (hconcerns.unique hkind)
    · exact hconcerns
  marks membership hmark := by
    rw [h.marks_eq, Option.mem_toList, Option.map_eq_some_iff] at hmark
    obtain ⟨_, _, heq⟩ := hmark
    cases heq
    exact hne rfl

/-- The handling of a kind keeps the filter of the log. -/
theorem Entry.keepsFilter (h : Entry target kind result events) : events.KeepsFilter := by
  cases h with
  | handled own theirs file =>
    rw [handling]
    split <;> simp [History.KeepsFilter]
  | ownUnknown error => simp [History.KeepsFilter]
  | targetUnknown own error => simp [History.KeepsFilter]
  | unopened own theirs error hne => simp [History.KeepsFilter]
  | refused own theirs file error holds hne =>
    rw [explanation]
    split <;> simp [History.KeepsFilter]

variable {kinds : List Kind} {outcome : Except Failure Unit}

/-- The handling of several kinds ignores the others. -/
theorem Entries.ignores (h : Entries target kinds outcome events) (hkind : kind ∉ kinds) :
    events.Ignores target kind := by
  induction h with
  | done => exact History.ignores_nil target kind
  | next hentry _ ih =>
    rw [List.mem_cons, not_or] at hkind
    exact (hentry.ignores hkind.1).append (ih hkind.2)
  | stopped hentry => exact hentry.ignores (List.ne_of_not_mem_cons hkind)

/-- The handling of different kinds tells of each how the launcher came to be in its namespace. -/
theorem Entries.tells (h : Entries target kinds outcome events) (hnodup : kinds.Nodup)
    (kind : Kind) : events.Tells target kind := by
  induction h with
  | done => exact (History.ignores_nil target kind).tells
  | @next first rest _ _ more _ hentry hrest ih =>
    obtain ⟨hfirst, hnodup⟩ := List.nodup_cons.mp hnodup
    by_cases heq : kind = first
    · subst heq
      exact ((hrest.ignores hfirst).agrees_left _).tells hentry.tells
    · exact ((hentry.ignores heq).agrees_right more).tells (ih hnodup)
  | @stopped first rest _ _ hentry =>
    by_cases heq : kind = first
    · subst heq
      exact hentry.tells
    · exact (hentry.ignores heq).tells

/-- The handling of several kinds leaves marks of the first ones in their order, and of all of them
exactly if it succeeds. -/
theorem Entries.exists_marks (h : Entries target kinds outcome events) :
    ∃ memberships, events.marks = List.zipWith .handled kinds memberships ∧
      memberships.length ≤ kinds.length ∧
      (outcome = .ok () ↔ memberships.length = kinds.length) := by
  induction h with
  | done => exact ⟨[], rfl, Nat.le_refl _, by simp⟩
  | @next kind rest membership _ _ _ hentry _ ih =>
    obtain ⟨memberships, hmarks, hle, hok⟩ := ih
    refine ⟨membership :: memberships, ?_, by simpa using hle, by simpa using hok⟩
    rw [History.marks_append, hentry.marks_eq, hmarks]
    rfl
  | stopped hentry => exact ⟨[], hentry.marks_eq, by simp, by simp⟩

/-- The handling of different kinds succeeds exactly if each of them leaves a mark. -/
theorem Entries.eq_ok_iff (h : Entries target kinds outcome events) (hnodup : kinds.Nodup) :
    outcome = .ok () ↔ ∀ kind ∈ kinds, ∃ membership, .handled kind membership ∈ events.marks := by
  induction h with
  | done => simp
  | @next first rest membership part more _ hentry _ ih =>
    obtain ⟨hfirst, hnodup⟩ := List.nodup_cons.mp hnodup
    have hmark : .handled first membership ∈ History.marks (part ++ more) := by
      rw [History.marks_append, hentry.marks_eq]
      exact List.mem_append_left _ (List.mem_singleton.mpr rfl)
    rw [ih hnodup, List.forall_mem_cons, and_iff_right ⟨membership, hmark⟩]
    -- The part of the first kind has no mark of the others.
    refine forall₂_congr fun kind hkind => exists_congr fun other => ?_
    have hne : kind ≠ first := fun heq => hfirst (heq ▸ hkind)
    exact ((hentry.ignores hne).agrees_right more).marked other |>.symm
  | @stopped first rest _ _ hentry =>
    refine iff_of_false (by simp) fun hall => ?_
    obtain ⟨membership, hmark⟩ := hall first List.mem_cons_self
    rw [hentry.marks_eq] at hmark
    cases hmark

/-- The handling of several kinds keeps the filter of the log. -/
theorem Entries.keepsFilter (h : Entries target kinds outcome events) : events.KeepsFilter := by
  induction h with
  | done => simp [History.KeepsFilter]
  | next hentry _ ih => exact hentry.keepsFilter.append ih
  | stopped hentry => exact hentry.keepsFilter

end Namespace

end Relocation
