import Relocation.Proofs.Namespace.Entry
import Relocation.Proofs.Namespace.Selection

/-!
# How often a namespace is entered

A kind that is handled is entered once if the launcher is not a member yet, and not
otherwise. The handling of one kind enters no namespace of another kind, and the
selected kinds are different. So in the handling of all of them each namespace is
entered as often as in its own part.
-/

namespace Relocation

open Namespace (Kind)

/-- Whether a call enters a namespace of a kind. -/
def Call.enters (kind : Kind) : Call → Bool
  | .enterNamespace _ flag => flag = kind.flag
  | _ => false

/-- A call that enters a namespace of a kind concerns the kind. -/
theorem Call.concerns_of_enters {target : Target} {kind : Kind} {call : Call}
    (h : call.enters kind = true) : call.Concerns target kind := by
  cases call <;> simp_all [Call.enters, Call.Concerns]

/-- Calls that do not concern a kind never enter its namespace. -/
theorem Call.countP_enters_eq_zero (target : Target) {kind : Kind} {calls : List Call}
    (h : ∀ call ∈ calls, ¬ call.Concerns target kind) : calls.countP (Call.enters kind) = 0 := by
  rw [List.countP_eq_zero]
  exact fun call hcall henters => h call hcall (concerns_of_enters henters)

namespace Namespace

variable {target : Target} {kind : Kind} {kinds : List Kind} {part : History}
  {parts : List History}

/-- A part in which a kind is handled has calls about this kind only. -/
theorem Handled.concerns (h : Handled target kind part) :
    ∀ call ∈ part.calls, call.Concerns target kind := by
  obtain ⟨own, theirs, file, rfl⟩ := h
  rw [handling]
  split <;> simp [Call.Concerns]

/-- A kind that is handled is entered once unless the launcher is a member already. -/
theorem countP_enters_handling (target : Target) (kind : Kind) (own theirs : Nat)
    (file : Descriptor) :
    (handling target kind own theirs file).calls.countP (Call.enters kind) =
      if own = theirs then 0 else 1 := by
  rw [handling]
  split <;> simp [Call.enters]

/-- The parts in which several kinds are handled have calls about these kinds only. -/
theorem concerns_of_mem_handled (h : List.Forall₂ (Handled target) kinds parts) :
    ∀ call ∈ History.calls parts.flatten, ∃ kind ∈ kinds, call.Concerns target kind := by
  induction h with
  | nil => simp
  | @cons kind part kinds parts hpart hparts ih =>
    intro call hcall
    rw [List.flatten_cons, History.calls_append, List.mem_append] at hcall
    rcases hcall with hcall | hcall
    · exact ⟨kind, by simp, hpart.concerns call hcall⟩
    · obtain ⟨other, hother, hconcerns⟩ := ih call hcall
      exact ⟨other, List.mem_cons_of_mem kind hother, hconcerns⟩

/-- Handling other kinds does not enter the namespace of a kind. -/
theorem countP_enters_eq_zero_of_not_mem (h : List.Forall₂ (Handled target) kinds parts)
    (hkind : kind ∉ kinds) : (History.calls parts.flatten).countP (Call.enters kind) = 0 := by
  refine Call.countP_enters_eq_zero target fun call hcall hconcerns => hkind ?_
  obtain ⟨other, hother, hconcernsOther⟩ := concerns_of_mem_handled h call hcall
  rwa [hconcerns.unique hconcernsOther]

/-- Where different kinds are handled, between calls that do not concern them, each namespace is
entered once unless the launcher was a member when its turn came. -/
theorem countP_enters_handled (h : List.Forall₂ (Handled target) kinds parts)
    (hnodup : kinds.Nodup) (before after : List Call)
    (hbefore : ∀ kind ∈ kinds, before.countP (Call.enters kind) = 0)
    (hafter : ∀ kind ∈ kinds, after.countP (Call.enters kind) = 0) :
    List.Forall₂ (fun kind part => ∃ own theirs file, part = handling target kind own theirs file ∧
      (before ++ History.calls parts.flatten ++ after).countP (Call.enters kind) =
        if own = theirs then 0 else 1) kinds parts := by
  -- The parts that were gone through join the calls before the others.
  induction h generalizing before with
  | nil => exact .nil
  | @cons kind part kinds parts hpart hparts ih =>
    obtain ⟨hkind, hrest⟩ := List.nodup_cons.mp hnodup
    obtain ⟨own, theirs, file, rfl⟩ := hpart
    refine .cons ⟨own, theirs, file, rfl, ?_⟩ ?_
    · simp [hbefore kind (by simp), hafter kind (by simp), countP_enters_handling,
        countP_enters_eq_zero_of_not_mem hparts hkind]
    · have hhandled : ∀ other ∈ kinds,
          (before ++ (handling target kind own theirs file).calls).countP (Call.enters other) =
            0 := by
        intro other hother
        have hpart :
            (handling target kind own theirs file).calls.countP (Call.enters other) = 0 := by
          refine Call.countP_enters_eq_zero target fun call hcall hconcerns => hkind ?_
          have hown := Handled.concerns ⟨own, theirs, file, rfl⟩ call hcall
          rwa [hown.unique hconcerns]
        simp [hbefore other (List.mem_cons_of_mem kind hother), hpart]
      have hparts := ih hrest _ hhandled fun other hother =>
        hafter other (List.mem_cons_of_mem kind hother)
      simpa [List.append_assoc] using hparts

end Namespace

end Relocation
