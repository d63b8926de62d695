import Relocation.Environment.Import
import Relocation.Namespace.Entry
import Relocation.Proofs.Text.Lines

/-!
# Handles of different kinds

The handles of two kinds of namespaces are different files, and neither is the file
of the environment. So a call that names a handle names one kind only. The same holds
of the flags.
-/

namespace Relocation.Namespace

namespace Kind

/-- The names of all kinds are equally long. -/
theorem length_name (kind : Kind) : (Bytes.ofString kind.name).length = 3 := by
  cases kind <;> decide

/-- Different kinds have different names. -/
theorem name_injective {kind other : Kind}
    (h : Bytes.ofString kind.name = Bytes.ofString other.name) : kind = other := by
  revert h
  cases kind <;> cases other <;> decide

/-- A path that ends in the name of a kind tells the kind. -/
theorem eq_of_append_name {kind other : Kind} {directory otherDirectory : Bytes}
    (h : directory ++ Bytes.ofString kind.name = otherDirectory ++ Bytes.ofString other.name) :
    kind = other :=
  name_injective (List.append_inj' h (by rw [length_name, length_name])).2

/-- Different kinds have different flags. -/
theorem flag_injective {kind other : Kind} (h : kind.flag = other.flag) : kind = other := by
  revert h
  cases kind <;> cases other <;> decide

/-- The launcher's own handle is not the target's, which is found by a number. -/
theorem ownPath_ne_targetPath (kind : Kind) (target : Target) :
    kind.ownPath ≠ kind.targetPath target := by
  intro h
  have hdirectory : Bytes.ofString "/proc/" ++ (Bytes.ofString "self" ++ Bytes.ofString "/ns/") =
      Bytes.ofString "/proc/" ++ (Bytes.ofString target.text ++ Bytes.ofString "/ns/") := by
    have hself : Bytes.ofString "/proc/" ++ (Bytes.ofString "self" ++ Bytes.ofString "/ns/") =
        Bytes.ofString "/proc/self/ns/" := by decide
    rw [hself, ← List.append_assoc]
    exact List.append_cancel_right h
  have hself := List.append_cancel_right (List.append_cancel_left hdirectory)
  -- The first letter of `self` is no digit.
  have hletter : 115 ∈ Bytes.ofString target.text := hself ▸ by decide
  rw [Bytes.ofString, Target.text, Decimal.ofNat, String.toList_ofList, List.mem_flatMap] at hletter
  obtain ⟨c, hc, hbyte⟩ := hletter
  obtain ⟨digit, hdigit, rfl⟩ := Decimal.exists_digit_of_mem_digits hc
  have hdigits : ∀ digit < 10, 115 ∉ String.utf8EncodeChar (Decimal.digitChar digit) := by decide
  exact hdigits digit hdigit hbyte

/-- The file of the target's environment is no handle of a namespace. -/
theorem environmentPath_ne_targetPath (target : Target) (kind : Kind) :
    target.environmentPath ≠ kind.targetPath target := by
  intro h
  rw [Target.environmentPath, targetPath, List.append_assoc] at h
  have htail := List.append_cancel_left h
  revert htail
  cases kind <;> decide

end Kind

end Relocation.Namespace

namespace Relocation

open Namespace (Kind)

/-- Whether a call looks up, opens or enters a namespace of a kind for a target. -/
def Call.Concerns (target : Target) (kind : Kind) : Call → Prop
  | .inode path => path = kind.ownPath ∨ path = kind.targetPath target
  | .openFile path => path = kind.targetPath target
  | .enterNamespace _ flag => flag = kind.flag
  | _ => False

/-- A call concerns at most one kind. -/
theorem Call.Concerns.unique {target : Target} {kind other : Kind} {call : Call}
    (h : call.Concerns target kind) (hother : call.Concerns target other) : kind = other := by
  cases call with
  | inode path =>
    rcases h with rfl | rfl <;> rcases hother with h | h <;> exact Kind.eq_of_append_name h
  | openFile path =>
    have heq : kind.targetPath target = other.targetPath target := h.symm.trans hother
    exact Kind.eq_of_append_name heq
  | enterNamespace file flag => exact Kind.flag_injective (h.symm.trans hother)
  | pause | read _ _ | holdsCapability | setVariable _ _ | spawn _ => exact h.elim

end Relocation
