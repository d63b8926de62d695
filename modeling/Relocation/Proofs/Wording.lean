import Relocation.Proofs.Failure
import Relocation.Wording.Customary

/-!
# The lines of the customary wording

The customary texts of errors are constants, numbers and the texts of error numbers. All
of them are single lines.
-/

namespace Relocation

namespace Errno

/-- The symbols and the texts of the C library are single lines. -/
theorem singleLine_table : ∀ entry ∈ table, SingleLine entry.2.1 ∧ SingleLine entry.2.2 := by
  simp only [table, List.forall_mem_cons, List.not_mem_nil, false_imp_iff, implies_true, and_true]
  repeat' apply And.intro
  all_goals exact singleLine_ofList rfl

/-- The texts of the kernel's headers are single lines. -/
theorem singleLine_headerTexts : ∀ entry ∈ headerTexts, SingleLine entry.2 := by
  simp only [headerTexts, List.forall_mem_cons, List.not_mem_nil, false_imp_iff, implies_true,
    and_true]
  repeat' apply And.intro
  all_goals exact singleLine_ofList rfl

/-- The symbol of an error number is a single line. -/
theorem singleLine_symbol (errno : Errno) : SingleLine errno.symbol := by
  rw [symbol]
  split
  · next hfind => exact (singleLine_table _ (List.mem_of_find?_eq_some hfind)).1
  · exact singleLine_ofList rfl

/-- The text of the C library for an error number is a single line. -/
theorem singleLine_libraryText (errno : Errno) : SingleLine errno.libraryText := by
  rw [libraryText]
  split
  · next hfind => exact (singleLine_table _ (List.mem_of_find?_eq_some hfind)).2
  · split
    · exact singleLine_ofList rfl
    · exact (singleLine_ofList rfl).append (Decimal.singleLine_ofInt _)

/-- The text of the kernel's headers for an error number is a single line. -/
theorem singleLine_headerText (errno : Errno) : SingleLine errno.headerText := by
  rw [headerText]
  split
  · next hfind => exact singleLine_headerTexts _ (List.mem_of_find?_eq_some hfind)
  · next hfind => exact (singleLine_table _ (List.mem_of_find?_eq_some hfind)).2
  · exact singleLine_ofList rfl

end Errno

/-- An error of an operation on a file or a new process is described in a single line. -/
theorem IoError.singleLine_text (error : IoError) : SingleLine error.text := by
  cases error with
  | kernel errno =>
    exact ((errno.singleLine_libraryText.append (singleLine_ofList rfl)).append
      (Decimal.singleLine_ofInt _)).append (singleLine_ofList rfl)
  | outOfMemory => exact singleLine_ofList rfl
  | nulInPath => exact singleLine_ofList rfl
  | nulInArgument => exact singleLine_ofList rfl

/-- An error of a system call is described in a single line. -/
theorem CallError.singleLine_text (error : CallError) : SingleLine error.text := by
  cases error with
  | kernel errno =>
    exact (errno.singleLine_symbol.append (singleLine_ofList rfl)).append
      errno.singleLine_headerText
  | invalidPath => exact singleLine_ofList rfl
  | invalidUtf8 => exact singleLine_ofList rfl
  | unsupported => exact singleLine_ofList rfl

/-- Errors are customarily worded in single lines. -/
theorem Wording.plain_customary : Wording.customary.Plain :=
  ⟨IoError.singleLine_text, CallError.singleLine_text⟩

end Relocation
