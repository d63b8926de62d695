import Relocation.Failure
import Relocation.Proofs.Text.Lines

/-!
# The lines of a message

The message of a failure is put together from constants, numbers, the wording of errors,
and what the failure names: a path, or a text that came from outside. If errors are
worded in single lines, all but the last are, so a message is broken exactly by a line
feed in what the failure names.
-/

namespace Relocation

/-- Whether errors are worded in single lines. -/
structure Wording.Plain (words : Wording) : Prop where
  io : ∀ error, SingleLine (words.io error)
  call : ∀ error, SingleLine (words.call error)

/-- The name of a kind of namespace is a single line. -/
theorem Namespace.Kind.singleLine_name (kind : Namespace.Kind) : SingleLine kind.name := by
  cases kind <;> exact singleLine_ofList rfl

namespace Failure

/-- What a failure names is a single line: its path, or its text from outside. -/
def NamesLine : Failure → Prop
  | .invalidTarget text => SingleLine text
  | .malformedVariable text => SingleLine text
  | .environmentUnreadable path _ => Bytes.lineFeed ∉ path
  | .environmentTooLarge path _ => Bytes.lineFeed ∉ path
  | .namespaceLookup path _ => Bytes.lineFeed ∉ path
  | .namespaceOpen path _ => Bytes.lineFeed ∉ path
  | .namespaceEntry _ path _ => Bytes.lineFeed ∉ path
  | _ => True

/-- A message that shows a path among single lines is one exactly if the path has no line feed. -/
theorem singleLine_around_iff {before between after : String} {path : Bytes}
    (hbefore : SingleLine before) (hbetween : SingleLine between) (hafter : SingleLine after) :
    SingleLine (before ++ bracketed path ++ between ++ after) ↔ Bytes.lineFeed ∉ path := by
  have hopen : SingleLine "[" := singleLine_ofList rfl
  have hclose : SingleLine "]" := singleLine_ofList rfl
  simp [bracketed, hbefore, hbetween, hafter, hopen, hclose, Utf8.singleLine_textLossy_iff]

/-- What is wrong with an encoded command is said in a single line. -/
theorem singleLine_message_encoding (words : Wording) (error : Base64.Error) :
    SingleLine (messageIn words (.encoding error)) := by
  cases error with
  | invalidLength length =>
    exact ((singleLine_ofList rfl).append (Decimal.singleLine_ofNat length)).append
      (singleLine_ofList rfl)
  | bufferTooSmall needed capacity =>
    exact ((((singleLine_ofList rfl).append (Decimal.singleLine_ofNat capacity)).append
      (singleLine_ofList rfl)).append (Decimal.singleLine_ofNat needed)).append
        (singleLine_ofList rfl)
  | invalidByte offset byte =>
    exact (((singleLine_ofList rfl).append (Decimal.singleLine_hexByte byte)).append
      (singleLine_ofList rfl)).append (Decimal.singleLine_ofNat offset)
  | incompleteBlock symbols =>
    exact ((singleLine_ofList rfl).append (Decimal.singleLine_ofNat symbols)).append
      (singleLine_ofList rfl)

/-- The message of a failure is a single line exactly if what the failure names is one. -/
theorem singleLine_message_iff {words : Wording} (hwords : words.Plain) (failure : Failure) :
    SingleLine (failure.messageIn words) ↔ failure.NamesLine := by
  cases failure with
  | pause error =>
    exact iff_of_true ((singleLine_ofList rfl).append (hwords.call error)) trivial
  | invalidTarget text => exact singleLine_append.trans (and_iff_left (singleLine_ofList rfl))
  | missingCommand => exact iff_of_true (singleLine_ofList rfl) trivial
  | environmentUnreadable path error =>
    exact singleLine_around_iff (singleLine_ofList rfl) (singleLine_ofList rfl)
      (hwords.io error)
  | environmentTooLarge path limit =>
    exact singleLine_append.trans ((and_iff_left (singleLine_ofList rfl)).trans
      (singleLine_around_iff (singleLine_ofList rfl) (singleLine_ofList rfl)
        (Decimal.singleLine_ofNat limit)))
  | malformedVariable text =>
    exact singleLine_append.trans ((and_iff_left (singleLine_ofList rfl)).trans
      (singleLine_append.trans (and_iff_right (singleLine_ofList rfl))))
  | namespaceLookup path error =>
    exact singleLine_around_iff (singleLine_ofList rfl) (singleLine_ofList rfl)
      (hwords.io error)
  | namespaceOpen path error =>
    exact singleLine_around_iff (singleLine_ofList rfl) (singleLine_ofList rfl)
      (hwords.io error)
  | namespaceEntry kind path error =>
    exact singleLine_around_iff
      (((singleLine_ofList rfl).append kind.singleLine_name).append (singleLine_ofList rfl))
      (singleLine_ofList rfl) (hwords.call error)
  | encoding error => exact iff_of_true (singleLine_message_encoding words error) trivial
  | embeddedNul => exact iff_of_true (singleLine_ofList rfl) trivial
  | allocation size =>
    exact iff_of_true (((singleLine_ofList rfl).append (Decimal.singleLine_ofNat size)).append
      (singleLine_ofList rfl)) trivial
  | spawn error =>
    exact iff_of_true ((((singleLine_ofList rfl).append (singleLine_ofList rfl)).append
      (singleLine_ofList rfl)).append (hwords.io error)) trivial

end Failure

end Relocation
