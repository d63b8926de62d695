import Relocation.Text.Decimal
import Relocation.Text.Utf8

/-!
# Texts of one line

A text is a single line if there is no line feed in it. The texts of this library are
put together from constants, from numbers, which have no line feeds, and from bytes that
are read as UTF-8. The reader of UTF-8 writes a line feed for each byte that is one and
for no other: what it writes for several bytes is never a line feed.
-/

namespace Relocation

/-- A text without a line feed. -/
def SingleLine (text : String) : Prop :=
  '\n' ∉ text.toList

/-- Two texts in a row are a single line if both are. -/
@[simp] theorem singleLine_append {first second : String} :
    SingleLine (first ++ second) ↔ SingleLine first ∧ SingleLine second := by
  simp [SingleLine, not_or]

/-- A single line goes on with another one. -/
theorem SingleLine.append {first second : String} (hfirst : SingleLine first)
    (hsecond : SingleLine second) : SingleLine (first ++ second) :=
  singleLine_append.mpr ⟨hfirst, hsecond⟩

/-- A text is a single line if none of its characters is a line feed. -/
theorem singleLine_ofList {characters : List Char} (h : characters.all (· ≠ '\n') = true) :
    SingleLine (String.ofList characters) := by
  rw [SingleLine, String.toList_ofList]
  intro hmem
  simpa using List.all_eq_true.mp h _ hmem

namespace Decimal

/-- A digit is no line feed. -/
theorem digitChar_ne_lineFeed {digit : Nat} (h : digit < 16) : digitChar digit ≠ '\n' := by
  have hall : ∀ digit < 16, digitChar digit ≠ '\n' := by decide
  exact hall digit h

/-- The digits of a number are decimal. -/
theorem exists_digit_of_mem_digits {n : Nat} {c : Char} (h : c ∈ digits n) :
    ∃ digit < 10, c = digitChar digit := by
  induction n using digits.induct with
  | case1 n hsmall =>
    rw [digits, if_pos hsmall, List.mem_singleton] at h
    exact ⟨n, hsmall, h⟩
  | case2 n hlarge ih =>
    rw [digits, if_neg hlarge, List.mem_append, List.mem_singleton] at h
    rcases h with h | h
    · exact ih h
    · exact ⟨n % 10, by omega, h⟩

/-- The digits of a number are no line feeds. -/
theorem lineFeed_not_mem_digits (n : Nat) : '\n' ∉ digits n := by
  intro h
  obtain ⟨digit, hdigit, heq⟩ := exists_digit_of_mem_digits h
  exact digitChar_ne_lineFeed (by omega) heq.symm

/-- A number is written in a single line. -/
theorem singleLine_ofNat (n : Nat) : SingleLine (ofNat n) := by
  rw [SingleLine, ofNat, String.toList_ofList]
  exact lineFeed_not_mem_digits n

/-- An integer is written in a single line. -/
theorem singleLine_ofInt (n : Int) : SingleLine (ofInt n) := by
  cases n with
  | ofNat n => exact singleLine_ofNat n
  | negSucc n => exact (singleLine_ofList rfl).append (singleLine_ofNat (n + 1))

/-- A byte is written in a single line. -/
theorem singleLine_hexByte (byte : UInt8) : SingleLine (hexByte byte) := by
  have hbyte := byte.toNat_lt
  refine singleLine_ofList ?_
  have hhigh := @digitChar_ne_lineFeed (byte.toNat / 16) (by omega)
  have hlow := @digitChar_ne_lineFeed (byte.toNat % 16) (by omega)
  simp [hhigh, hlow]

end Decimal

namespace Bytes

/-- The byte of the line feed. -/
def lineFeed : UInt8 := 10

/-- Among the bytes of a character there is that of the line feed only if it is one. -/
theorem lineFeed_mem_utf8EncodeChar_iff (c : Char) :
    lineFeed ∈ String.utf8EncodeChar c ↔ c = '\n' := by
  constructor
  · intro h
    have hne {n : Nat} (hlow : 128 ≤ n) (hhigh : n < 256) : lineFeed ≠ UInt8.ofNat n := by
      intro heq
      have hnat : 10 = n % 256 := by simpa [lineFeed] using congrArg UInt8.toNat heq
      omega
    unfold String.utf8EncodeChar at h
    dsimp only at h
    split at h
    · next hsmall =>
      have hnat : 10 = c.val.toNat % 256 := by
        simpa [lineFeed] using congrArg UInt8.toNat (List.mem_singleton.mp h)
      have hval : c.val.toNat = 10 := by omega
      exact Char.ext (UInt32.toNat_inj.mp hval)
    · -- The bytes of a longer character are all above those of ASCII.
      exfalso
      split at h
      · simp only [List.mem_cons, List.not_mem_nil, or_false] at h
        rcases h with h | h <;> exact hne (by omega) (by omega) h
      · split at h
        · simp only [List.mem_cons, List.not_mem_nil, or_false] at h
          rcases h with h | h | h <;> exact hne (by omega) (by omega) h
        · simp only [List.mem_cons, List.not_mem_nil, or_false] at h
          rcases h with h | h | h | h <;> exact hne (by omega) (by omega) h
  · rintro rfl
    decide

/-- The bytes of a text hold a line feed if the text does. -/
theorem lineFeed_mem_ofString_iff (text : String) :
    lineFeed ∈ ofString text ↔ ¬ SingleLine text := by
  simp [ofString, SingleLine, lineFeed_mem_utf8EncodeChar_iff]

end Bytes

namespace Utf8

/-- The character of a number is a line feed only if the number is its code. -/
theorem ofNat_eq_lineFeed_iff (n : Nat) : Char.ofNat n = '\n' ↔ n = 10 := by
  constructor
  · intro h
    by_cases hvalid : n.isValidChar
    · rw [Char.ofNat, dif_pos hvalid] at h
      exact congrArg Char.toNat h
    · rw [Char.ofNat, dif_neg hvalid] at h
      cases h
  · rintro rfl
    rfl

/-- Inside a character, the bits that were read and those that the next byte has to bring are more
than those of a line feed. -/
def State.Beyond : State → Prop
  | .between => True
  | .inside _ low _ value => 0x80 ≤ low ∧ 10 < value * 64 + (low.toNat - 0x80)

/-- A first byte writes a line feed if it is one, and otherwise begins a character that is none. -/
theorem first_lineFeed (byte : UInt8) :
    ('\n' ∈ (first byte).1 ↔ byte = Bytes.lineFeed) ∧ (first byte).2.Beyond := by
  rw [first]
  split
  · refine ⟨?_, trivial⟩
    rw [List.mem_singleton, eq_comm, ofNat_eq_lineFeed_iff, ← UInt8.toNat_inj]
    rfl
  · next hlarge =>
    have hne : byte ≠ Bytes.lineFeed := by
      rintro rfl
      exact hlarge (by decide)
    -- What is left writes nothing or the replacement. Where the bits of the first byte count they
    -- are not all zero, and elsewhere the lower bound of the second byte is high enough.
    constructor
    · repeat' split
      all_goals simp [hne, replacement]
    · repeat' split
      all_goals simp_all [State.Beyond, UInt8.le_iff_toNat_le]
      all_goals omega

/-- A byte writes a line feed if it is one. -/
theorem step_lineFeed {state : State} (h : state.Beyond) (byte : UInt8) :
    ('\n' ∈ (step state byte).1 ↔ byte = Bytes.lineFeed) ∧ (step state byte).2.Beyond := by
  cases state with
  | between => exact first_lineFeed byte
  | inside owed low high value =>
    obtain ⟨hlow, hvalue⟩ := h
    rw [step]
    split
    · next hrange =>
      have hbyte := UInt8.le_iff_toNat_le.mp hrange.1
      have hne : byte ≠ Bytes.lineFeed := by
        rintro rfl
        exact absurd (UInt8.le_trans hlow hrange.1) (by decide)
      have hmore : 10 < value * 64 + (byte.toNat - 0x80) := by omega
      cases owed with
      | zero =>
        refine ⟨?_, trivial⟩
        rw [List.mem_singleton, eq_comm, ofNat_eq_lineFeed_iff]
        exact iff_of_false (by omega) hne
      | succ owed => exact ⟨by simp [hne], by decide, by simp; omega⟩
    · obtain ⟨hwritten, hbeyond⟩ := first_lineFeed byte
      refine ⟨?_, hbeyond⟩
      rw [← hwritten, List.mem_cons]
      exact or_iff_right (by decide)

/-- What is written for an unfinished character is no line feed. -/
theorem lineFeed_not_mem_finish (state : State) : '\n' ∉ state.finish := by
  cases state <;> simp [State.finish, replacement]

/-- What is written after more bytes, in reverse, and where they leave the reader. -/
def readFrom (written : List Char) (state : State) (bytes : Bytes) : List Char × State :=
  bytes.foldl (fun (written, state) byte =>
    ((step state byte).1.reverse ++ written, (step state byte).2)) (written, state)

/-- The characters of a byte string are those written up to its end and at its end. -/
theorem decodeLossy_eq (bytes : Bytes) :
    decodeLossy bytes =
      (readFrom [] .between bytes).1.reverse ++ (readFrom [] .between bytes).2.finish := rfl

/-- Bytes add a line feed to what was written before if one of them is one. -/
theorem lineFeed_mem_readFrom_iff (bytes : Bytes) (written : List Char) {state : State}
    (h : state.Beyond) :
    '\n' ∈ (readFrom written state bytes).1 ↔ '\n' ∈ written ∨ Bytes.lineFeed ∈ bytes := by
  induction bytes generalizing written state with
  | nil => simp [readFrom]
  | cons byte rest ih =>
    obtain ⟨hwritten, hbeyond⟩ := step_lineFeed h byte
    have hnext : readFrom written state (byte :: rest) =
        readFrom ((step state byte).1.reverse ++ written) (step state byte).2 rest := rfl
    rw [hnext, ih _ hbeyond, List.mem_append, List.mem_reverse, hwritten, List.mem_cons, or_assoc,
      or_left_comm, eq_comm]

/-- The characters of a byte string hold a line feed if one of the bytes is one. -/
theorem lineFeed_mem_decodeLossy_iff (bytes : Bytes) :
    '\n' ∈ decodeLossy bytes ↔ Bytes.lineFeed ∈ bytes := by
  have hread := @lineFeed_mem_readFrom_iff bytes [] .between trivial
  rw [decodeLossy_eq, List.mem_append, List.mem_reverse, hread,
    or_iff_left (lineFeed_not_mem_finish _)]
  simp

/-- The text of a byte string is a single line if none of the bytes is a line feed. -/
theorem singleLine_textLossy_iff (bytes : Bytes) :
    SingleLine (textLossy bytes) ↔ Bytes.lineFeed ∉ bytes := by
  rw [SingleLine, textLossy, String.toList_ofList, lineFeed_mem_decodeLossy_iff]

end Utf8

end Relocation
