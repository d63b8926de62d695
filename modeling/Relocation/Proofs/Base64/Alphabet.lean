import Relocation.Base64.Decoding
import Relocation.Base64.Encoding

/-!
# The alphabet

The decoder finds the six bits of a letter by the range that its byte lies in. This
file ties those ranges to the list of the 64 letters, shows that reading a letter and
writing it undo each other, and sets the other bytes apart: the pad, the blanks, and
those that are foreign. The symbols of a text are what is left without its blanks.
-/

namespace Relocation.Base64

/-- The 64 letters, each at the place that its six bits give. -/
def alphabet : Bytes :=
  Bytes.ofString "ABCDEFGHIJKLMNOPQRSTUVWXYZabcdefghijklmnopqrstuvwxyz0123456789+/"

/-- The letters written for the numbers below 64 are the alphabet in its order. -/
theorem alphabet_eq_map_letter :
    alphabet = (List.range 64).map (fun value => letter (UInt8.ofNat value)) := by
  decide

/-- A byte that carries six bits is the letter written for them. -/
theorem letter_of_value?_eq_some {byte value : UInt8} (h : value? byte = some value) :
    value < 64 ∧ letter value = byte := by
  unfold value? at h
  unfold letter
  grind

/-- The letter written for six bits carries them. -/
theorem value?_letter {value : UInt8} (h : value < 64) : value? (letter value) = some value := by
  unfold letter value?
  grind

/-- The bytes that carry six bits are the letters of the alphabet. -/
theorem mem_alphabet_iff {byte : UInt8} :
    byte ∈ alphabet ↔ ∃ value, value? byte = some value := by
  rw [alphabet_eq_map_letter]
  constructor
  · intro hmem
    obtain ⟨n, hn, rfl⟩ := List.mem_map.mp hmem
    have hlt : UInt8.ofNat n < 64 := by
      have h64 : n < 64 := List.mem_range.mp hn
      rw [UInt8.lt_iff_toNat_lt, UInt8.toNat_ofNat]
      change n % 256 < 64
      omega
    exact ⟨_, value?_letter hlt⟩
  · rintro ⟨value, hvalue⟩
    obtain ⟨hlt, rfl⟩ := letter_of_value?_eq_some hvalue
    refine List.mem_map.mpr ⟨value.toNat, List.mem_range.mpr ?_, by rw [UInt8.ofNat_toNat]⟩
    exact UInt8.lt_iff_toNat_lt.mp hlt

/-- The pad is no letter. -/
@[simp] theorem value?_padByte : value? padByte = none := by
  decide

/-- No letter is a blank. -/
theorem isBlank_of_value?_eq_some {byte value : UInt8} (h : value? byte = some value) :
    isBlank byte = false := by
  unfold value? at h
  unfold isBlank
  grind

/-- A byte stands for a letter exactly if it carries six bits. -/
theorem Symbol.ofByte_eq_letter_iff {byte value : UInt8} :
    Symbol.ofByte byte = .letter value ↔ value? byte = some value := by
  unfold Symbol.ofByte
  cases value? byte with
  | some _ => simp
  | none => grind

/-- Only the pad byte stands for a pad. -/
theorem Symbol.ofByte_eq_pad_iff {byte : UInt8} : Symbol.ofByte byte = .pad ↔ byte = padByte := by
  unfold Symbol.ofByte
  cases hvalue : value? byte with
  | some _ =>
    have hne : byte ≠ padByte := by
      rintro rfl
      simp at hvalue
    simp [hne]
  | none => grind

/-- The bytes that carry nothing are the blanks. -/
theorem Symbol.ofByte_eq_blank_iff {byte : UInt8} :
    Symbol.ofByte byte = .blank ↔ isBlank byte = true := by
  unfold Symbol.ofByte
  cases hvalue : value? byte with
  | some _ => simp [isBlank_of_value?_eq_some hvalue]
  | none =>
    by_cases hpad : byte = padByte
    · subst hpad
      decide
    · grind

/-- What is left of a text without its blanks. -/
def symbolsOf (text : Bytes) : Bytes :=
  text.filter (fun byte => !isBlank byte)

/-- A blank in front of a text adds no symbol. -/
theorem symbolsOf_cons_of_blank {byte : UInt8} (h : isBlank byte = true) (text : Bytes) :
    symbolsOf (byte :: text) = symbolsOf text := by
  simp [symbolsOf, h]

/-- Any other byte in front of a text is a symbol of it. -/
theorem symbolsOf_cons_of_not_blank {byte : UInt8} (h : isBlank byte = false) (text : Bytes) :
    symbolsOf (byte :: text) = byte :: symbolsOf text := by
  simp [symbolsOf, h]

/-- The symbols of texts that follow one another. -/
theorem symbolsOf_append (first second : Bytes) :
    symbolsOf (first ++ second) = symbolsOf first ++ symbolsOf second :=
  List.filter_append ..

/-- No symbol of a text is a blank. -/
theorem isBlank_of_mem_symbolsOf {text : Bytes} {byte : UInt8} (h : byte ∈ symbolsOf text) :
    isBlank byte = false := by
  simpa using (List.mem_filter.mp h).2

end Relocation.Base64
