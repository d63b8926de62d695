import Relocation.Proofs.Base64.Blocks
import Relocation.Proofs.Base64.Hopeless

/-!
# Encoding what was decoded

A pad withholds a byte, and with it the low bits of the last letter: two of them before
one pad, four before two. The decoder does not look at these spare bits, so that several
texts stand for the same bytes. Encoding the bytes again writes the one among them whose
spare bits are zero and which has no blanks. This decides when two texts decode to the
same bytes, and shows how many bytes a text decodes to.
-/

namespace Relocation.Base64

/-- The letters of a number below `2 ^ 24`, which are its digits in base 64. -/
def fourLetters (number : Nat) : Bytes :=
  [number / 262144, number / 4096 % 64, number / 64 % 64, number % 64].map fun digit =>
    letter (UInt8.ofNat digit)

/-- The letter that is left of a symbol when some of its low bits are cleared. -/
def clearLow (bits : Nat) (symbol : UInt8) : UInt8 :=
  letter (UInt8.ofNat (place symbol >>> bits <<< bits))

/-- A text without blanks after clearing, for each pad at its end, two low bits of the last symbol
before the pads. -/
def clearSpare (symbols : Bytes) : Bytes :=
  let pads := symbols.count padByte
  symbols.modify (symbols.length - pads - 1) (clearLow (2 * pads))

/-- A letter is written for the number that it stands for, which has six bits. -/
theorem letter_place {symbol : UInt8} (h : symbol ∈ alphabet) :
    letter (UInt8.ofNat (place symbol)) = symbol ∧ place symbol < 64 := by
  obtain ⟨value, hvalue⟩ := mem_alphabet_iff.mp h
  obtain ⟨hplace, hlt⟩ := place_of_value? hvalue
  rw [hplace, UInt8.ofNat_toNat]
  exact ⟨(letter_of_value?_eq_some hvalue).2, hlt⟩

/-- A pad stands for no bits. -/
@[simp] theorem place_padByte : place padByte = 0 := rfl

/-- Clearing no bits leaves a letter as it is. -/
theorem clearLow_zero {symbol : UInt8} (h : symbol ∈ alphabet) : clearLow 0 symbol = symbol := by
  simpa [clearLow] using (letter_place h).1

/-- No letter is the pad. -/
theorem ne_padByte_of_mem {symbol : UInt8} (h : symbol ∈ alphabet) : symbol ≠ padByte := by
  rintro rfl
  exact padByte_not_mem_alphabet h

section Digits

variable (a b c : UInt8)

/-- A group of three bytes is written in the letters of its number. -/
theorem encodeGroup_eq_fourLetters :
    encodeGroup a b c = fourLetters (a.toNat * 65536 + b.toNat * 256 + c.toNat) := by
  have ha := a.toNat_lt
  have hb := b.toNat_lt
  have hc := c.toNat_lt
  have hfirst : (a.toNat * 65536 + b.toNat * 256 + c.toNat) / 262144 = (a >>> 2).toNat := by
    rw [toNat_firstSextet]
    omega
  have hsecond : (a.toNat * 65536 + b.toNat * 256 + c.toNat) / 4096 % 64 =
      ((a &&& 0x03) <<< 4 ||| b >>> 4).toNat := by
    rw [toNat_secondSextet]
    omega
  have hthird : (a.toNat * 65536 + b.toNat * 256 + c.toNat) / 64 % 64 =
      ((b &&& 0x0f) <<< 2 ||| c >>> 6).toNat := by
    rw [toNat_thirdSextet]
    omega
  have hfourth : (a.toNat * 65536 + b.toNat * 256 + c.toNat) % 64 = (c &&& 0x3f).toNat := by
    rw [toNat_fourthSextet]
    omega
  simp only [encodeGroup, fourLetters, List.map_cons, List.map_nil, hfirst, hsecond, hthird,
    hfourth, UInt8.ofNat_toNat]

/-- Two bytes are written in the first three letters of their number and a pad. -/
theorem encode_pair :
    encode [a, b] = (fourLetters (a.toNat * 65536 + b.toNat * 256)).take 3 ++ [padByte] := by
  have hgroup := encodeGroup_eq_fourLetters a b 0
  rw [UInt8.toNat_zero, Nat.add_zero] at hgroup
  rw [← hgroup]
  simp [encodeGroup, encode]

/-- A single byte is written in the first two letters of its number and two pads. -/
theorem encode_single :
    encode [a] = (fourLetters (a.toNat * 65536)).take 2 ++ [padByte, padByte] := by
  have hgroup := encodeGroup_eq_fourLetters a 0 0
  rw [UInt8.toNat_zero, Nat.zero_mul, Nat.add_zero] at hgroup
  rw [← hgroup]
  simp [encodeGroup, encode]

end Digits

/-- The letters of a number that is put together of digits are those of the digits. -/
theorem fourLetters_digits (first second third fourth : Nat) (hsecond : second < 64)
    (hthird : third < 64) (hfourth : fourth < 64) :
    fourLetters (((first * 64 + second) * 64 + third) * 64 + fourth) =
      [first, second, third, fourth].map fun digit => letter (UInt8.ofNat digit) := by
  have hone : (((first * 64 + second) * 64 + third) * 64 + fourth) / 262144 = first := by omega
  have htwo : (((first * 64 + second) * 64 + third) * 64 + fourth) / 4096 % 64 = second := by omega
  have hthree : (((first * 64 + second) * 64 + third) * 64 + fourth) / 64 % 64 = third := by omega
  have hfour : (((first * 64 + second) * 64 + third) * 64 + fourth) % 64 = fourth := by omega
  rw [fourLetters, hone, htwo, hthree, hfour]

section Blocks

variable {a b c d : UInt8}

/-- The bytes of four letters are encoded in these letters. -/
theorem encode_bytesOfBlock_letters (ha : a ∈ alphabet) (hb : b ∈ alphabet) (hc : c ∈ alphabet)
    (hd : d ∈ alphabet) (rest : Bytes) :
    encode (bytesOfBlock a b c d ++ rest) = [a, b, c, d] ++ encode rest := by
  obtain ⟨hletterA, hltA⟩ := letter_place ha
  obtain ⟨hletterB, hltB⟩ := letter_place hb
  obtain ⟨hletterC, hltC⟩ := letter_place hc
  obtain ⟨hletterD, hltD⟩ := letter_place hd
  have hcount : [a, b, c, d].count padByte = 0 := by
    simp [ne_padByte_of_mem ha, ne_padByte_of_mem hb, ne_padByte_of_mem hc, ne_padByte_of_mem hd]
  have hletters := fourLetters_digits (place a) _ _ _ hltB hltC hltD
  generalize hnumber : ((place a * 64 + place b) * 64 + place c) * 64 + place d = number at hletters
  have hsum : number / 65536 % 256 * 65536 + number / 256 % 256 % 256 * 256 + number % 256 % 256 =
      number := by omega
  rw [bytesOfBlock, hcount, hnumber, threeBytes]
  simp only [Nat.sub_zero, List.take_succ_cons, List.take_nil, List.cons_append, List.nil_append,
    encode, encodeGroup_eq_fourLetters, UInt8.toNat_ofNat', Nat.reducePow, hsum, hletters,
    List.map_cons, List.map_nil, hletterA, hletterB, hletterC, hletterD]

/-- The bytes of three letters and a pad are encoded in these letters, the last one without its
low two bits. -/
theorem encode_bytesOfBlock_onePad (ha : a ∈ alphabet) (hb : b ∈ alphabet) (hc : c ∈ alphabet) :
    encode (bytesOfBlock a b c padByte) = [a, b, clearLow 2 c, padByte] := by
  obtain ⟨hletterA, hltA⟩ := letter_place ha
  obtain ⟨hletterB, hltB⟩ := letter_place hb
  obtain ⟨_, hltC⟩ := letter_place hc
  have hcount : [a, b, c, padByte].count padByte = 1 := by
    simp [ne_padByte_of_mem ha, ne_padByte_of_mem hb, ne_padByte_of_mem hc]
  have hletters := fourLetters_digits (place a) _ (place c / 4 * 4) 0 hltB (by omega) (by decide)
  -- Two bytes are sixteen of the eighteen bits of three letters, and the other two are lost.
  have hsum : ((place a * 64 + place b) * 64 + place c) * 64 / 65536 % 256 * 65536 +
      ((place a * 64 + place b) * 64 + place c) * 64 / 256 % 256 % 256 * 256 =
      ((place a * 64 + place b) * 64 + place c / 4 * 4) * 64 + 0 := by omega
  rw [bytesOfBlock, hcount, place_padByte, Nat.add_zero, threeBytes]
  simp only [Nat.reduceSub, List.take_succ_cons, List.take_zero, encode_pair,
    UInt8.toNat_ofNat', Nat.reducePow, hsum, hletters, List.map_cons, List.map_nil, hletterA,
    hletterB, clearLow, Nat.shiftRight_eq_div_pow, Nat.shiftLeft_eq, List.cons_append,
    List.nil_append]

/-- The bytes of two letters and two pads are encoded in these letters, the last one without its
low four bits. -/
theorem encode_bytesOfBlock_twoPads (ha : a ∈ alphabet) (hb : b ∈ alphabet) :
    encode (bytesOfBlock a b padByte padByte) = [a, clearLow 4 b, padByte, padByte] := by
  obtain ⟨hletterA, hltA⟩ := letter_place ha
  obtain ⟨_, hltB⟩ := letter_place hb
  have hcount : [a, b, padByte, padByte].count padByte = 2 := by
    simp [ne_padByte_of_mem ha, ne_padByte_of_mem hb]
  have hletters := fourLetters_digits (place a) (place b / 16 * 16) 0 0 (by omega) (by decide)
    (by decide)
  -- One byte is eight of the twelve bits of two letters, and the other four are lost.
  have hsum : (place a * 64 + place b) * 64 * 64 / 65536 % 256 * 65536 =
      ((place a * 64 + place b / 16 * 16) * 64 + 0) * 64 + 0 := by omega
  rw [bytesOfBlock, hcount, place_padByte, Nat.add_zero, Nat.add_zero, threeBytes]
  simp only [Nat.reduceSub, List.take_succ_cons, List.take_zero, encode_single,
    UInt8.toNat_ofNat', Nat.reducePow, hsum, hletters, List.map_cons, List.map_nil, hletterA,
    clearLow, Nat.shiftRight_eq_div_pow, Nat.shiftLeft_eq, List.cons_append, List.nil_append]

end Blocks

/-- In a text that follows the grammar a pad stands behind a letter. -/
theorem Padded.count_lt {symbols : Bytes} (h : Padded symbols) (hne : symbols ≠ []) :
    symbols.count padByte < symbols.length := by
  have hfirst : ∀ {first : UInt8} {rest : Bytes}, first ∈ alphabet →
      (first :: rest).count padByte < (first :: rest).length := by
    intro first rest hmem
    have hcount : rest.count padByte ≤ rest.length := List.count_le_length
    simp [List.count_cons_of_ne (ne_padByte_of_mem hmem)]
    omega
  cases h with
  | nil => exact absurd rfl hne
  | onePad ha _ _ => exact hfirst ha
  | twoPads ha _ => exact hfirst ha
  | block ha _ _ _ _ => exact hfirst ha

/-- A block of letters in front of a text keeps its spare bits. -/
theorem clearSpare_block {a b c d : UInt8} {rest : Bytes} (ha : a ∈ alphabet) (hb : b ∈ alphabet)
    (hc : c ∈ alphabet) (hd : d ∈ alphabet) (hrest : Padded rest) :
    clearSpare (a :: b :: c :: d :: rest) = [a, b, c, d] ++ clearSpare rest := by
  have hcount : (a :: b :: c :: d :: rest).count padByte = rest.count padByte := by
    simp [List.count_cons_of_ne, ne_padByte_of_mem ha, ne_padByte_of_mem hb, ne_padByte_of_mem hc,
      ne_padByte_of_mem hd]
  simp only [clearSpare, hcount, List.length_cons]
  by_cases hnil : rest = []
  · subst hnil
    simp [clearLow_zero hd]
  · have hplace : rest.length + 1 + 1 + 1 + 1 - rest.count padByte - 1 =
        rest.length - rest.count padByte - 1 + 1 + 1 + 1 + 1 := by
      have hlt := hrest.count_lt hnil
      omega
    rw [hplace]
    simp only [List.modify_succ_cons, List.cons_append, List.nil_append]

/-- The bytes of a text that follows the grammar are encoded in its letters, without its spare
bits. -/
theorem Padded.encode_bytesOfBlocks {symbols : Bytes} (h : Padded symbols) :
    encode (bytesOfBlocks symbols) = clearSpare symbols := by
  induction h with
  | nil => rfl
  | onePad ha hb hc =>
    have hencode := encode_bytesOfBlock_onePad ha hb hc
    simpa [bytesOfBlocks, clearSpare, ne_padByte_of_mem ha, ne_padByte_of_mem hb,
      ne_padByte_of_mem hc] using hencode
  | twoPads ha hb =>
    have hencode := encode_bytesOfBlock_twoPads ha hb
    simpa [bytesOfBlocks, clearSpare, ne_padByte_of_mem ha, ne_padByte_of_mem hb] using hencode
  | block ha hb hc hd hrest ih =>
    rw [bytesOfBlocks, encode_bytesOfBlock_letters ha hb hc hd, ih,
      clearSpare_block ha hb hc hd hrest]

/-- A text that follows the grammar stands for three bytes in each block, less one for each pad. -/
theorem Padded.length_bytesOfBlocks {symbols : Bytes} (h : Padded symbols) :
    (bytesOfBlocks symbols).length + symbols.count padByte = 3 * (symbols.length / 4) := by
  induction h with
  | nil => rfl
  | onePad ha hb hc =>
    simp [bytesOfBlocks, bytesOfBlock, threeBytes, ne_padByte_of_mem ha, ne_padByte_of_mem hb,
      ne_padByte_of_mem hc]
  | twoPads ha hb =>
    simp [bytesOfBlocks, bytesOfBlock, threeBytes, ne_padByte_of_mem ha, ne_padByte_of_mem hb]
  | block ha hb hc hd hrest ih =>
    simp [bytesOfBlocks, bytesOfBlock, threeBytes, ne_padByte_of_mem ha, ne_padByte_of_mem hb,
      ne_padByte_of_mem hc, ne_padByte_of_mem hd]
    omega

/-- Different bytes are encoded differently, as decoding tells them apart. -/
theorem encode_injective : Function.Injective encode := by
  intro first second h
  have hfirst := outcome_encode first
  rw [h, outcome_encode] at hfirst
  exact (congrArg Outcome.committed hfirst).symm

variable {text other : Bytes}

/-- The symbols of a text that is accepted follow the grammar. -/
theorem Accepted.padded (h : Accepted text) : Padded (symbolsOf text) := by
  obtain ⟨buffer, count, hcount⟩ := h
  exact outcome_error?_eq_none_iff_padded.mp (decodeInto_eq_ok_iff.mp hcount).2.2.1

/-- A text that is accepted decodes to the bytes of its blocks as soon as there is the memory. -/
theorem Accepted.decodeCommand_eq (h : Accepted text) (reserves : Nat → Bool) :
    decodeCommand reserves text =
      if reserves (capacity text.length) then .ok (bytesOfBlocks (symbolsOf text))
      else .error (.allocation (capacity text.length)) := by
  obtain ⟨hlength, final, hread, hbetween⟩ := accepted_iff.mp h
  have hdecode : decode text = .ok (bytesOfBlocks (symbolsOf text)) := by
    rw [decode_of_length hlength, outcome_of_read? hread hbetween,
      ← written_eq_bytesOfBlocks hread]
    rfl
  simp only [decodeCommand, hdecode]
  rfl

/-- Encoding undoes decoding up to the blanks and the spare bits. Given the memory, a text that is
accepted decodes to bytes whose encoding is the text without blanks and with its spare bits
cleared; there are three of them for each four symbols, less one for each pad. Two texts that are
accepted decode to the same bytes exactly if they differ in blanks and spare bits only. -/
theorem encode_decodeCommand (h : Accepted text) :
    (∃ command,
      (∀ reserves, decodeCommand reserves text =
        if reserves (capacity text.length) then .ok command
        else .error (.allocation (capacity text.length))) ∧
      encode command = clearSpare (symbolsOf text) ∧
      command.length + (symbolsOf text).count padByte = 3 * ((symbolsOf text).length / 4)) ∧
    ∀ other, Accepted other → ∀ reserves : Nat → Bool,
      reserves (capacity text.length) = true → reserves (capacity other.length) = true →
      (decodeCommand reserves text = decodeCommand reserves other ↔
        clearSpare (symbolsOf text) = clearSpare (symbolsOf other)) := by
  refine ⟨⟨bytesOfBlocks (symbolsOf text), h.decodeCommand_eq, h.padded.encode_bytesOfBlocks,
    h.padded.length_bytesOfBlocks⟩, fun other hother reserves hroom hroomOther => ?_⟩
  rw [h.decodeCommand_eq, hother.decodeCommand_eq, if_pos hroom, if_pos hroomOther,
    ← h.padded.encode_bytesOfBlocks, ← hother.padded.encode_bytesOfBlocks,
    encode_injective.eq_iff, Except.ok.injEq]

/-- A text whose last letter has a spare bit set, and the canonical one with blanks. -/
theorem encode_decodeCommand_spare :
    Accepted (Bytes.ofString "TWF=") ∧ Accepted (Bytes.ofString "TW E=\r\n\n") ∧
      decodeCommand (fun _ => true) (Bytes.ofString "TWF=") =
        decodeCommand (fun _ => true) (Bytes.ofString "TW E=\r\n\n") := by
  have htext : Accepted (Bytes.ofString "TWF=") :=
    ⟨[0, 0, 0], 2, decodeInto_eq_ok_iff.mpr (by decide)⟩
  have hother : Accepted (Bytes.ofString "TW E=\r\n\n") :=
    ⟨List.replicate 6 0, 2, decodeInto_eq_ok_iff.mpr (by decide)⟩
  exact ⟨htext, hother,
    ((encode_decodeCommand htext).2 _ hother (fun _ => true) rfl rfl).mpr (by decide)⟩

end Relocation.Base64
