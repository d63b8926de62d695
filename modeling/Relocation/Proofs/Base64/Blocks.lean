import Relocation.Proofs.Base64.Endings
import Relocation.Proofs.Base64.Grammar
import Relocation.Proofs.Base64.RoundTrip

/-!
# The bytes of whole blocks

A letter stands for its place in the alphabet, and four symbols for a number of four
digits in base 64, which makes three bytes; a pad counts as zero and withholds a byte.
This reading of a text, block by block and without a decoder, gives the bytes that the
decoder commits: those of all whole blocks of the part that it could read.
-/

namespace Relocation.Base64

/-- The number that a symbol stands for: the place of a letter in the alphabet, and zero for a
pad. -/
def place (symbol : UInt8) : Nat :=
  if symbol = padByte then 0 else alphabet.idxOf symbol

/-- The three bytes of a number below `2 ^ 24`, the first one first. -/
def threeBytes (number : Nat) : Bytes :=
  [UInt8.ofNat (number / 65536), UInt8.ofNat (number / 256 % 256), UInt8.ofNat (number % 256)]

/-- The bytes of four symbols, without one for each pad among them. -/
def bytesOfBlock (a b c d : UInt8) : Bytes :=
  (threeBytes (((place a * 64 + place b) * 64 + place c) * 64 + place d)).take
    (3 - [a, b, c, d].count padByte)

/-- The bytes of the whole blocks of a text without blanks. Symbols beyond them stand for
nothing. -/
def bytesOfBlocks : Bytes → Bytes
  | a :: b :: c :: d :: rest => bytesOfBlock a b c d ++ bytesOfBlocks rest
  | _ => []

/-- A letter is no pad. -/
theorem ne_padByte_of_value? {symbol value : UInt8} (h : value? symbol = some value) :
    symbol ≠ padByte := by
  rintro rfl
  simp at h

/-- No letter stands twice in the alphabet, as it carries different six bits at different places. -/
theorem nodup_alphabet : alphabet.Nodup := by
  have hvalue (n : Nat) (hn : n ∈ List.range 64) :
      value? (letter (UInt8.ofNat n)) = some (UInt8.ofNat n) ∧ (UInt8.ofNat n).toNat = n := by
    have hsmall : n < 64 := List.mem_range.mp hn
    have htoNat : (UInt8.ofNat n).toNat = n :=
      UInt8.toNat_ofNat_of_lt' (Nat.lt_trans hsmall (by decide))
    exact ⟨value?_letter (UInt8.lt_iff_toNat_lt.mpr (by simpa [htoNat] using hsmall)), htoNat⟩
  rw [alphabet_eq_map_letter, List.Nodup, List.pairwise_map]
  refine List.Pairwise.imp_of_mem (fun {m n} hm hn hne heq => hne ?_) List.nodup_range
  obtain ⟨hletterM, hM⟩ := hvalue m hm
  obtain ⟨hletterN, hN⟩ := hvalue n hn
  rw [heq, hletterN] at hletterM
  rw [← hM, ← hN, Option.some.inj hletterM]

/-- A letter stands for the six bits that it carries. -/
theorem place_of_value? {symbol value : UInt8} (h : value? symbol = some value) :
    place symbol = value.toNat ∧ value.toNat < 64 := by
  obtain ⟨hlt, rfl⟩ := letter_of_value?_eq_some h
  have hsmall : value.toNat < 64 := UInt8.lt_iff_toNat_lt.mp hlt
  have hplace : value.toNat < alphabet.length := by
    rw [alphabet_eq_map_letter, List.length_map, List.length_range]
    exact hsmall
  have hletter : alphabet[value.toNat] = letter value := by
    simp only [alphabet_eq_map_letter, List.getElem_map, List.getElem_range, UInt8.ofNat_toNat]
  refine ⟨?_, hsmall⟩
  rw [place, if_neg (ne_padByte_of_value? h), ← hletter]
  exact nodup_alphabet.idxOf_getElem _ hplace

/-- The bytes of four symbols that stand for numbers of six bits are taken from these numbers,
packed one behind the other. -/
theorem bytesOfBlock_eq_take {a b c d va vb vc vd : UInt8}
    (ha : place a = va.toNat ∧ va.toNat < 64) (hb : place b = vb.toNat ∧ vb.toNat < 64)
    (hc : place c = vc.toNat ∧ vc.toNat < 64) (hd : place d = vd.toNat ∧ vd.toNat < 64) :
    bytesOfBlock a b c d =
      (blockBytes (packed va vb vc vd)).take (3 - [a, b, c, d].count padByte) := by
  have hbytes : blockBytes (packed va vb vc vd) =
      threeBytes (((va.toNat * 64 + vb.toNat) * 64 + vc.toNat) * 64 + vd.toNat) := by
    apply blockBytes_eq
    rw [toNat_packed ha.2 hb.2 hc.2 hd.2]
    simp only [UInt8.toNat_ofNat']
    omega
  rw [bytesOfBlock, ha.1, hb.1, hc.1, hd.1, hbytes]

namespace State

variable {a b c d : UInt8} {written text : Bytes} {state next final : State}

/-- A block that can be read between two blocks writes its bytes, and leaves the decoder between two
blocks. -/
theorem read?_block (hsymbols : ∀ byte ∈ [a, b, c, d], isBlank byte = false)
    (h : ({ written } : State).read? [a, b, c, d] = some next) :
    ∃ finished, next = { finished, written := (bytesOfBlock a b c d).reverse ++ written } := by
  have hpad : place padByte = (0 : UInt8).toNat ∧ (0 : UInt8).toNat < 64 := by decide
  obtain ⟨va, vb, ha, hb, hforms⟩ := block_cases hsymbols h
  have hneA := ne_padByte_of_value? ha
  have hneB := ne_padByte_of_value? hb
  rcases hforms with ⟨vc, vd, hc, hd⟩ | ⟨vc, hc, rfl⟩ | ⟨rfl, rfl⟩
  · have hcount : [a, b, c, d].count padByte = 0 := by
      simp [hneA, hneB, ne_padByte_of_value? hc, ne_padByte_of_value? hd]
    rw [read?_letters ha hb hc hd] at h
    refine ⟨false, ?_⟩
    rw [bytesOfBlock_eq_take (place_of_value? ha) (place_of_value? hb) (place_of_value? hc)
      (place_of_value? hd), hcount]
    exact (Option.some.inj h).symm
  · have hcount : [a, b, c, padByte].count padByte = 1 := by
      simp [hneA, hneB, ne_padByte_of_value? hc]
    rw [read?_onePad ha hb hc] at h
    refine ⟨true, ?_⟩
    rw [bytesOfBlock_eq_take (place_of_value? ha) (place_of_value? hb) (place_of_value? hc) hpad,
      hcount]
    exact (Option.some.inj h).symm
  · have hcount : [a, b, padByte, padByte].count padByte = 2 := by
      simp [hneA, hneB]
    rw [read?_twoPads ha hb] at h
    refine ⟨true, ?_⟩
    rw [bytesOfBlock_eq_take (place_of_value? ha) (place_of_value? hb) hpad hpad, hcount]
    exact (Option.some.inj h).symm

/-- A symbol that does not complete its block writes nothing. -/
theorem written_push (value : UInt8) (h : state.symbols ≠ 3) :
    (state.push value).written = state.written := by
  rw [push, if_neg h]

/-- Symbols that do not complete a block write nothing. -/
theorem written_of_read?_short (hsymbols : ∀ byte ∈ text, isBlank byte = false)
    (hshort : state.symbols + text.length < 4) (h : state.read? text = some final) :
    final.written = state.written := by
  induction text generalizing state with
  | nil =>
    obtain rfl := Option.some.inj h
    rfl
  | cons byte rest ih =>
    rw [List.length_cons] at hshort
    obtain ⟨next, hstep, hrest⟩ := Option.bind_eq_some_iff.mp h
    have hnext : next.symbols = state.symbols + 1 ∧ next.written = state.written := by
      rcases step?_symbol_cases (hsymbols byte (by simp)) hstep with
        ⟨value, _, _, _, rfl⟩ | ⟨_, _, rfl⟩
      · rw [symbols_push (by omega), written_push _ (by omega)]
        exact ⟨by omega, rfl⟩
      · rw [symbols_push (by simp only; omega), written_push _ (by simp only; omega)]
        exact ⟨by simp only; omega, rfl⟩
    rw [ih (fun byte hmem => hsymbols byte (by simp [hmem])) (by omega) hrest, hnext.2]

/-- Reading a text without blanks between two blocks writes the bytes of its whole blocks. -/
theorem written_of_read? {written : Bytes} {final : State} :
    ∀ {text : Bytes}, (∀ byte ∈ text, isBlank byte = false) →
      ({ written } : State).read? text = some final →
      final.written = (bytesOfBlocks text).reverse ++ written
  | [], hsymbols, h | [_], hsymbols, h | [_, _], hsymbols, h | [_, _, _], hsymbols, h =>
    written_of_read?_short hsymbols (by simp) h
  | a :: b :: c :: d :: rest, hsymbols, h => by
    have hblock : ∀ byte ∈ [a, b, c, d], isBlank byte = false :=
      fun byte hmem => hsymbols byte (List.mem_append_left rest hmem)
    have hrest : ∀ byte ∈ rest, isBlank byte = false :=
      fun byte hmem => hsymbols byte (List.mem_append_right [a, b, c, d] hmem)
    rw [show a :: b :: c :: d :: rest = [a, b, c, d] ++ rest from rfl, read?_append] at h
    obtain ⟨next, hnext, h⟩ := Option.bind_eq_some_iff.mp h
    obtain ⟨finished, rfl⟩ := read?_block hblock hnext
    cases finished with
    | false =>
      rw [written_of_read? hrest h]
      simp [bytesOfBlocks]
    | true =>
      obtain rfl := eq_nil_of_read?_finished hrest h
      obtain rfl := Option.some.inj h
      simp [bytesOfBlocks]

end State

/-- What is written while a text is read is what its whole blocks stand for. -/
theorem written_eq_bytesOfBlocks {text : Bytes} {final : State}
    (h : ({} : State).read? text = some final) :
    final.written.reverse = bytesOfBlocks (symbolsOf text) := by
  rw [← State.read?_symbolsOf] at h
  simp [State.written_of_read? (fun _ hmem => isBlank_of_mem_symbolsOf hmem) h]

/-- The part of a text that is read when decoding it comes to a result: what stands before the
refused byte, or the whole text. -/
def readPart (text : Bytes) : Except Error Nat → Bytes
  | .error (.invalidByte offset _) => text.take offset
  | _ => text

/-- The bytes that decoding a text commits are those of the whole blocks of the part that is
read. -/
theorem outcome_committed (text : Bytes) :
    (outcome text).committed = bytesOfBlocks (symbolsOf (readPart text (outcome text).result)) := by
  have hending := outcome_ending text
  generalize outcome text = result at hending
  cases hending with
  | refused hbyte hread hrefused => exact written_eq_bytesOfBlocks hread
  | incomplete hread hinside => exact written_eq_bytesOfBlocks hread
  | complete hread hbetween => exact written_eq_bytesOfBlocks hread

end Relocation.Base64
