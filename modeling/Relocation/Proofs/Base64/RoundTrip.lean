import Relocation.Launch
import Relocation.Proofs.Base64.Reading

/-!
# Decoding what was encoded

Three bytes are written as four numbers of six bits, and four such numbers are packed
into 24 bits from which the bytes are taken again. Both ways are put into ordinary
arithmetic, where they are seen to undo each other, and the round trip of a text
follows block by block.
-/

namespace Relocation.Base64

/-- Putting six bits behind others multiplies those by 64, as long as no bit is lost. -/
theorem toNat_shiftLeft_or (block : UInt32) (value : UInt8) (hblock : block.toNat < 67108864)
    (hvalue : value.toNat < 64) :
    (block <<< 6 ||| value.toUInt32).toNat = block.toNat * 64 + value.toNat := by
  have hshift : block.toNat <<< 6 = block.toNat * 64 := by simp [Nat.shiftLeft_eq]
  rw [UInt32.toNat_or, UInt32.toNat_shiftLeft, UInt8.toNat_toUInt32]
  simp only [UInt32.reduceToNat, Nat.reduceMod]
  rw [Nat.mod_eq_of_lt (by omega), ← Nat.shiftLeft_add_eq_or_of_lt (by omega), hshift]

/-- Four numbers of six bits are packed as digits in base 64. -/
theorem toNat_packed {a b c d : UInt8} (ha : a.toNat < 64) (hb : b.toNat < 64)
    (hc : c.toNat < 64) (hd : d.toNat < 64) :
    (packed a b c d).toNat = a.toNat * 262144 + b.toNat * 4096 + c.toNat * 64 + d.toNat := by
  have htwo := toNat_shiftLeft_or a.toUInt32 b (by simp; omega) hb
  have hthree := toNat_shiftLeft_or _ c (by rw [htwo]; simp; omega) hc
  have hfour := toNat_shiftLeft_or _ d (by rw [hthree, htwo]; simp; omega) hd
  rw [packed, hfour, hthree, htwo, UInt8.toNat_toUInt32]
  omega

/-- The bytes of a block are its digits in base 256. -/
theorem blockBytes_eq {block : UInt32} {a b c : UInt8}
    (h : block.toNat = a.toNat * 65536 + b.toNat * 256 + c.toNat) :
    blockBytes block = [a, b, c] := by
  have ha := a.toNat_lt
  have hb := b.toNat_lt
  have hc := c.toNat_lt
  have hfirst : (block >>> 16).toUInt8 = a := by
    apply UInt8.toNat_inj.mp
    simp only [UInt32.toNat_toUInt8, UInt32.toNat_shiftRight, UInt32.reduceToNat, Nat.reduceMod,
      Nat.shiftRight_eq_div_pow, Nat.reducePow]
    omega
  have hsecond : (block >>> 8).toUInt8 = b := by
    apply UInt8.toNat_inj.mp
    simp only [UInt32.toNat_toUInt8, UInt32.toNat_shiftRight, UInt32.reduceToNat, Nat.reduceMod,
      Nat.shiftRight_eq_div_pow, Nat.reducePow]
    omega
  have hthird : block.toUInt8 = c := by
    apply UInt8.toNat_inj.mp
    simp only [UInt32.toNat_toUInt8, Nat.reducePow]
    omega
  rw [blockBytes, hfirst, hsecond, hthird]

/-- The first letter carries the upper six bits of the first byte. -/
theorem toNat_firstSextet (a : UInt8) : (a >>> 2).toNat = a.toNat / 4 := by
  simp [Nat.shiftRight_eq_div_pow]

/-- The second letter carries the lower two bits of the first byte and the upper four of the
second. -/
theorem toNat_secondSextet (a b : UInt8) :
    ((a &&& 0x03) <<< 4 ||| b >>> 4).toNat = a.toNat % 4 * 16 + b.toNat / 16 := by
  have hb := b.toNat_lt
  have hmask : a.toNat &&& 3 = a.toNat % 4 := Nat.and_two_pow_sub_one_eq_mod _ 2
  have hshift : (a.toNat % 4) <<< 4 = a.toNat % 4 * 16 := by simp [Nat.shiftLeft_eq]
  simp only [UInt8.toNat_or, UInt8.toNat_shiftLeft, UInt8.toNat_and, UInt8.toNat_shiftRight,
    UInt8.reduceToNat, Nat.reduceMod, hmask, Nat.shiftRight_eq_div_pow, Nat.reducePow]
  rw [Nat.mod_eq_of_lt (by omega), ← Nat.shiftLeft_add_eq_or_of_lt (by omega), hshift]

/-- The third letter carries the lower four bits of the second byte and the upper two of the
third. -/
theorem toNat_thirdSextet (b c : UInt8) :
    ((b &&& 0x0f) <<< 2 ||| c >>> 6).toNat = b.toNat % 16 * 4 + c.toNat / 64 := by
  have hc := c.toNat_lt
  have hmask : b.toNat &&& 15 = b.toNat % 16 := Nat.and_two_pow_sub_one_eq_mod _ 4
  have hshift : (b.toNat % 16) <<< 2 = b.toNat % 16 * 4 := by simp [Nat.shiftLeft_eq]
  simp only [UInt8.toNat_or, UInt8.toNat_shiftLeft, UInt8.toNat_and, UInt8.toNat_shiftRight,
    UInt8.reduceToNat, Nat.reduceMod, hmask, Nat.shiftRight_eq_div_pow, Nat.reducePow]
  rw [Nat.mod_eq_of_lt (by omega), ← Nat.shiftLeft_add_eq_or_of_lt (by omega), hshift]

/-- The last letter carries the lower six bits of the third byte. -/
theorem toNat_fourthSextet (c : UInt8) : (c &&& 0x3f).toNat = c.toNat % 64 := by
  have hmask : c.toNat &&& 63 = c.toNat % 64 := Nat.and_two_pow_sub_one_eq_mod _ 6
  simpa using hmask

/-- The 24 bits of three bytes are those of the four numbers that the encoding makes of them. -/
theorem toNat_packed_sextets (a b c : UInt8) :
    (packed (a >>> 2) ((a &&& 0x03) <<< 4 ||| b >>> 4) ((b &&& 0x0f) <<< 2 ||| c >>> 6)
        (c &&& 0x3f)).toNat =
      a.toNat * 65536 + b.toNat * 256 + c.toNat := by
  have ha := a.toNat_lt
  have hb := b.toNat_lt
  have hc := c.toNat_lt
  have hfirst := toNat_firstSextet a
  have hsecond := toNat_secondSextet a b
  have hthird := toNat_thirdSextet b c
  have hfourth := toNat_fourthSextet c
  rw [toNat_packed (by omega) (by omega) (by omega) (by omega), hfirst, hsecond, hthird, hfourth]
  omega

/-- Each number that the encoding makes of three bytes is written as a letter that carries it. -/
theorem value?_letter_sextets (a b c : UInt8) :
    value? (letter (a >>> 2)) = some (a >>> 2) ∧
    value? (letter ((a &&& 0x03) <<< 4 ||| b >>> 4)) = some ((a &&& 0x03) <<< 4 ||| b >>> 4) ∧
    value? (letter ((b &&& 0x0f) <<< 2 ||| c >>> 6)) = some ((b &&& 0x0f) <<< 2 ||| c >>> 6) ∧
    value? (letter (c &&& 0x3f)) = some (c &&& 0x3f) := by
  have hsmall : ∀ value : UInt8, value.toNat < 64 → value < 64 :=
    fun value h => UInt8.lt_iff_toNat_lt.mpr h
  have ha := a.toNat_lt
  have hb := b.toNat_lt
  have hc := c.toNat_lt
  refine ⟨value?_letter (hsmall _ ?_), value?_letter (hsmall _ ?_), value?_letter (hsmall _ ?_),
    value?_letter (hsmall _ ?_)⟩
  · rw [toNat_firstSextet]; omega
  · rw [toNat_secondSextet]; omega
  · rw [toNat_thirdSextet]; omega
  · rw [toNat_fourthSextet]; omega

namespace State

/-- Reading an encoded text between two blocks writes the bytes that were encoded, and ends between
two blocks. -/
theorem read?_encode (bytes written : Bytes) :
    ∃ finished, ({ written } : State).read? (encode bytes) =
      some { finished, written := bytes.reverse ++ written } := by
  fun_induction encode bytes generalizing written with
  | case1 => exact ⟨false, rfl⟩
  | case2 a =>
    obtain ⟨hfirst, hsecond, _, _⟩ := value?_letter_sextets a 0 0
    have hbytes := blockBytes_eq (toNat_packed_sextets a 0 0)
    simp only [UInt8.zero_and, UInt8.zero_shiftLeft, UInt8.zero_shiftRight, UInt8.or_zero]
      at hsecond hbytes
    exact ⟨true, by rw [read?_twoPads hfirst hsecond, hbytes]; rfl⟩
  | case3 a b =>
    obtain ⟨hfirst, hsecond, hthird, _⟩ := value?_letter_sextets a b 0
    have hbytes := blockBytes_eq (toNat_packed_sextets a b 0)
    simp only [UInt8.zero_and, UInt8.zero_shiftRight, UInt8.or_zero] at hthird hbytes
    exact ⟨true, by rw [read?_onePad hfirst hsecond hthird, hbytes]; rfl⟩
  | case4 a b c rest ih =>
    obtain ⟨hfirst, hsecond, hthird, hfourth⟩ := value?_letter_sextets a b c
    have hbytes := blockBytes_eq (toNat_packed_sextets a b c)
    obtain ⟨finished, hread⟩ := ih ([c, b, a] ++ written)
    refine ⟨finished, ?_⟩
    rw [read?_append, encodeGroup, read?_letters hfirst hsecond hthird hfourth, hbytes]
    simpa using hread

end State

/-- The encoding has a block of four symbols for each started group of three bytes. -/
theorem length_encode (bytes : Bytes) : (encode bytes).length = (bytes.length + 2) / 3 * 4 := by
  fun_induction encode bytes with
  | case1 => rfl
  | case2 a => simp
  | case3 a b => simp
  | case4 a b c rest ih =>
    simp only [encodeGroup, List.length_append, List.length_cons, List.length_nil]
    omega

/-- Decoding an encoded text commits the bytes that were encoded and fails in no place. -/
theorem outcome_encode (bytes : Bytes) : outcome (encode bytes) = ⟨bytes, none⟩ := by
  obtain ⟨finished, hread⟩ := State.read?_encode bytes []
  rw [outcome_of_read? hread rfl]
  simp

/-- Decoding undoes encoding. Given the memory, the encoding of any bytes decodes to these
bytes; and decoding it into any buffer with room for what its length may stand for returns their
number, puts them at the front of the buffer and leaves the rest of the buffer as it was. -/
theorem decodeCommand_encode (bytes : Bytes) :
    (∀ reserves, decodeCommand reserves (encode bytes) =
      if reserves (capacity (encode bytes).length) then .ok bytes
      else .error (.allocation (capacity (encode bytes).length))) ∧
    ∀ buffer : Bytes, capacity (encode bytes).length ≤ buffer.length →
      decodeInto (encode bytes) buffer =
        (.ok bytes.length, bytes ++ buffer.drop bytes.length) := by
  have hinto : ∀ buffer : Bytes, capacity (encode bytes).length ≤ buffer.length →
      decodeInto (encode bytes) buffer =
        (.ok bytes.length, bytes ++ buffer.drop bytes.length) := by
    intro buffer hroom
    have hlength : (encode bytes).length % 4 = 0 := by rw [length_encode]; omega
    simp [decodeInto, hlength, Nat.not_lt.mpr hroom, outcome_encode]
  refine ⟨fun reserves => ?_, hinto⟩
  have hdecode : decode (encode bytes) = .ok bytes := by
    rw [decode, hinto _ (by simp)]
    simp
  simp only [decodeCommand, hdecode]
  rfl

/-- Bytes that are no text, in a buffer with more room than they need. -/
theorem decodeCommand_encode_binary :
    capacity (encode [0x00, 0xff, 0x41, 0x80]).length ≤ 9 ∧
      decodeInto (encode [0x00, 0xff, 0x41, 0x80]) (List.replicate 9 0xaa) =
        (.ok 4, [0x00, 0xff, 0x41, 0x80, 0xaa, 0xaa, 0xaa, 0xaa, 0xaa]) :=
  ⟨by decide, (decodeCommand_encode [0x00, 0xff, 0x41, 0x80]).2 (List.replicate 9 0xaa) (by decide)⟩

end Relocation.Base64
