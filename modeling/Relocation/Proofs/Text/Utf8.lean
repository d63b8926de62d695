import Relocation.Proofs.Text.Lines

/-!
# Reading well-formed UTF-8

What is well formed is read without loss. Between two characters the reader takes the
bytes of a character one by one: the first one tells how many follow and brings the
upper bits, and each of the others brings six more. Behind the last one it has written
that character and stands between two characters again. So the bytes of a text are read
as that text.
-/

namespace Relocation.Utf8

/-- The first byte is read before the others. -/
theorem readFrom_cons (written : List Char) (state : State) (byte : UInt8) (rest : Bytes) :
    readFrom written state (byte :: rest) =
      readFrom ((step state byte).1.reverse ++ written) (step state byte).2 rest := rfl

/-- Of joined bytes the first part is read before the second. -/
theorem readFrom_append (written : List Char) (state : State) (first second : Bytes) :
    readFrom written state (first ++ second) =
      readFrom (readFrom written state first).1 (readFrom written state first).2 second :=
  List.foldl_append ..

/-- The only byte of a character of one byte. -/
theorem first_one : ∀ bits < 128,
    first (UInt8.ofNat bits) = ([Char.ofNat bits], .between) := by
  decide

/-- The first byte of a character of two bytes. -/
theorem first_two : ∀ bits < 32, 2 ≤ bits →
    first (UInt8.ofNat (bits + 192)) = ([], .inside 0 0x80 0xBF bits) := by
  decide

/-- The first byte of a character of three bytes. The range of the next byte leaves out what two
bytes are enough for, and the surrogates. -/
theorem first_three : ∀ bits < 16,
    first (UInt8.ofNat (bits + 224)) =
      ([],
        .inside 1 (if bits = 0 then 0xA0 else 0x80) (if bits = 13 then 0x9F else 0xBF) bits) := by
  decide

/-- The first byte of a character of four bytes. The range of the next byte leaves out what three
bytes are enough for, and what is above the last character. -/
theorem first_four : ∀ bits < 5,
    first (UInt8.ofNat (bits + 240)) =
      ([], .inside 2 (if bits = 0 then 0x90 else 0x80) (if bits = 4 then 0x8F else 0xBF) bits) := by
  decide

variable {low high : UInt8} {bits : Nat}

/-- A later byte of a character brings six bits, which come behind those that were read so far. -/
theorem laterByte_spec (hbits : bits < 64) (hlow : low.toNat ≤ bits + 128)
    (hhigh : bits + 128 ≤ high.toNat) :
    (low ≤ UInt8.ofNat (bits + 128) ∧ UInt8.ofNat (bits + 128) ≤ high) ∧
      (UInt8.ofNat (bits + 128)).toNat - 128 = bits := by
  have hbyte : (UInt8.ofNat (bits + 128)).toNat = bits + 128 :=
    UInt8.toNat_ofNat_of_lt' (Nat.lt_of_lt_of_le (Nat.add_lt_add_right hbits 128) (by decide))
  rw [UInt8.le_iff_toNat_le, UInt8.le_iff_toNat_le, hbyte]
  exact ⟨⟨hlow, hhigh⟩, Nat.add_sub_cancel ..⟩

/-- The last byte of a character completes it. -/
theorem step_last (value : Nat) (hbits : bits < 64) (hlow : low.toNat ≤ bits + 128)
    (hhigh : bits + 128 ≤ high.toNat) :
    step (.inside 0 low high value) (UInt8.ofNat (bits + 128)) =
      ([Char.ofNat (value * 64 + bits)], .between) := by
  obtain ⟨hrange, hvalue⟩ := laterByte_spec hbits hlow hhigh
  simp only [step, if_pos hrange]
  rw [hvalue]

/-- A later byte of a character that is not the last one leaves it open. -/
theorem step_inner (owed value : Nat) (hbits : bits < 64) (hlow : low.toNat ≤ bits + 128)
    (hhigh : bits + 128 ≤ high.toNat) :
    step (.inside (owed + 1) low high value) (UInt8.ofNat (bits + 128)) =
      ([], .inside owed 0x80 0xBF (value * 64 + bits)) := by
  obtain ⟨hrange, hvalue⟩ := laterByte_spec hbits hlow hhigh
  simp only [step, if_pos hrange]
  rw [hvalue]

/-- Between two characters the bytes of a character are read as that character. -/
theorem readFrom_utf8EncodeChar (written : List Char) (c : Char) :
    readFrom written .between (String.utf8EncodeChar c) = (c :: written, .between) := by
  have hvalid : c.val.toNat < 0xD800 ∨ 0xDFFF < c.val.toNat ∧ c.val.toNat < 0x110000 := c.valid
  have hchar (n : Nat) (hn : n = c.val.toNat) : Char.ofNat n = c := hn ▸ Char.ofNat_toNat c
  unfold String.utf8EncodeChar
  dsimp only
  generalize c.val.toNat = n at hvalid hchar ⊢
  split
  · rw [readFrom_cons, step, first_one n (by omega), hchar n rfl]
    rfl
  · split
    · rw [readFrom_cons, step, first_two (n / 64 % 32) (by omega) (by omega), readFrom_cons,
        step_last _ (by omega) (by simp) (by simp; omega), hchar _ (by omega)]
      rfl
    · split
      · rw [readFrom_cons, step, first_three (n / 4096 % 16) (by omega), readFrom_cons,
          step_inner 0 _ (by omega) (by split <;> simp; omega) (by split <;> simp <;> omega),
          readFrom_cons, step_last _ (by omega) (by simp) (by simp; omega),
          hchar _ (by omega)]
        rfl
      · rw [readFrom_cons, step, first_four (n / 262144 % 8) (by omega), readFrom_cons,
          step_inner 1 _ (by omega) (by split <;> simp; omega) (by split <;> simp <;> omega),
          readFrom_cons, step_inner 0 _ (by omega) (by simp) (by simp; omega),
          readFrom_cons, step_last _ (by omega) (by simp) (by simp; omega),
          hchar _ (by omega)]
        rfl

/-- Between two characters the bytes of characters are read as these characters. -/
theorem readFrom_flatMap (written chars : List Char) :
    readFrom written .between (chars.flatMap String.utf8EncodeChar) =
      (chars.reverse ++ written, .between) := by
  induction chars generalizing written with
  | nil => rfl
  | cons c rest ih =>
    rw [List.flatMap_cons, readFrom_append, readFrom_utf8EncodeChar, ih, List.reverse_cons,
      List.append_assoc, List.singleton_append]

/-- The bytes of a text are read as that text. -/
theorem textLossy_ofString (text : String) : textLossy (Bytes.ofString text) = text := by
  rw [textLossy, decodeLossy_eq, Bytes.ofString, readFrom_flatMap]
  simp [State.finish]

/-- Bytes that are the encoding of characters are those of their text. -/
theorem ofString_textLossy {bytes : Bytes} (h : bytes.toByteArray.IsValidUTF8) :
    Bytes.ofString (textLossy bytes) = bytes := by
  obtain ⟨chars, hchars⟩ := h
  have hbytes : bytes = Bytes.ofString (String.ofList chars) := by
    rw [Bytes.ofString, String.toList_ofList]
    exact List.toByteArray_inj.mp hchars
  rw [hbytes, textLossy_ofString]

end Relocation.Utf8
