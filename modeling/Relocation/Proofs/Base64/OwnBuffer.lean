import Relocation.Launch
import Relocation.Proofs.Base64.Hopeless
import Relocation.Proofs.Base64.InPlace

/-!
# Decoding a command into its own memory

A command is decoded into memory that is reserved for it, of the size that its length may
stand for. What comes out does not depend on this memory: any buffer with room, whatever
it holds, gives the same error or begins with the same bytes afterwards. So the buffer is
never found too small, and nothing that was in the memory before gets into the command.
-/

namespace Relocation.Base64

variable {text decoded : Bytes}

/-- Decoding a text into a buffer of its own gives what decoding it into any buffer with room does:
the same error, or the bytes at the front of the buffer. -/
theorem decode_eq_decodeInto {buffer : Bytes} (hroom : capacity text.length ≤ buffer.length) :
    decode text =
      (decodeInto text buffer).1.map fun count => (decodeInto text buffer).2.take count := by
  by_cases hlength : text.length % 4 = 0
  · rw [decode_of_length hlength, decodeInto_of_room hlength hroom]
    cases herror : (outcome text).error? <;> simp [Outcome.result, herror, Except.map]
  · rw [decode_of_length_ne hlength, decodeInto, if_pos hlength]
    rfl

/-- A text that decodes stands for the bytes of its blocks, which are no more than its length
allows. Into any buffer with room these bytes are written, and no others. -/
theorem decode_eq_ok (h : decode text = .ok decoded) :
    decoded = bytesOfBlocks (symbolsOf text) ∧ decoded.length ≤ capacity text.length ∧
      ∀ buffer : Bytes, capacity text.length ≤ buffer.length →
        decodeInto text buffer = (.ok decoded.length, decoded ++ buffer.drop decoded.length) := by
  obtain ⟨hlength, houtcome⟩ := decode_eq_ok_iff.mp h
  have hbytes := outcome_committed text
  have hcount := length_committed_le text
  rw [houtcome] at hbytes hcount
  refine ⟨hbytes, hcount, fun buffer hroom => ?_⟩
  rw [decodeInto_of_room hlength hroom, houtcome]
  rfl

/-- A buffer of its own is never too small for a text. -/
theorem decode_ne_bufferTooSmall (text : Bytes) (needed available : Nat) :
    decode text ≠ .error (.bufferTooSmall needed available) := by
  intro h
  by_cases hlength : text.length % 4 = 0
  · rcases decode_error_cases hlength h with ⟨_, _, _, hcause⟩ | ⟨_, _, hcause⟩ <;> cases hcause
  · simp [decode_of_length_ne hlength] at h

/-- Decoding a command agrees with decoding into a buffer. If so much memory cannot be had as the
length of the text may stand for, that is the failure, whatever the text. Otherwise, for any buffer
of that size or more and whatever it holds, decoding the command gives the error of decoding into
the buffer or the bytes that this puts at its front. So the buffer is never too small; and the
bytes of the command are those of the blocks of the text, no more than the reserved memory holds,
and all of them are written by decoding. -/
theorem decodeCommand_agrees (limit : Nat) (reserves : Nat → Bool)
    (hreserves : ∀ size, reserves size = true ↔ size ≤ limit) (encoded : Bytes) :
    (decodeCommand reserves encoded = .error (.allocation (capacity encoded.length)) ↔
      limit < capacity encoded.length) ∧
    (capacity encoded.length ≤ limit →
      ∀ buffer : Bytes, capacity encoded.length ≤ buffer.length →
        (∀ error, (decodeInto encoded buffer).1 = .error error →
          decodeCommand reserves encoded = .error (.encoding error)) ∧
        ∀ count, (decodeInto encoded buffer).1 = .ok count →
          decodeCommand reserves encoded = .ok ((decodeInto encoded buffer).2.take count)) ∧
    (∀ needed available,
      decodeCommand reserves encoded ≠ .error (.encoding (.bufferTooSmall needed available))) ∧
    ∀ command, decodeCommand reserves encoded = .ok command →
      command = bytesOfBlocks (symbolsOf encoded) ∧
      command.length ≤ capacity encoded.length ∧
      ∀ buffer : Bytes, capacity encoded.length ≤ buffer.length →
        decodeInto encoded buffer =
          (.ok command.length, command ++ buffer.drop command.length) := by
  by_cases hmemory : capacity encoded.length ≤ limit
  · have hcommand : decodeCommand reserves encoded = (decode encoded).mapError .encoding :=
      if_pos ((hreserves _).mpr hmemory)
    rw [hcommand]
    refine ⟨?_, fun _ buffer hroom => ?_, fun needed available => ?_, fun command hok => ?_⟩
    · refine iff_of_false (fun h => ?_) (Nat.not_lt.mpr hmemory)
      cases hdecode : decode encoded <;> rw [hdecode] at h <;> cases h
    · rw [decode_eq_decodeInto hroom]
      constructor
      · intro error herror
        rw [herror]
        rfl
      · intro count hcount
        rw [hcount]
        rfl
    · intro hsmall
      cases hdecode : decode encoded <;> rw [hdecode] at hsmall <;> cases hsmall
      exact decode_ne_bufferTooSmall encoded needed available hdecode
    · apply decode_eq_ok
      cases hdecode : decode encoded <;> rw [hdecode] at hok <;> cases hok
      rfl
  · have hcommand : decodeCommand reserves encoded =
        .error (.allocation (capacity encoded.length)) :=
      if_neg fun h => hmemory ((hreserves _).mp h)
    rw [hcommand]
    exact ⟨iff_of_true rfl (Nat.lt_of_not_le hmemory), fun h => absurd h hmemory, by simp, by simp⟩

/-- Five bytes of memory. Nine bytes of text would need six, which is the failure although the
length is wrong and the last byte too; four bytes of text need three, and decode to the front of any
buffer. -/
theorem decodeCommand_agrees_five :
    (∀ size, decide (size ≤ 5) = true ↔ size ≤ 5) ∧
      decodeCommand (fun size => decide (size ≤ 5)) (Bytes.ofString "TWFuTWFu!") =
        .error (.allocation 6) ∧
      (decodeInto (Bytes.ofString "TWE=") (List.replicate 7 0xaa)).1 = .ok 2 ∧
      decodeCommand (fun size => decide (size ≤ 5)) (Bytes.ofString "TWE=") =
        .ok ((decodeInto (Bytes.ofString "TWE=") (List.replicate 7 0xaa)).2.take 2) := by
  have hreserves : ∀ size, decide (size ≤ 5) = true ↔ size ≤ 5 := fun _ => decide_eq_true_iff
  have hcount : (decodeInto (Bytes.ofString "TWE=") (List.replicate 7 0xaa)).1 = .ok 2 := rfl
  refine ⟨hreserves, ?_, hcount, ?_⟩
  · exact (decodeCommand_agrees 5 _ hreserves (Bytes.ofString "TWFuTWFu!")).1.mpr (by decide)
  · have hagrees := (decodeCommand_agrees 5 _ hreserves (Bytes.ofString "TWE=")).2.1
    exact (hagrees (by decide) (List.replicate 7 0xaa) (by decide)).2 2 hcount

end Relocation.Base64
