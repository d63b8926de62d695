import Relocation.Proofs.Base64.Reading

/-!
# How decoding ends

The decoder stops at the first byte that it refuses, or reads the whole text and ends
inside a block or between two blocks. The relation `Ending` lists these three ways with
the part of the text that was read. Every text ends in one of them, so what is to be
shown of decoding can be shown for runs that refuse nothing.
-/

namespace Relocation.Base64

namespace State

variable {state final : State} {text : Bytes} {offset : Nat} {byte : UInt8}

/-- A text that can be read can be read up to any place. -/
theorem exists_read?_take (h : state.read? text = some final) (n : Nat) :
    ∃ middle, state.read? (text.take n) = some middle := by
  rw [← List.take_append_drop n text, read?_append] at h
  obtain ⟨middle, hmiddle, _⟩ := Option.bind_eq_some_iff.mp h
  exact ⟨middle, hmiddle⟩

/-- The text up to and with a byte is read by reading that byte last. -/
theorem read?_take_succ (hbyte : text[offset]? = some byte) :
    state.read? (text.take (offset + 1)) =
      (state.read? (text.take offset)).bind fun next => next.step? byte := by
  rw [List.take_add_one, hbyte, Option.toList_some, read?_append]
  congr 1
  funext next
  rw [read?_cons]
  cases next.step? byte <;> rfl

/-- The loop reads the whole text, or it reads what stands before some byte and refuses that
byte. -/
theorem scan_cases (state : State) (base : Nat) (text : Bytes) :
    (∃ final, state.read? text = some final ∧ state.scan base text = (final, none)) ∨
    (∃ offset byte stopped, text[offset]? = some byte ∧
      state.read? (text.take offset) = some stopped ∧ stopped.step? byte = none ∧
      state.scan base text = (stopped, some (base + offset, byte))) := by
  induction text generalizing state base with
  | nil => exact Or.inl ⟨state, rfl, rfl⟩
  | cons head rest ih =>
    cases hstep : state.step? head with
    | none => exact Or.inr ⟨0, head, state, rfl, rfl, hstep, by simp [scan, hstep]⟩
    | some next =>
      have hscan : state.scan base (head :: rest) = next.scan (base + 1) rest := by
        simp [scan, hstep]
      rw [hscan, read?_cons, hstep]
      rcases ih next (base + 1) with
        ⟨final, hread, hend⟩ | ⟨offset, byte, stopped, hbyte, hread, hrefused, hend⟩
      · exact Or.inl ⟨final, hread, hend⟩
      · refine Or.inr ⟨offset + 1, byte, stopped, hbyte, ?_, hrefused, ?_⟩
        · simp [read?_cons, hstep, hread]
        · rw [hend, Nat.add_assoc, Nat.add_comm 1]

end State

/-- Everything that decoding a text of the right length can come to. -/
inductive Ending (text : Bytes) : Outcome → Prop where
  | refused {offset : Nat} {byte : UInt8} {stopped : State} (hbyte : text[offset]? = some byte)
      (hread : ({} : State).read? (text.take offset) = some stopped)
      (hrefused : stopped.step? byte = none) :
      Ending text ⟨stopped.written.reverse, some (.invalidByte offset byte)⟩
  | incomplete {final : State} (hread : ({} : State).read? text = some final)
      (hinside : final.symbols ≠ 0) :
      Ending text ⟨final.written.reverse, some (.incompleteBlock final.symbols)⟩
  | complete {final : State} (hread : ({} : State).read? text = some final)
      (hbetween : final.symbols = 0) :
      Ending text ⟨final.written.reverse, none⟩

/-- Decoding a text comes to one of the listed endings. -/
theorem outcome_ending (text : Bytes) : Ending text (outcome text) := by
  rcases ({} : State).scan_cases 0 text with
    ⟨final, hread, hscan⟩ | ⟨offset, byte, stopped, hbyte, hread, hrefused, hscan⟩
  · by_cases hsymbols : final.symbols = 0
    · have hending := Ending.complete hread hsymbols
      simpa [outcome, hscan, hsymbols] using hending
    · have hending := Ending.incomplete hread hsymbols
      simpa [outcome, hscan, hsymbols] using hending
  · have hending := Ending.refused hbyte hread hrefused
    simpa [outcome, hscan] using hending

/-- The result of decoding into a buffer: the error, or else the number of bytes. -/
def Outcome.result (outcome : Outcome) : Except Error Nat :=
  match outcome.error? with
  | some error => .error error
  | none => .ok outcome.committed.length

/-- Decoding into a buffer when the length of the text and the size of the buffer are right. -/
theorem decodeInto_of_room {text buffer : Bytes} (hlength : text.length % 4 = 0)
    (hroom : capacity text.length ≤ buffer.length) :
    decodeInto text buffer =
      ((outcome text).result,
        (outcome text).committed ++ buffer.drop (outcome text).committed.length) := by
  rw [decodeInto, if_neg (fun h => h hlength), if_neg (Nat.not_lt.mpr hroom)]
  rfl

/-- An error is the result exactly if it is what decoding comes to. -/
@[simp] theorem Outcome.result_eq_error_iff {outcome : Outcome} {error : Error} :
    outcome.result = .error error ↔ outcome.error? = some error := by
  unfold Outcome.result
  cases outcome.error? <;> simp

/-- A number of bytes is the result exactly if there is no error and so many were committed. -/
@[simp] theorem Outcome.result_eq_ok_iff {outcome : Outcome} {count : Nat} :
    outcome.result = .ok count ↔ outcome.error? = none ∧ outcome.committed.length = count := by
  unfold Outcome.result
  cases outcome.error? <;> simp

/-- Decoding a text of the right length into a buffer of its own gives the bytes that are committed,
unless it fails somewhere. -/
theorem decode_of_length {text : Bytes} (hlength : text.length % 4 = 0) :
    decode text = (outcome text).result.map fun _ => (outcome text).committed := by
  rw [decode, decodeInto_of_room hlength (by simp)]
  cases herror : (outcome text).error? <;> simp [Outcome.result, herror, Except.map]

/-- A text of the wrong length is refused for it. -/
theorem decode_of_length_ne {text : Bytes} (hlength : text.length % 4 ≠ 0) :
    decode text = .error (.invalidLength text.length) := by
  simp [decode, decodeInto, hlength]

/-- A text decodes exactly if it has the right length and comes to no error, and it decodes to the
bytes that are committed. -/
theorem decode_eq_ok_iff {text decoded : Bytes} :
    decode text = .ok decoded ↔ text.length % 4 = 0 ∧ outcome text = ⟨decoded, none⟩ := by
  by_cases hlength : text.length % 4 = 0
  · rw [decode_of_length hlength]
    rcases outcome text with ⟨committed, _ | error⟩ <;> simp [Outcome.result, Except.map, hlength]
  · simp [decode_of_length_ne hlength, hlength]

/-- Decoding fails for the length of a text exactly if that is no multiple of four. -/
theorem decode_invalidLength_iff {text : Bytes} :
    (∃ length, decode text = .error (.invalidLength length)) ↔ text.length % 4 ≠ 0 := by
  constructor
  · rintro ⟨length, hdecode⟩ hlength
    have hending := outcome_ending text
    rw [decode_of_length hlength] at hdecode
    generalize outcome text = result at hending hdecode
    cases hending <;> simp [Outcome.result, Except.map] at hdecode
  · intro hlength
    exact ⟨text.length, decode_of_length_ne hlength⟩

end Relocation.Base64
