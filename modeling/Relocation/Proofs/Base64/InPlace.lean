import Relocation.Proofs.Base64.Blocks

/-!
# Decoding in place

The decoder keeps the bytes that it wrote apart from the buffer. Here the same loop
works on the buffer itself: a complete block is copied behind the bytes of the blocks
before it, and a copy that does not fit would end the loop. The two loops go through
the same states, and with room for what the text may stand for no copy fails to fit.
So the whole effect on the buffer is known at every moment: new bytes at its front, and
behind them what was there before.
-/

namespace Relocation.Base64

/-- A buffer with bytes copied to a position, if they fit there. -/
def overwrite? (buffer : Bytes) (position : Nat) (bytes : Bytes) : Option Bytes :=
  if position + bytes.length ≤ buffer.length then
    some (buffer.take position ++ bytes ++ buffer.drop (position + bytes.length))
  else none

/-- Where a decoder stands that works on the buffer itself: its block, and the position in the
buffer behind the bytes written so far. -/
structure Writer where
  block : UInt32 := 0
  symbols : Nat := 0
  pads : Nat := 0
  finished : Bool := false
  position : Nat := 0
  buffer : Bytes

namespace Writer

/-- Put six bits at the end of the current block, and copy the block into the buffer if it is
complete. There is no result if it does not fit. -/
def push? (writer : Writer) (value : UInt8) : Option Writer :=
  let block := writer.block <<< 6 ||| value.toUInt32
  if writer.symbols = 3 then
    let bytes := [(block >>> 16).toUInt8, (block >>> 8).toUInt8, block.toUInt8]
    let keep := 3 - writer.pads
    (overwrite? writer.buffer writer.position (bytes.take keep)).map fun buffer =>
      { finished := decide (0 < writer.pads), position := writer.position + keep, buffer }
  else
    some { writer with block := block, symbols := writer.symbols + 1 }

/-- Read bytes up to the first that may not stand where it does, and tell that byte with its
offset. There is no result if a block does not fit into the buffer. -/
def scan? (writer : Writer) (offset : Nat) : Bytes → Option (Writer × Option (Nat × UInt8))
  | [] => some (writer, none)
  | byte :: rest =>
    match Symbol.ofByte byte with
    | .blank => writer.scan? (offset + 1) rest
    | .foreign => some (writer, some (offset, byte))
    | .pad =>
      if writer.symbols < 2 then some (writer, some (offset, byte))
      else
        ({ writer with pads := writer.pads + 1 }.push? 0).bind fun next =>
          next.scan? (offset + 1) rest
    | .letter value =>
      if 0 < writer.pads ∨ writer.finished then some (writer, some (offset, byte))
      else (writer.push? value).bind fun next => next.scan? (offset + 1) rest

end Writer

/-- Decode a text in a buffer: the number of bytes written, or the error, and the buffer
afterwards. There is no result if a block does not fit into the buffer. -/
def decodeInPlace? (text buffer : Bytes) : Option (Except Error Nat × Bytes) :=
  if text.length % 4 ≠ 0 then
    some (.error (.invalidLength text.length), buffer)
  else if buffer.length < capacity text.length then
    some (.error (.bufferTooSmall (capacity text.length) buffer.length), buffer)
  else
    (({ buffer } : Writer).scan? 0 text).map fun (writer, refused) =>
      let result := match refused with
        | some (offset, byte) => .error (.invalidByte offset byte)
        | none =>
          if writer.symbols = 0 then .ok writer.position
          else .error (.incompleteBlock writer.symbols)
      (result, writer.buffer)

/-- Bytes are copied behind the front of a buffer. -/
theorem overwrite?_behind {front bytes buffer : Bytes}
    (hroom : front.length + bytes.length ≤ buffer.length) :
    overwrite? (front ++ buffer.drop front.length) front.length bytes =
      some (front ++ bytes ++ buffer.drop (front.length + bytes.length)) := by
  rw [overwrite?, if_pos (by simp; omega), List.take_left, List.drop_append]
  simp

namespace State

variable {state : State} {buffer : Bytes} {value : UInt8}

/-- A decoder as it stands when it works on a buffer. -/
def inBuffer (state : State) (buffer : Bytes) : Writer where
  block := state.block
  symbols := state.symbols
  pads := state.pads
  finished := state.finished
  position := state.written.length
  buffer := state.written.reverse ++ buffer.drop state.written.length

/-- A complete block is copied behind the bytes written before it, if it fits. -/
theorem push?_inBuffer_of_last (value : UInt8) (hlast : state.symbols = 3)
    (hfits : state.written.length + 3 ≤ buffer.length) :
    (state.inBuffer buffer).push? value = some ((state.push value).inBuffer buffer) := by
  let block := state.block <<< 6 ||| value.toUInt32
  let kept := ([(block >>> 16).toUInt8, (block >>> 8).toUInt8, block.toUInt8]).take
    (3 - state.pads)
  have hkept : kept.length = 3 - state.pads := by simp [kept]
  have hpush : state.push value =
      { finished := decide (0 < state.pads), written := kept.reverse ++ state.written } :=
    if_pos hlast
  have hcopy : (state.inBuffer buffer).push? value =
      (overwrite? (state.inBuffer buffer).buffer state.written.length kept).map fun buffer =>
        { finished := decide (0 < state.pads)
          position := state.written.length + (3 - state.pads), buffer } :=
    if_pos hlast
  have hroom : state.written.reverse.length + kept.length ≤ buffer.length := by
    rw [List.length_reverse, hkept]
    omega
  have hoverwrite := overwrite?_behind hroom
  rw [List.length_reverse] at hoverwrite
  rw [hcopy, inBuffer, hoverwrite, hpush]
  simp [inBuffer, hkept, Nat.add_comm]

/-- A symbol does the same in the buffer, if a block would fit. -/
theorem push?_inBuffer (value : UInt8)
    (hfits : state.symbols = 3 → state.written.length + 3 ≤ buffer.length) :
    (state.inBuffer buffer).push? value = some ((state.push value).inBuffer buffer) := by
  by_cases hlast : state.symbols = 3
  · exact push?_inBuffer_of_last value hlast (hfits hlast)
  · simp [Writer.push?, push, inBuffer, hlast]

/-- After a symbol there is still room for the symbols to come. -/
theorem room_push {n : Nat} (hsymbols : state.symbols < 4)
    (hroom : state.written.length + (state.symbols + (n + 1)) / 4 * 3 ≤ buffer.length) :
    (state.push value).written.length + ((state.push value).symbols + n) / 4 * 3 ≤
      buffer.length := by
  rw [symbols_push hsymbols]
  by_cases hlast : state.symbols = 3
  · have hwritten : (state.push value).written.length ≤ 3 + state.written.length := by
      simp [push, hlast]
    rw [hlast] at hroom ⊢
    omega
  · rw [written_push value hlast]
    omega

/-- The loop that works on the buffer goes through the same states, as long as there is room for
what the text may stand for. -/
theorem scan?_inBuffer {text : Bytes} (base : Nat) (hsymbols : state.symbols < 4)
    (hroom : state.written.length + (state.symbols + text.length) / 4 * 3 ≤ buffer.length) :
    (state.inBuffer buffer).scan? base text =
      some ((state.scan base text).1.inBuffer buffer, (state.scan base text).2) := by
  induction text generalizing state base with
  | nil => rfl
  | cons byte rest ih =>
    rw [List.length_cons] at hroom
    have hsymbol (before : State) (value : UInt8) (hlt : before.symbols < 4)
        (hkeeps : before.written.length + (before.symbols + (rest.length + 1)) / 4 * 3 ≤
          buffer.length) :
        ((before.inBuffer buffer).push? value).bind (fun writer => writer.scan? (base + 1) rest) =
          some (((before.push value).scan (base + 1) rest).1.inBuffer buffer,
            ((before.push value).scan (base + 1) rest).2) := by
      rw [push?_inBuffer value (fun hlast => by rw [hlast] at hkeeps; omega), Option.bind_some]
      exact ih (base + 1) (by rw [symbols_push hlt]; omega) (room_push hlt hkeeps)
    cases hbyte : Symbol.ofByte byte with
    | blank =>
      simp only [Writer.scan?, scan, step?, hbyte]
      exact ih (base + 1) hsymbols (by omega)
    | foreign => simp only [Writer.scan?, scan, step?, hbyte]
    | pad =>
      simp only [Writer.scan?, scan, step?, hbyte]
      by_cases hplace : state.symbols < 2
      · have hwriter : (state.inBuffer buffer).symbols < 2 := hplace
        rw [if_pos hplace, if_pos hwriter]
      · have hwriter : ¬ (state.inBuffer buffer).symbols < 2 := hplace
        rw [if_neg hplace, if_neg hwriter]
        exact hsymbol { state with pads := state.pads + 1 } 0 hsymbols hroom
    | letter value =>
      simp only [Writer.scan?, scan, step?, hbyte]
      by_cases hclosed : 0 < state.pads ∨ state.finished
      · have hwriter : 0 < (state.inBuffer buffer).pads ∨ (state.inBuffer buffer).finished :=
          hclosed
        rw [if_pos hclosed, if_pos hwriter]
      · have hwriter : ¬ (0 < (state.inBuffer buffer).pads ∨ (state.inBuffer buffer).finished) :=
          hclosed
        rw [if_neg hclosed, if_neg hwriter]
        exact hsymbol state value hsymbols hroom

/-- What was written stays, whatever is read after it. -/
theorem written_suffix_push (state : State) (value : UInt8) :
    state.written <:+ (state.push value).written := by
  unfold push
  split
  · exact List.suffix_append ..
  · exact List.suffix_rfl

/-- A byte that is read leaves what was written. -/
theorem written_suffix_of_step? {next : State} {byte : UInt8}
    (h : state.step? byte = some next) : state.written <:+ next.written := by
  rcases step?_cases h with ⟨_, rfl⟩ | ⟨value, _, _, _, rfl⟩ | ⟨_, _, rfl⟩
  · exact List.suffix_rfl
  · exact written_suffix_push state value
  · exact written_suffix_push { state with pads := state.pads + 1 } 0

/-- A longer text writes what its beginning writes, and perhaps more. -/
theorem written_suffix_scan (state : State) (base : Nat) (first second : Bytes) :
    (state.scan base first).1.written <:+ (state.scan base (first ++ second)).1.written := by
  induction first generalizing state base with
  | nil =>
    induction second generalizing state base with
    | nil => exact List.suffix_rfl
    | cons byte rest ih =>
      simp only [List.nil_append, scan]
      cases hstep : state.step? byte with
      | none => exact List.suffix_rfl
      | some next => exact (written_suffix_of_step? hstep).trans (ih next (base + 1))
  | cons byte rest ih =>
    simp only [List.cons_append, scan]
    cases state.step? byte with
    | none => exact List.suffix_rfl
    | some next => exact ih next (base + 1)

end State

/-- The loop that works on the buffer, from its beginning and with room. -/
theorem scan?_of_room {text buffer : Bytes} (hroom : capacity text.length ≤ buffer.length) :
    ({ buffer } : Writer).scan? 0 text =
      some ((({} : State).scan 0 text).1.inBuffer buffer, (({} : State).scan 0 text).2) := by
  have hstart : ({} : State).written.length + (({} : State).symbols + text.length) / 4 * 3 ≤
      buffer.length := by
    simpa [capacity] using hroom
  exact State.scan?_inBuffer 0 (by decide) hstart

/-- Decoding in place has the same result and the same effect on the buffer, and every copy
fits. -/
theorem decodeInPlace?_eq (text buffer : Bytes) :
    decodeInPlace? text buffer = some (decodeInto text buffer) := by
  by_cases hlength : text.length % 4 = 0
  · by_cases hroom : capacity text.length ≤ buffer.length
    · rw [decodeInPlace?, if_neg (fun h => h hlength), if_neg (Nat.not_lt.mpr hroom),
        scan?_of_room hroom, decodeInto_of_room hlength hroom, Outcome.result, outcome]
      rcases ({} : State).scan 0 text with ⟨final, _ | ⟨offset, byte⟩⟩
      · by_cases hbetween : final.symbols = 0 <;> simp [State.inBuffer, hbetween]
      · simp [State.inBuffer]
    · simp [decodeInPlace?, decodeInto, hlength, Nat.not_le.mp hroom]
  · simp [decodeInPlace?, decodeInto, hlength]

/-- The part of a text that is read is no longer than the text. -/
theorem length_readPart_le (text : Bytes) (result : Except Error Nat) :
    (readPart text result).length ≤ text.length := by
  unfold readPart
  split
  · exact List.length_take_le' ..
  · exact Nat.le_refl _

/-- Whole blocks stand for three bytes at most. -/
theorem length_bytesOfBlocks_le (text : Bytes) :
    (bytesOfBlocks text).length ≤ capacity text.length := by
  fun_induction bytesOfBlocks text with
  | case1 a b c d rest ih =>
    have hblock : (bytesOfBlock a b c d).length ≤ 3 := by simp [bytesOfBlock, threeBytes]
    simp only [List.length_append, List.length_cons, capacity] at ih ⊢
    omega
  | case2 => simp

/-- No text commits more bytes than its length allows. -/
theorem length_committed_le (text : Bytes) :
    (outcome text).committed.length ≤ capacity text.length := by
  have hblocks := length_bytesOfBlocks_le (symbolsOf (readPart text (outcome text).result))
  have hsymbols : (symbolsOf (readPart text (outcome text).result)).length ≤ text.length :=
    Nat.le_trans (List.length_filter_le ..) (length_readPart_le ..)
  rw [outcome_committed]
  unfold capacity at hblocks ⊢
  omega

/-- At every moment of a loop with room for the text, the buffer behind the bytes that the text
commits is what it was. -/
theorem scan?_part_frame {text buffer part : Bytes} (hroom : capacity text.length ≤ buffer.length)
    (hpart : part <+: text) :
    ∃ writer refused, ({ buffer } : Writer).scan? 0 part = some (writer, refused) ∧
      ∀ i, (outcome text).committed.length ≤ i → writer.buffer[i]? = buffer[i]? := by
  obtain ⟨rest, rfl⟩ := hpart
  have hpartRoom : capacity part.length ≤ buffer.length := by
    simp only [capacity, List.length_append] at hroom ⊢
    omega
  refine ⟨_, _, scan?_of_room hpartRoom, fun i hi => ?_⟩
  have hle : (({} : State).scan 0 part).1.written.length ≤ i := by
    have hcommitted : (outcome (part ++ rest)).committed =
        (({} : State).scan 0 (part ++ rest)).1.written.reverse := rfl
    rw [hcommitted, List.length_reverse] at hi
    exact Nat.le_trans (State.written_suffix_scan {} 0 part rest).length_le hi
  rw [State.inBuffer, List.getElem?_append_right (by simpa using hle), List.getElem?_drop,
    List.length_reverse, Nat.add_sub_cancel' hle]

/-- The effect of decoding on the buffer. A text of the wrong length, and else a buffer without
room, are found out before anything is written. Otherwise the result depends on the text alone, and
the buffer begins with the bytes of the whole blocks that were read, behind which it is what it was;
the result of success is their number. The decoder that works on the buffer itself does the same,
every block fits where it is copied, and at no moment is a byte behind those bytes another one. -/
theorem decodeInto_effect (text buffer : Bytes) :
    decodeInPlace? text buffer = some (decodeInto text buffer) ∧
    (text.length % 4 ≠ 0 →
      decodeInto text buffer = (.error (.invalidLength text.length), buffer)) ∧
    (text.length % 4 = 0 → buffer.length < capacity text.length →
      decodeInto text buffer =
        (.error (.bufferTooSmall (capacity text.length) buffer.length), buffer)) ∧
    (text.length % 4 = 0 → capacity text.length ≤ buffer.length →
      ∃ (result : Except Error Nat) (committed : Bytes),
        (∀ other : Bytes, capacity text.length ≤ other.length →
          decodeInto text other = (result, committed ++ other.drop committed.length)) ∧
        committed = bytesOfBlocks (symbolsOf (readPart text result)) ∧
        committed.length ≤ capacity text.length ∧
        (∀ count, result = .ok count → count = committed.length) ∧
        ∀ part, part <+: text → ∃ writer refused,
          ({ buffer } : Writer).scan? 0 part = some (writer, refused) ∧
            ∀ i, committed.length ≤ i → writer.buffer[i]? = buffer[i]?) := by
  refine ⟨decodeInPlace?_eq text buffer, fun hlength => ?_, fun hlength hsmall => ?_,
    fun hlength hroom => ?_⟩
  · rw [decodeInto, if_pos hlength]
  · rw [decodeInto, if_neg (fun h => h hlength), if_pos hsmall]
  · refine ⟨(outcome text).result, (outcome text).committed, fun other hother => ?_,
      outcome_committed text, length_committed_le text, fun count hcount => ?_,
      fun part hpart => scan?_part_frame hroom hpart⟩
    · exact decodeInto_of_room hlength hother
    · exact (Outcome.result_eq_ok_iff.mp hcount).2.symm

/-- A letter behind a padded block, when two blocks have been written. -/
theorem decodeInto_effect_refused :
    capacity 12 ≤ 10 ∧
      decodeInPlace? (Bytes.ofString "TWFuTQ==TWFu") (List.replicate 10 0xaa) =
        some (.error (.invalidByte 8 84), [77, 97, 110, 77] ++ List.replicate 6 0xaa) :=
  ⟨by decide, (decodeInto_effect (Bytes.ofString "TWFuTQ==TWFu") (List.replicate 10 0xaa)).1⟩

end Relocation.Base64
