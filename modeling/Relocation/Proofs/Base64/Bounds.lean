import Relocation.Proofs.Base64.Canonical
import Relocation.Proofs.Base64.InPlace

/-!
# The bounds of decoding

The decoder that works on a buffer counts symbols and pads, shifts six bits at a time
through a word of 32 bits, and copies each block to a position in the buffer. None of
this goes too far. One invariant of the loop ties the bits of the block to its symbols,
the pads to the third symbol, and the bytes written to the bytes read: four symbols
were read for every three bytes, however many blanks stood between them. So no bit is
shifted out, no more pads are taken off than a block has bytes to spare, and every copy
fits into what the length of the text allows.
-/

namespace Relocation.Base64

/-- What holds whenever the loop is about to read the next byte, after `consumed` others: an
incomplete block has up to three symbols and only the bits of these, a pad in it is the third
symbol, and four symbols were read for every three bytes before the position. -/
structure InBounds (consumed : Nat) (block : UInt32) (symbols pads position : Nat) : Prop where
  symbols_le : symbols ≤ 3
  pads_le : pads ≤ 1
  pads_eq_zero : symbols ≠ 3 → pads = 0
  block_lt : block.toNat < 1 <<< (6 * symbols)
  position_le : 4 * position + 3 * symbols ≤ 3 * consumed

/-- Six bits more are 64 times as many numbers. -/
theorem shiftLeft_six_mul_succ (n : Nat) : 1 <<< (6 * (n + 1)) = (1 <<< (6 * n)) * 64 := by
  simp only [Nat.shiftLeft_eq, Nat.one_mul, Nat.mul_add, Nat.pow_add, Nat.mul_one, Nat.reducePow]

/-- The bits of three symbols leave room for those of a fourth. -/
theorem shiftLeft_six_mul_le {n : Nat} (h : n ≤ 3) : 1 <<< (6 * n) ≤ 262144 := by
  have hall : ∀ n ≤ 3, 1 <<< (6 * n) ≤ 262144 := by decide
  exact hall n h

/-- A letter carries six bits. -/
theorem toNat_lt_of_value? {byte value : UInt8} (h : value? byte = some value) :
    value.toNat < 64 :=
  UInt8.lt_iff_toNat_lt.mp (letter_of_value?_eq_some h).1

/-- The bits of an incomplete block are shifted without a loss, and with six more they are the bits
of one more symbol. -/
theorem toNat_shifted {block : UInt32} {symbols : Nat} {value : UInt8} (hsymbols : symbols ≤ 3)
    (hblock : block.toNat < 1 <<< (6 * symbols)) (hvalue : value.toNat < 64) :
    (block <<< 6 ||| value.toUInt32).toNat = block.toNat * 64 + value.toNat ∧
      (block <<< 6 ||| value.toUInt32).toNat < 1 <<< (6 * (symbols + 1)) := by
  have hle := shiftLeft_six_mul_le hsymbols
  have hshift := toNat_shiftLeft_or block value (by omega) hvalue
  rw [shiftLeft_six_mul_succ]
  omega

/-- The three bytes that are cut out of 24 bits are all of them. -/
theorem exists_blockBytes_eq {block : UInt32} (h : block.toNat < 16777216) :
    ∃ a b c : UInt8, blockBytes block = [a, b, c] ∧
      a.toNat * 65536 + b.toNat * 256 + c.toNat = block.toNat := by
  have hdigits : block.toNat = (UInt8.ofNat (block.toNat / 65536)).toNat * 65536 +
      (UInt8.ofNat (block.toNat / 256)).toNat * 256 + (UInt8.ofNat block.toNat).toNat := by
    simp only [UInt8.toNat_ofNat']
    omega
  exact ⟨_, _, _, blockBytes_eq hdigits, hdigits.symm⟩

namespace State

variable {state next : State} {byte value : UInt8} {consumed : Nat}

/-- Whether the decoder is within its bounds after so many bytes. -/
def Bounded (consumed : Nat) (state : State) : Prop :=
  InBounds consumed state.block state.symbols state.pads state.written.length

/-- The decoder is within its bounds before it has read anything. -/
theorem bounded_initial : ({} : State).Bounded 0 :=
  ⟨by decide, by decide, by decide, by decide, by decide⟩

/-- Six bits keep the decoder within its bounds if a pad in its block stands third or fourth. -/
theorem bounded_push (hsymbols : state.symbols ≤ 3)
    (hblock : state.block.toNat < 1 <<< (6 * state.symbols))
    (hwritten : 4 * state.written.length + 3 * state.symbols ≤ 3 * consumed)
    (hvalue : value.toNat < 64)
    (hpads : state.symbols ≠ 3 → state.pads ≤ 1 ∧ (0 < state.pads → state.symbols = 2)) :
    (state.push value).Bounded (consumed + 1) := by
  unfold push
  split
  · next hlast =>
    refine ⟨by simp, by simp, by simp, by simp, ?_⟩
    simp only [List.length_append, List.length_reverse, List.length_take, List.length_cons,
      List.length_nil]
    omega
  · next hinside =>
    obtain ⟨hle, hthird⟩ := hpads hinside
    refine ⟨?_, hle, ?_, (toNat_shifted hsymbols hblock hvalue).2, ?_⟩
    · simp only
      omega
    · simp only
      omega
    · simp only
      omega

/-- Every byte that is read keeps the decoder within its bounds. -/
theorem Bounded.step? (h : state.Bounded consumed) (hstep : state.step? byte = some next) :
    next.Bounded (consumed + 1) := by
  obtain ⟨hsymbols, hle, hzero, hblock, hposition⟩ := h
  rcases step?_cases hstep with
    ⟨_, rfl⟩ | ⟨value, hvalue, hpads, _, rfl⟩ | ⟨_, hplace, rfl⟩
  · exact ⟨hsymbols, hle, hzero, hblock, by omega⟩
  · exact bounded_push hsymbols hblock hposition (toNat_lt_of_value? hvalue) (by omega)
  · refine bounded_push hsymbols hblock hposition (by decide) fun hinside => ?_
    have hnone := hzero hinside
    change state.symbols ≠ 3 at hinside
    change state.pads + 1 ≤ 1 ∧ (0 < state.pads + 1 → state.symbols = 2)
    omega

/-- Whatever is read keeps the decoder within its bounds. -/
theorem Bounded.read? {text : Bytes} {final : State} (h : state.Bounded consumed)
    (hread : state.read? text = some final) : final.Bounded (consumed + text.length) := by
  induction text generalizing state consumed with
  | nil =>
    obtain rfl := Option.some.inj hread
    exact h
  | cons byte rest ih =>
    obtain ⟨next, hstep, hrest⟩ := Option.bind_eq_some_iff.mp hread
    have hfinal := ih (h.step? hstep) hrest
    rwa [List.length_cons, Nat.add_comm rest.length, ← Nat.add_assoc]

end State

namespace Writer

/-- Whether the decoder that works on a buffer is within its bounds after so many bytes. -/
def Bounded (consumed : Nat) (writer : Writer) : Prop :=
  InBounds consumed writer.block writer.symbols writer.pads writer.position

/-- The six bits that a byte puts into the block, and the pads of the block with it: a letter has
bits of its own and no pad before it, and a pad has zero bits and two symbols before it. -/
inductive Takes (writer : Writer) : UInt8 → UInt8 → Nat → Prop where
  | letter {byte value : UInt8} (hvalue : value? byte = some value) (hpads : writer.pads = 0)
      (hopen : writer.finished = false) : Takes writer byte value writer.pads
  | pad (hplace : 2 ≤ writer.symbols) : Takes writer padByte 0 (writer.pads + 1)

/-- Whether six bits can be put into the block, which then has so many pads. The shift loses no bit.
If the block is complete, its bits make three bytes, of which one at least and three at most are
kept, and the copy of these ends within the limit. -/
structure Fits (limit : Nat) (writer : Writer) (value : UInt8) (pads : Nat) : Prop where
  toNat_block : (writer.block <<< 6 ||| value.toUInt32).toNat =
    writer.block.toNat * 64 + value.toNat
  block_lt : (writer.block <<< 6 ||| value.toUInt32).toNat < 1 <<< (6 * (writer.symbols + 1))
  bytes_eq : writer.symbols = 3 → ∃ a b c : UInt8,
    blockBytes (writer.block <<< 6 ||| value.toUInt32) = [a, b, c] ∧
      a.toNat * 65536 + b.toNat * 256 + c.toNat =
        (writer.block <<< 6 ||| value.toUInt32).toNat
  pads_le : writer.symbols = 3 → pads ≤ 2 ∧ 3 - pads ∈ [1, 2, 3]
  position_le : writer.symbols = 3 → writer.position + (3 - pads) ≤ limit

variable {writer : Writer} {consumed limit : Nat} {byte value : UInt8} {pads : Nat}

/-- What a byte puts into the block of a decoder within its bounds fits into three bytes for every
four that were read, this one counted. -/
theorem Bounded.fits (h : writer.Bounded consumed) (htakes : writer.Takes byte value pads)
    (hlimit : 3 * (consumed + 1) ≤ 4 * limit) : writer.Fits limit value pads := by
  obtain ⟨hsymbols, hle, hzero, hblock, hposition⟩ := h
  have hvalue : value.toNat < 64 := by
    cases htakes with
    | letter hvalue _ _ => exact toNat_lt_of_value? hvalue
    | pad _ => decide
  have hpads : pads ≤ 2 := by
    cases htakes with
    | letter _ hpads _ => omega
    | pad _ => omega
  obtain ⟨hshift, hlt⟩ := toNat_shifted hsymbols hblock hvalue
  refine ⟨hshift, hlt, fun hlast => ?_, fun hlast => ⟨hpads, ?_⟩, fun hlast => by omega⟩
  · rw [hlast] at hlt
    exact exists_blockBytes_eq hlt
  · simp only [List.mem_cons, List.not_mem_nil, or_false]
    omega

end Writer

variable {text buffer part : Bytes}

/-- A decoder that works on a buffer with room stands as the other one does. -/
theorem exists_read?_of_scan? {writer : Writer} (hroom : capacity part.length ≤ buffer.length)
    (hscan : ({ buffer } : Writer).scan? 0 part = some (writer, none)) :
    ∃ state, ({} : State).read? part = some state ∧ writer = state.inBuffer buffer := by
  rw [scan?_of_room hroom] at hscan
  obtain ⟨hwriter, hrefused⟩ := Prod.mk.inj (Option.some.inj hscan)
  refine ⟨(({} : State).scan 0 part).1, (State.scan_eq_none_iff 0).mp ?_, hwriter.symm⟩
  exact Prod.ext rfl hrefused

/-- One turn of the loop: a blank is skipped, and any other byte puts into the block what fits into
the bytes that the text allows. -/
theorem State.turn_inBuffer {state next : State} {byte : UInt8} {consumed : Nat}
    (h : state.Bounded consumed) (hstep : state.step? byte = some next)
    (hlength : text.length % 4 = 0) (hroom : capacity text.length ≤ buffer.length)
    (hconsumed : consumed + 1 ≤ text.length) :
    (isBlank byte = true ∧ next.inBuffer buffer = state.inBuffer buffer) ∨
    ∃ value pads, (state.inBuffer buffer).Takes byte value pads ∧
      (state.inBuffer buffer).Fits (capacity text.length) value pads ∧
      ({ state.inBuffer buffer with pads } : Writer).push? value = some (next.inBuffer buffer) := by
  have hlimit : 3 * (consumed + 1) ≤ 4 * capacity text.length := by
    rw [capacity]
    omega
  have hfits : state.symbols = 3 → state.written.length + 3 ≤ buffer.length := by
    intro hlast
    have hposition := h.position_le
    omega
  have hwriter : (state.inBuffer buffer).Bounded consumed := h
  rcases step?_cases hstep with
    ⟨hblank, rfl⟩ | ⟨value, hvalue, hpads, hopen, rfl⟩ | ⟨rfl, hplace, rfl⟩
  · exact Or.inl ⟨hblank, rfl⟩
  · have htakes : (state.inBuffer buffer).Takes byte value state.pads :=
      .letter hvalue hpads hopen
    exact Or.inr ⟨value, state.pads, htakes, hwriter.fits htakes hlimit,
      push?_inBuffer value hfits⟩
  · have htakes : (state.inBuffer buffer).Takes padByte 0 (state.pads + 1) := .pad hplace
    exact Or.inr ⟨0, state.pads + 1, htakes, hwriter.fits htakes hlimit,
      @push?_inBuffer { state with pads := state.pads + 1 } buffer 0 hfits⟩

/-- The size that a buffer needs is found without an overflow, however large machine words are. -/
theorem toNat_capacity (length : USize) : (length / 4 * 3).toNat = capacity length.toNat := by
  have hfour : (4 : USize).toNat = 4 :=
    USize.toNat_ofNat_of_lt (Nat.lt_of_lt_of_le (by decide) USize.le_size)
  have hthree : (3 : USize).toNat = 3 :=
    USize.toNat_ofNat_of_lt (Nat.lt_of_lt_of_le (by decide) USize.le_size)
  have hle : length.toNat / 4 * 3 ≤ length.toNat := by omega
  rw [USize.toNat_mul, USize.toNat_div, hfour, hthree, capacity]
  exact Nat.mod_eq_of_lt (Nat.lt_of_le_of_lt hle length.toNat_lt_two_pow_numBits)

/-- A text that is accepted and has neither pads nor blanks decodes to as many bytes as its length
allows. -/
theorem Accepted.length_committed (h : Accepted text) (hpads : padByte ∉ text)
    (hblanks : ∀ byte ∈ text, isBlank byte = false) :
    (outcome text).committed.length = capacity text.length := by
  have hsymbols : symbolsOf text = text := by
    rw [symbolsOf, List.filter_eq_self]
    exact fun byte hmem => by simp [hblanks byte hmem]
  obtain ⟨_, final, hread, hbetween⟩ := accepted_iff.mp h
  have hcount := h.padded.length_bytesOfBlocks
  have hcommitted : (outcome text).committed = bytesOfBlocks text := by
    rw [outcome_of_read? hread hbetween, written_eq_bytesOfBlocks hread, hsymbols]
  rw [hsymbols, List.count_eq_zero.mpr hpads] at hcount
  rw [hcommitted, capacity]
  omega

/-- Decoding in place stays within its bounds. On a text of the right length and a buffer with room,
no copy of the loop fails to fit. Whenever the loop is about to read a byte, the counts and the bits
of the block are within their bounds; and a turn of the loop either skips a blank, or puts six bits
into the block without a loss, and copies a complete block to where it ends within the bytes that
the text allows. The number of these is found without an overflow, and a text that is accepted and
has neither pads nor blanks uses all of them. -/
theorem decodeInPlace?_in_bounds (hlength : text.length % 4 = 0)
    (hroom : capacity text.length ≤ buffer.length) :
    decodeInPlace? text buffer = some (decodeInto text buffer) ∧
    (∀ part, part <+: text →
      ∃ writer refused, ({ buffer } : Writer).scan? 0 part = some (writer, refused)) ∧
    (∀ part writer, part <+: text →
      ({ buffer } : Writer).scan? 0 part = some (writer, none) → writer.Bounded part.length) ∧
    (∀ part byte writer next, part ++ [byte] <+: text →
      ({ buffer } : Writer).scan? 0 part = some (writer, none) →
      ({ buffer } : Writer).scan? 0 (part ++ [byte]) = some (next, none) →
      (isBlank byte = true ∧ next = writer) ∨
      ∃ value pads, writer.Takes byte value pads ∧
        writer.Fits (capacity text.length) value pads ∧
        ({ writer with pads } : Writer).push? value = some next) ∧
    (∀ length : USize, (length / 4 * 3).toNat = capacity length.toNat) ∧
    (padByte ∉ text → (∀ byte ∈ text, isBlank byte = false) →
      ∀ count, (decodeInto text buffer).1 = .ok count → count = capacity text.length) := by
  have hpartRoom {part : Bytes} (hpart : part <+: text) :
      capacity part.length ≤ buffer.length := by
    have hle := hpart.length_le
    simp only [capacity] at hroom ⊢
    omega
  refine ⟨decodeInPlace?_eq text buffer, fun part hpart => ?_, fun part writer hpart hscan => ?_,
    fun part byte writer next hpart hscan hnext => ?_, toNat_capacity,
    fun hpads hblanks count hcount => ?_⟩
  · exact ⟨_, _, scan?_of_room (hpartRoom hpart)⟩
  · obtain ⟨state, hread, rfl⟩ := exists_read?_of_scan? (hpartRoom hpart) hscan
    have hbounded := State.bounded_initial.read? hread
    rwa [Nat.zero_add] at hbounded
  · have hbefore : part <+: text := (List.prefix_append part [byte]).trans hpart
    obtain ⟨state, hread, rfl⟩ := exists_read?_of_scan? (hpartRoom hbefore) hscan
    obtain ⟨after, hafter, rfl⟩ := exists_read?_of_scan? (hpartRoom hpart) hnext
    have hbounded := State.bounded_initial.read? hread
    have hconsumed := hpart.length_le
    rw [List.length_append, List.length_singleton] at hconsumed
    rw [State.read?_append, hread, Option.bind_some, State.read?_cons] at hafter
    obtain ⟨final, hstep, hfinal⟩ := Option.bind_eq_some_iff.mp hafter
    obtain rfl := Option.some.inj hfinal
    exact State.turn_inBuffer hbounded hstep hlength hroom (by omega)
  · obtain ⟨_, _, herror, hlast⟩ := decodeInto_eq_ok_iff.mp hcount
    have haccepted : Accepted text := ⟨buffer, count, hcount⟩
    rw [← hlast, haccepted.length_committed hpads hblanks]

/-- The last pad of a text, when the block with it is copied to the last byte that the text allows
but two, and a text of letters that uses all the bytes it allows. -/
theorem decodeInPlace?_in_bounds_filled :
    capacity 8 ≤ 6 ∧
      (∃ writer next value pads,
        ({ buffer := List.replicate 6 0xaa } : Writer).scan? 0 [84, 87, 70, 117, 84, 81, 61] =
          some (writer, none) ∧
        writer.symbols = 3 ∧ writer.Bounded 7 ∧ writer.Takes 61 value pads ∧
        writer.Fits 6 value pads ∧ ({ writer with pads } : Writer).push? value = some next) ∧
      (decodeInto [84, 87, 70, 117, 84, 87, 70, 117] (List.replicate 6 0xaa)).1 = .ok 6 ∧
      6 = capacity 8 := by
  obtain ⟨before, hscan, hlast⟩ : ∃ before : Writer,
      ({ buffer := List.replicate 6 0xaa } : Writer).scan? 0 [84, 87, 70, 117, 84, 81, 61] =
        some (before, none) ∧ before.symbols = 3 := ⟨_, rfl, rfl⟩
  obtain ⟨after, hnext⟩ : ∃ after : Writer,
      ({ buffer := List.replicate 6 0xaa } : Writer).scan? 0 [84, 87, 70, 117, 84, 81, 61, 61] =
        some (after, none) := ⟨_, rfl⟩
  obtain ⟨_, _, hbounded, hturn, _⟩ := @decodeInPlace?_in_bounds
    [84, 87, 70, 117, 84, 81, 61, 61] (List.replicate 6 0xaa) (by decide) (by decide)
  obtain ⟨_, _, _, _, _, hfilled⟩ := @decodeInPlace?_in_bounds
    [84, 87, 70, 117, 84, 87, 70, 117] (List.replicate 6 0xaa) (by decide) (by decide)
  have hletters : (decodeInto [84, 87, 70, 117, 84, 87, 70, 117] (List.replicate 6 0xaa)).1 =
      .ok 6 := rfl
  refine ⟨by decide, ?_, hletters, hfilled (by decide) (by simp [isBlank]) 6 hletters⟩
  rcases hturn [84, 87, 70, 117, 84, 81, 61] 61 before after (by decide) hscan hnext with
    ⟨hblank, _⟩ | ⟨value, pads, htakes, hfits, hpush⟩
  · cases hblank
  · exact ⟨before, after, value, pads, hscan, hlast, hbounded _ before (by decide) hscan, htakes,
      hfits, hpush⟩

end Relocation.Base64
