import Relocation.Proofs.Base64.Alphabet

/-!
# Reading encoded text

The decoder's loop reads a text byte by byte and stops at the first byte that it
refuses. Here the loop is cut into runs that refuse nothing, which can be joined, and
from which blanks can be left out. One lemma says everything that a single byte can
do. From it follows what a whole block does to a decoder that stands between two
blocks, with and without pads.
-/

namespace Relocation.Base64

namespace State

/-- Read a whole text, unless a byte of it may not stand where it does. -/
def read? (state : State) (text : Bytes) : Option State :=
  text.foldlM step? state

/-- Nothing is done for the empty text. -/
@[simp] theorem read?_nil (state : State) : state.read? [] = some state := rfl

/-- The first byte of a text is read before the others. -/
theorem read?_cons (state : State) (byte : UInt8) (rest : Bytes) :
    state.read? (byte :: rest) = (state.step? byte).bind (fun next => next.read? rest) := rfl

/-- Of a joined text the first part is read before the second. -/
theorem read?_append (state : State) (first second : Bytes) :
    state.read? (first ++ second) = (state.read? first).bind (fun next => next.read? second) :=
  List.foldlM_append ..

/-- Blanks leave the decoder where it is. -/
theorem step?_of_blank (state : State) {byte : UInt8} (h : isBlank byte = true) :
    state.step? byte = some state := by
  simp only [step?, Symbol.ofByte_eq_blank_iff.mpr h]

/-- Letters are put into the block, unless pads came before them. -/
theorem step?_of_letter (state : State) {byte value : UInt8} (h : value? byte = some value) :
    state.step? byte =
      if 0 < state.pads ∨ state.finished then none else some (state.push value) := by
  simp only [step?, Symbol.ofByte_eq_letter_iff.mpr h]

/-- Pads stand for zero bits, and need two symbols of their block before them. -/
theorem step?_padByte (state : State) :
    state.step? padByte =
      if state.symbols < 2 then none
      else some ({ state with pads := state.pads + 1 }.push 0) := by
  simp only [step?, Symbol.ofByte_eq_pad_iff.mpr rfl]

/-- All that reading a byte can do: skip a blank, take a letter of the alphabet where no pad came
before, or take a pad after two symbols of the block. -/
theorem step?_cases {state next : State} {byte : UInt8} (h : state.step? byte = some next) :
    (isBlank byte = true ∧ next = state) ∨
    (∃ value, value? byte = some value ∧ state.pads = 0 ∧ state.finished = false ∧
      next = state.push value) ∨
    (byte = padByte ∧ 2 ≤ state.symbols ∧
      next = { state with pads := state.pads + 1 }.push 0) := by
  cases hsymbol : Symbol.ofByte byte with
  | blank =>
    have hblank := Symbol.ofByte_eq_blank_iff.mp hsymbol
    rw [step?_of_blank state hblank] at h
    exact Or.inl ⟨hblank, (Option.some.inj h).symm⟩
  | letter value =>
    have hvalue := Symbol.ofByte_eq_letter_iff.mp hsymbol
    rw [step?_of_letter state hvalue] at h
    split at h
    · cases h
    · next hopen =>
      rw [not_or] at hopen
      exact Or.inr (Or.inl ⟨value, hvalue, by omega, by simpa using hopen.2,
        (Option.some.inj h).symm⟩)
  | pad =>
    obtain rfl := Symbol.ofByte_eq_pad_iff.mp hsymbol
    rw [step?_padByte] at h
    split at h
    · cases h
    · exact Or.inr (Or.inr ⟨rfl, by omega, (Option.some.inj h).symm⟩)
  | foreign => simp only [step?, hsymbol, reduceCtorEq] at h

/-- Blanks can be left out of what is read. -/
theorem read?_symbolsOf (state : State) (text : Bytes) :
    state.read? (symbolsOf text) = state.read? text := by
  induction text generalizing state with
  | nil => rfl
  | cons byte rest ih =>
    cases hblank : isBlank byte with
    | true =>
      rw [symbolsOf_cons_of_blank hblank, read?_cons, step?_of_blank state hblank, Option.bind_some,
        ih]
    | false =>
      rw [symbolsOf_cons_of_not_blank hblank, read?_cons, read?_cons]
      cases state.step? byte with
      | none => rfl
      | some next => exact ih next

/-- The loop goes on behind a part that it can read. -/
theorem scan_append_of_read? {state next : State} {first : Bytes}
    (h : state.read? first = some next) (offset : Nat) (second : Bytes) :
    state.scan offset (first ++ second) = next.scan (offset + first.length) second := by
  induction first generalizing state offset with
  | nil =>
    obtain rfl := Option.some.inj h
    rfl
  | cons byte rest ih =>
    obtain ⟨middle, hstep, hrest⟩ := Option.bind_eq_some_iff.mp h
    simp only [List.cons_append, scan, hstep, List.length_cons]
    rw [ih hrest, Nat.add_assoc, Nat.add_comm 1]

/-- The loop comes to the end of a text exactly if it can read all of it. -/
theorem scan_eq_none_iff (offset : Nat) {state final : State} {text : Bytes} :
    state.scan offset text = (final, none) ↔ state.read? text = some final := by
  constructor
  · intro h
    induction text generalizing state offset with
    | nil => simpa [scan] using h
    | cons byte rest ih =>
      rw [scan] at h
      cases hstep : state.step? byte with
      | none => simp [hstep] at h
      | some next =>
        simp only [hstep] at h
        simp [read?_cons, hstep, ih _ h]
  · intro h
    have hscan := scan_append_of_read? h offset []
    rwa [List.append_nil] at hscan

end State

/-- The bits of four symbols, one after the other. -/
def packed (a b c d : UInt8) : UInt32 :=
  ((a.toUInt32 <<< 6 ||| b.toUInt32) <<< 6 ||| c.toUInt32) <<< 6 ||| d.toUInt32

/-- The three bytes that 24 bits make. -/
def blockBytes (block : UInt32) : Bytes :=
  [(block >>> 16).toUInt8, (block >>> 8).toUInt8, block.toUInt8]

namespace State

variable {written : Bytes} {a b c d : UInt8} {va vb vc vd : UInt8}

/-- Four letters between two blocks write three bytes. -/
theorem read?_letters (ha : value? a = some va) (hb : value? b = some vb)
    (hc : value? c = some vc) (hd : value? d = some vd) :
    ({ written } : State).read? [a, b, c, d] =
      some { written := (blockBytes (packed va vb vc vd)).reverse ++ written } := by
  simp [read?_cons, step?_of_letter _ ha, step?_of_letter _ hb, step?_of_letter _ hc,
    step?_of_letter _ hd, push, packed, blockBytes]

/-- Three letters and a pad write two bytes and end the text. -/
theorem read?_onePad (ha : value? a = some va) (hb : value? b = some vb)
    (hc : value? c = some vc) :
    ({ written } : State).read? [a, b, c, padByte] =
      some { finished := true
             written := ((blockBytes (packed va vb vc 0)).take 2).reverse ++ written } := by
  simp [read?_cons, step?_of_letter _ ha, step?_of_letter _ hb, step?_of_letter _ hc,
    step?_padByte, push, packed, blockBytes]

/-- Two letters and two pads write one byte and end the text. -/
theorem read?_twoPads (ha : value? a = some va) (hb : value? b = some vb) :
    ({ written } : State).read? [a, b, padByte, padByte] =
      some { finished := true
             written := ((blockBytes (packed va vb 0 0)).take 1).reverse ++ written } := by
  simp [read?_cons, step?_of_letter _ ha, step?_of_letter _ hb, step?_padByte, push, packed,
    blockBytes]

end State

/-- Decoding fails in no place exactly if the whole text can be read and ends between two
blocks. -/
theorem outcome_error?_eq_none_iff {text : Bytes} :
    (outcome text).error? = none ↔
      ∃ final, ({} : State).read? text = some final ∧ final.symbols = 0 := by
  simp only [← State.scan_eq_none_iff 0]
  unfold outcome
  rcases ({} : State).scan 0 text with ⟨state, _ | refused⟩ <;> simp

/-- What a text that can be read commits. -/
theorem outcome_of_read? {text : Bytes} {final : State} (h : ({} : State).read? text = some final)
    (hfinal : final.symbols = 0) : outcome text = ⟨final.written.reverse, none⟩ := by
  rw [← State.scan_eq_none_iff 0] at h
  simp [outcome, h, hfinal]

/-- Once the length of the text and the size of the buffer are right, decoding into a buffer
succeeds exactly if it fails in no place. -/
theorem decodeInto_eq_ok_iff {text buffer : Bytes} {count : Nat} :
    (decodeInto text buffer).1 = .ok count ↔
      text.length % 4 = 0 ∧ capacity text.length ≤ buffer.length ∧
        (outcome text).error? = none ∧ (outcome text).committed.length = count := by
  unfold decodeInto
  split
  · next hlength => simp [hlength]
  · next hlength =>
    split
    · next hroom => simp [Nat.not_le.mpr hroom]
    · next hroom =>
      cases herror : (outcome text).error? <;> simp_all

end Relocation.Base64
