import Relocation.Proofs.Base64.Endings
import Relocation.Proofs.Base64.Grammar

/-!
# The first hopeless byte

A byte is hopeless if the text before it can still be continued to one that decodes,
and the text up to and with it cannot. The decoder refuses exactly the hopeless byte of
a text. In one direction every state that it can be in is led between two blocks by some
continuation, which blanks bring to the right length. In the other a refused byte stays
refused however the text goes on.
-/

namespace Relocation.Base64

namespace State

variable {state next : State} {byte value : UInt8}

/-- What holds of the decoder whatever it has read: a block is incomplete, a pad that was read in it
stands third, and a padded block has no symbol behind it. -/
structure Sound (state : State) : Prop where
  symbols_lt : state.symbols < 4
  pads_third : 0 < state.pads → state.symbols = 3
  between_of_finished : state.finished = true → state.symbols = 0

/-- The decoder is sound before it has read anything. -/
theorem sound_initial : ({} : State).Sound :=
  ⟨by decide, by decide, by decide⟩

/-- A symbol keeps the decoder sound if it is the last of its block, or if no padded block came
before it and a pad in its block makes it the third. -/
theorem sound_push (hsymbols : state.symbols < 4)
    (hplace : state.symbols ≠ 3 →
      state.finished = false ∧ (0 < state.pads → state.symbols = 2)) :
    (state.push value).Sound := by
  unfold push
  split
  · exact ⟨by simp, by simp, by simp⟩
  · next hne =>
    obtain ⟨hopen, hpads⟩ := hplace hne
    refine ⟨?_, fun hpos => ?_, fun hfinished => ?_⟩
    · simp only
      omega
    · simp [hpads hpos]
    · simp [hopen] at hfinished

/-- Every byte that is read keeps the decoder sound. -/
theorem Sound.step? (h : state.Sound) (hstep : state.step? byte = some next) : next.Sound := by
  rcases step?_cases hstep with
    ⟨_, rfl⟩ | ⟨value, _, hpads, hopen, rfl⟩ | ⟨_, hplace, rfl⟩
  · exact h
  · exact sound_push h.symbols_lt fun _ => ⟨hopen, by omega⟩
  · have hlt := h.symbols_lt
    refine sound_push hlt fun hne => ⟨?_, fun _ => ?_⟩
    · cases hfinished : state.finished with
      | false => rfl
      | true =>
        have hbetween := h.between_of_finished hfinished
        omega
    · change state.symbols ≠ 3 at hne
      change state.symbols = 2
      omega

/-- Whatever is read keeps the decoder sound. -/
theorem Sound.read? {text : Bytes} {final : State} (h : state.Sound)
    (hread : state.read? text = some final) : final.Sound := by
  induction text generalizing state with
  | nil =>
    obtain rfl := Option.some.inj hread
    exact h
  | cons byte rest ih =>
    obtain ⟨next, hstep, hrest⟩ := Option.bind_eq_some_iff.mp hread
    exact ih (h.step? hstep) hrest

/-- Letters complete a block that has no pad in it. -/
theorem exists_read?_letters {n : Nat} (hsymbols : state.symbols < 4)
    (hcount : state.symbols + n = 4) (hpads : state.pads = 0) (hopen : state.finished = false) :
    ∃ final, state.read? (List.replicate n (letter 0)) = some final ∧ final.symbols = 0 := by
  induction n generalizing state with
  | zero => omega
  | succ n ih =>
    have hvalue : value? (letter 0) = some 0 := value?_letter (by decide)
    have hstep : state.step? (letter 0) = some (state.push 0) := by
      rw [step?_of_letter state hvalue, if_neg (by simp [hpads, hopen])]
    rw [List.replicate_succ, read?_cons, hstep, Option.bind_some]
    by_cases hlast : state.symbols = 3
    · obtain rfl : n = 0 := by omega
      exact ⟨state.push 0, rfl, by simp [symbols_push hsymbols, hlast]⟩
    · apply ih
      · rw [symbols_push hsymbols]
        omega
      · rw [symbols_push hsymbols]
        omega
      · simpa [push, hlast] using hpads
      · simpa [push, hlast] using hopen

/-- Whatever the decoder has read, some text leads it between two blocks: a pad if there is one in
the block, and otherwise letters. -/
theorem Sound.exists_completion (h : state.Sound) :
    ∃ rest final, state.read? rest = some final ∧ final.symbols = 0 := by
  by_cases hbetween : state.symbols = 0
  · exact ⟨[], state, rfl, hbetween⟩
  · by_cases hpads : state.pads = 0
    · have hlt := h.symbols_lt
      have hopen : state.finished = false := by
        simpa using mt h.between_of_finished hbetween
      obtain ⟨final, hread, hfinal⟩ :=
        exists_read?_letters (n := 4 - state.symbols) hlt (by omega) hpads hopen
      exact ⟨_, final, hread, hfinal⟩
    · have hthird := h.pads_third (by omega)
      have hstep : state.step? padByte = some ({ state with pads := state.pads + 1 }.push 0) := by
        rw [step?_padByte, if_neg (by omega)]
      refine ⟨[padByte], _, by rw [read?_cons, hstep, Option.bind_some, read?_nil], ?_⟩
      simp [push, hthird]

/-- Blanks change nothing. -/
theorem read?_blanks (state : State) (n : Nat) :
    state.read? (List.replicate n 32) = some state := by
  rw [← read?_symbolsOf]
  simp [symbolsOf, isBlank]

end State

/-- A text is accepted if it decodes into some buffer. -/
def Accepted (text : Bytes) : Prop :=
  ∃ buffer count, (decodeInto text buffer).1 = .ok count

/-- The texts that are accepted have the right length, can be read, and end between two blocks. -/
theorem accepted_iff {text : Bytes} :
    Accepted text ↔ text.length % 4 = 0 ∧
      ∃ final, ({} : State).read? text = some final ∧ final.symbols = 0 := by
  simp only [Accepted, decodeInto_eq_ok_iff, outcome_error?_eq_none_iff]
  constructor
  · rintro ⟨buffer, count, hlength, _, hread, _⟩
    exact ⟨hlength, hread⟩
  · rintro ⟨hlength, hread⟩
    exact ⟨List.replicate (capacity text.length) 0, (outcome text).committed.length, hlength,
      by simp, hread, rfl⟩

/-- A text can be continued to one that is accepted exactly if it can be read. The continuation
completes the block, and blanks bring the whole to the right length. -/
theorem exists_accepted_append_iff {text : Bytes} :
    (∃ rest, Accepted (text ++ rest)) ↔ ∃ state, ({} : State).read? text = some state := by
  simp only [accepted_iff, State.read?_append]
  constructor
  · rintro ⟨rest, _, final, hread, _⟩
    obtain ⟨state, hstate, _⟩ := Option.bind_eq_some_iff.mp hread
    exact ⟨state, hstate⟩
  · rintro ⟨state, hstate⟩
    obtain ⟨rest, final, hrest, hfinal⟩ := (State.sound_initial.read? hstate).exists_completion
    let missing := 3 * (text.length + rest.length)
    refine ⟨rest ++ List.replicate missing 32, ?_, final, ?_, hfinal⟩
    · simp only [List.length_append, List.length_replicate, missing]
      omega
    · rw [hstate, Option.bind_some, State.read?_append, hrest, Option.bind_some,
        State.read?_blanks]

/-- A byte of a text is hopeless if the text before it begins a text that is accepted, and the text
up to and with it begins none. -/
structure Hopeless (text : Bytes) (offset : Nat) (byte : UInt8) : Prop where
  stands : text[offset]? = some byte
  before : ∃ rest, Accepted (text.take offset ++ rest)
  through : ¬ ∃ rest, Accepted (text.take (offset + 1) ++ rest)

variable {text : Bytes} {offset : Nat} {byte : UInt8}

/-- A byte is hopeless exactly if it is the one that the decoder refuses. -/
theorem hopeless_iff :
    Hopeless text offset byte ↔ (outcome text).error? = some (.invalidByte offset byte) := by
  have hending := outcome_ending text
  generalize outcome text = result at hending
  constructor
  · rintro ⟨hbyte, hbefore, hthrough⟩
    rw [exists_accepted_append_iff] at hbefore hthrough
    obtain ⟨state, hstate⟩ := hbefore
    cases hending with
    | @refused place other stopped hother hread hrefused =>
      rcases Nat.lt_trichotomy place offset with hlt | rfl | hlt
      · -- The refused byte would stand in the part that can be read.
        obtain ⟨next, hnext⟩ := State.exists_read?_take hstate (place + 1)
        rw [List.take_take, Nat.min_eq_left hlt, State.read?_take_succ hother, hread] at hnext
        simp [hrefused] at hnext
      · rw [hbyte] at hother
        obtain rfl := Option.some.inj hother
        rfl
      · obtain ⟨next, hnext⟩ := State.exists_read?_take hread (offset + 1)
        rw [List.take_take, Nat.min_eq_left hlt] at hnext
        exact absurd ⟨next, hnext⟩ hthrough
    | incomplete hread hinside => exact absurd (State.exists_read?_take hread _) hthrough
    | complete hread hbetween => exact absurd (State.exists_read?_take hread _) hthrough
  · intro herror
    cases hending with
    | refused hbyte hread hrefused =>
      obtain ⟨rfl, rfl⟩ : _ = offset ∧ _ = byte := by simpa using herror
      refine ⟨hbyte, exists_accepted_append_iff.mpr ⟨_, hread⟩, fun haccepted => ?_⟩
      obtain ⟨next, hnext⟩ := exists_accepted_append_iff.mp haccepted
      rw [State.read?_take_succ hbyte, hread, Option.bind_some, hrefused] at hnext
      cases hnext
    | incomplete hread hinside => simp at herror
    | complete hread hbetween => simp at herror

/-- A text has at most one hopeless byte. -/
theorem Hopeless.unique {place : Nat} {other : UInt8} (h : Hopeless text offset byte)
    (hother : Hopeless text place other) : offset = place ∧ byte = other := by
  have herror := (hopeless_iff.mp h).symm.trans (hopeless_iff.mp hother)
  simpa using herror

/-- The symbols that are left over when a text is read to its end are those beyond its full
blocks. -/
theorem symbols_eq_of_read? {final : State} (h : ({} : State).read? text = some final) :
    final.symbols = (symbolsOf text).length % 4 := by
  rw [← State.read?_symbolsOf] at h
  simpa using State.symbols_of_read? (by simp) (fun _ hmem => isBlank_of_mem_symbolsOf hmem) h

/-- Decoding a text without a hopeless byte fails exactly if symbols are left over. -/
theorem outcome_error?_of_not_hopeless (h : ∀ offset byte, ¬ Hopeless text offset byte) :
    (outcome text).error? =
      if (symbolsOf text).length % 4 = 0 then none
      else some (.incompleteBlock ((symbolsOf text).length % 4)) := by
  simp only [hopeless_iff] at h
  have hending := outcome_ending text
  generalize outcome text = result at h hending
  cases hending with
  | refused hbyte hread hrefused => exact absurd rfl (h _ _)
  | incomplete hread hinside =>
    rw [symbols_eq_of_read? hread] at hinside ⊢
    rw [if_neg hinside]
  | complete hread hbetween =>
    rw [symbols_eq_of_read? hread] at hbetween
    rw [if_pos hbetween]

/-- A text of the right length that cannot be decoded has a hopeless byte or symbols left over. -/
theorem decode_error_cases {error : Error} (hlength : text.length % 4 = 0)
    (h : decode text = .error error) :
    (∃ offset byte, Hopeless text offset byte ∧ error = .invalidByte offset byte) ∨
      ((∀ offset byte, ¬ Hopeless text offset byte) ∧ (symbolsOf text).length % 4 ≠ 0 ∧
        error = .incompleteBlock ((symbolsOf text).length % 4)) := by
  have herror : (outcome text).error? = some error := by
    rw [decode_of_length hlength] at h
    cases hresult : (outcome text).result with
    | ok count => simp [hresult, Except.map] at h
    | error found =>
      obtain rfl : found = error := by simpa [hresult, Except.map] using h
      exact Outcome.result_eq_error_iff.mp hresult
  by_cases hsome : ∃ offset byte, Hopeless text offset byte
  · obtain ⟨offset, byte, hbyte⟩ := hsome
    have hrefused := hopeless_iff.mp hbyte
    rw [herror] at hrefused
    exact Or.inl ⟨offset, byte, hbyte, Option.some.inj hrefused⟩
  · have hnone : ∀ offset byte, ¬ Hopeless text offset byte :=
      fun offset byte hbyte => hsome ⟨offset, byte, hbyte⟩
    rw [outcome_error?_of_not_hopeless hnone] at herror
    split at herror
    · cases herror
    · next hleft => exact Or.inr ⟨hnone, hleft, (Option.some.inj herror).symm⟩

/-- The decoder reports the first byte that makes the text hopeless. For a text of the right length
and a buffer with room, the byte that is refused is the only one such that the text before it
begins an accepted text and the text up to and with it begins none. If there is no such byte,
decoding fails exactly if symbols are left over beyond the full blocks, with their number, and
succeeds otherwise. -/
theorem decodeInto_reports_hopeless {buffer : Bytes} (hlength : text.length % 4 = 0)
    (hroom : capacity text.length ≤ buffer.length) :
    (∀ offset byte, (decodeInto text buffer).1 = .error (.invalidByte offset byte) ↔
      Hopeless text offset byte) ∧
    (∀ offset byte place other, Hopeless text offset byte → Hopeless text place other →
      offset = place ∧ byte = other) ∧
    ((∀ offset byte, ¬ Hopeless text offset byte) →
      (∀ symbols, (decodeInto text buffer).1 = .error (.incompleteBlock symbols) ↔
        (symbolsOf text).length % 4 = symbols ∧ symbols ≠ 0) ∧
      ((∃ count, (decodeInto text buffer).1 = .ok count) ↔ (symbolsOf text).length % 4 = 0)) := by
  rw [decodeInto_of_room hlength hroom]
  refine ⟨fun offset byte => ?_, fun _ _ _ _ h hother => h.unique hother, fun hnone => ⟨?_, ?_⟩⟩
  · rw [Outcome.result_eq_error_iff, hopeless_iff]
  · intro symbols
    rw [Outcome.result_eq_error_iff, outcome_error?_of_not_hopeless hnone]
    split
    · next hwhole =>
      simp only [reduceCtorEq, false_iff]
      omega
    · next hleft =>
      simp only [Option.some.injEq, Error.incompleteBlock.injEq]
      omega
  · simp [outcome_error?_of_not_hopeless hnone]

/-- Two pads with blanks between and behind them, and then a letter. -/
theorem decodeInto_reports_hopeless_letter :
    12 % 4 = 0 ∧ capacity 12 ≤ 9 ∧
      (decodeInto (Bytes.ofString "TWFuTQ= =\r\nT") (List.replicate 9 0xaa)).1 =
        .error (.invalidByte 11 84) ∧
      Hopeless (Bytes.ofString "TWFuTQ= =\r\nT") 11 84 := by
  have hresult : (decodeInto (Bytes.ofString "TWFuTQ= =\r\nT") (List.replicate 9 0xaa)).1 =
      .error (.invalidByte 11 84) := rfl
  exact ⟨by decide, by decide, hresult,
    ((decodeInto_reports_hopeless (by decide) (by decide)).1 11 84).mp hresult⟩

end Relocation.Base64
