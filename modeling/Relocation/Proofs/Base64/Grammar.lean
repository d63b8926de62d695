import Relocation.Proofs.Base64.Reading

/-!
# The grammar of encoded text

The decoder's loop decides byte by byte, with four variables, whether a text can be
decoded. Here the texts that it accepts are described without a decoder: blocks of
four letters, and at the end possibly a block with one or two pads. Both directions
go through what a whole block does between two blocks.
-/

namespace Relocation.Base64

/-- The grammar of encoded text without its blanks: any number of blocks of four letters, and then
nothing more, a block of three letters and a pad, or a block of two letters and two pads. -/
inductive Padded : Bytes → Prop where
  | nil : Padded []
  | onePad {a b c : UInt8} (ha : a ∈ alphabet) (hb : b ∈ alphabet) (hc : c ∈ alphabet) :
      Padded [a, b, c, padByte]
  | twoPads {a b : UInt8} (ha : a ∈ alphabet) (hb : b ∈ alphabet) :
      Padded [a, b, padByte, padByte]
  | block {a b c d : UInt8} {rest : Bytes} (ha : a ∈ alphabet) (hb : b ∈ alphabet)
      (hc : c ∈ alphabet) (hd : d ∈ alphabet) (hrest : Padded rest) :
      Padded (a :: b :: c :: d :: rest)

/-- The pad is not in the alphabet. -/
theorem padByte_not_mem_alphabet : padByte ∉ alphabet := by
  simp [mem_alphabet_iff]

/-- In a text that follows the grammar a pad stands third or fourth in its block, that block is the
last one, and a pad in the third place has another one behind it. -/
theorem Padded.pad_position {text : Bytes} (h : Padded text) {i : Nat}
    (hpad : text[i]? = some padByte) :
    2 ≤ i % 4 ∧ text.length = i - i % 4 + 4 ∧ (i % 4 = 2 → text[i + 1]? = some padByte) := by
  induction h generalizing i with
  | nil => simp at hpad
  | onePad ha hb hc =>
    have hne := padByte_not_mem_alphabet
    match i with
    | 0 | 1 | 2 =>
      simp only [List.getElem?_cons_zero, List.getElem?_cons_succ, Option.some.injEq] at hpad
      simp_all
    | 3 => simp
    | i + 4 => simp at hpad
  | twoPads ha hb =>
    have hne := padByte_not_mem_alphabet
    match i with
    | 0 | 1 =>
      simp only [List.getElem?_cons_zero, List.getElem?_cons_succ, Option.some.injEq] at hpad
      simp_all
    | 2 | 3 => simp
    | i + 4 => simp at hpad
  | block ha hb hc hd hrest ih =>
    have hne := padByte_not_mem_alphabet
    match i with
    | 0 | 1 | 2 | 3 =>
      simp only [List.getElem?_cons_zero, List.getElem?_cons_succ, Option.some.injEq] at hpad
      simp_all
    | i + 4 =>
      obtain ⟨hplace, hlength, hnext⟩ := ih hpad
      have hle : i % 4 ≤ i := Nat.mod_le ..
      refine ⟨by omega, ?_, fun h => ?_⟩
      · simp only [List.length_cons]
        omega
      · exact hnext (by omega)

namespace State

/-- A symbol that is read is a letter where no pad came before, or a pad after two symbols of its
block. -/
theorem step?_symbol_cases {state next : State} {byte : UInt8} (hsymbol : isBlank byte = false)
    (h : state.step? byte = some next) :
    (∃ value, value? byte = some value ∧ state.pads = 0 ∧ state.finished = false ∧
      next = state.push value) ∨
    (byte = padByte ∧ 2 ≤ state.symbols ∧
      next = { state with pads := state.pads + 1 }.push 0) := by
  rcases step?_cases h with ⟨hblank, _⟩ | hcases
  · simp [hsymbol] at hblank
  · exact hcases

/-- The number of symbols in the current block grows with every symbol, modulo four. -/
theorem symbols_push {state : State} (h : state.symbols < 4) (value : UInt8) :
    (state.push value).symbols = (state.symbols + 1) % 4 := by
  unfold push
  split
  · next heq => simp [heq]
  · simp only
    omega

/-- After a text without blanks the current block holds as many symbols as the text has more than
full blocks. -/
theorem symbols_of_read? {state final : State} {text : Bytes} (hstate : state.symbols < 4)
    (hsymbols : ∀ byte ∈ text, isBlank byte = false) (h : state.read? text = some final) :
    final.symbols = (state.symbols + text.length) % 4 := by
  induction text generalizing state with
  | nil =>
    obtain rfl := Option.some.inj h
    simp [Nat.mod_eq_of_lt hstate]
  | cons byte rest ih =>
    obtain ⟨next, hstep, hrest⟩ := Option.bind_eq_some_iff.mp h
    have hnext : next.symbols = (state.symbols + 1) % 4 := by
      rcases step?_symbol_cases (hsymbols byte (by simp)) hstep with
        ⟨value, _, _, _, rfl⟩ | ⟨_, _, rfl⟩
      · exact symbols_push hstate _
      · have hpadded : ({ state with pads := state.pads + 1 } : State).symbols < 4 := hstate
        exact symbols_push hpadded _
    rw [ih (by omega) (fun byte hmem => hsymbols byte (by simp [hmem])) hrest, List.length_cons]
    omega

variable {written : Bytes} {a b c d : UInt8}

/-- The first two symbols of a block are letters. -/
theorem letters_of_read? {rest : Bytes} {final : State}
    (ha : isBlank a = false) (hb : isBlank b = false)
    (h : ({ written } : State).read? (a :: b :: rest) = some final) :
    ∃ va vb, value? a = some va ∧ value? b = some vb ∧
      State.read? { block := va.toUInt32 <<< 6 ||| vb.toUInt32, symbols := 2, written } rest =
        some final := by
  obtain ⟨first, hfirst, h⟩ := Option.bind_eq_some_iff.mp h
  rcases step?_symbol_cases ha hfirst with ⟨va, hva, _, _, rfl⟩ | ⟨_, hplace, _⟩
  · obtain ⟨second, hsecond, h⟩ := Option.bind_eq_some_iff.mp h
    rcases step?_symbol_cases hb hsecond with ⟨vb, hvb, _, _, rfl⟩ | ⟨_, hplace, _⟩
    · refine ⟨va, vb, hva, hvb, ?_⟩
      simpa [push, read?] using h
    · simp [push] at hplace
  · simp at hplace

/-- A block that can be read between two blocks is of one of three forms: four letters, three
letters and a pad, or two letters and two pads. -/
theorem block_cases {next : State} (hsymbols : ∀ byte ∈ [a, b, c, d], isBlank byte = false)
    (h : ({ written } : State).read? [a, b, c, d] = some next) :
    ∃ va vb, value? a = some va ∧ value? b = some vb ∧
      ((∃ vc vd, value? c = some vc ∧ value? d = some vd) ∨
        (∃ vc, value? c = some vc ∧ d = padByte) ∨ (c = padByte ∧ d = padByte)) := by
  obtain ⟨va, vb, hva, hvb, h⟩ :=
    letters_of_read? (hsymbols a (by simp)) (hsymbols b (by simp)) h
  refine ⟨va, vb, hva, hvb, ?_⟩
  obtain ⟨third, hthird, h⟩ := Option.bind_eq_some_iff.mp h
  obtain ⟨fourth, hfourth, _⟩ := Option.bind_eq_some_iff.mp h
  rcases step?_symbol_cases (hsymbols c (by simp)) hthird with
    ⟨vc, hvc, _, _, rfl⟩ | ⟨hc, _, rfl⟩
  · rcases step?_symbol_cases (hsymbols d (by simp)) hfourth with ⟨vd, hvd, _⟩ | ⟨hd, _⟩
    · exact Or.inl ⟨vc, vd, hvc, hvd⟩
    · exact Or.inr (Or.inl ⟨vc, hvc, hd⟩)
  · rcases step?_symbol_cases (hsymbols d (by simp)) hfourth with ⟨_, _, hpads, _⟩ | ⟨hd, _⟩
    · simp [push] at hpads
    · exact Or.inr (Or.inr ⟨hc, hd⟩)

/-- No symbol can be read after a padded block. -/
theorem eq_nil_of_read?_finished {text : Bytes} {final : State}
    (hsymbols : ∀ byte ∈ text, isBlank byte = false)
    (h : ({ finished := true, written } : State).read? text = some final) : text = [] := by
  cases text with
  | nil => rfl
  | cons byte rest =>
    obtain ⟨next, hstep, _⟩ := Option.bind_eq_some_iff.mp h
    rcases step?_symbol_cases (hsymbols byte (by simp)) hstep with
      ⟨_, _, _, hopen, _⟩ | ⟨_, hplace, _⟩
    · simp at hopen
    · simp at hplace

end State

/-- A text that follows the grammar can be read between two blocks, and ends between two blocks. -/
theorem Padded.read? {text : Bytes} (h : Padded text) (written : Bytes) :
    ∃ final, ({ written } : State).read? text = some final ∧ final.symbols = 0 := by
  induction h generalizing written with
  | nil => exact ⟨_, rfl, rfl⟩
  | onePad ha hb hc =>
    obtain ⟨va, hva⟩ := mem_alphabet_iff.mp ha
    obtain ⟨vb, hvb⟩ := mem_alphabet_iff.mp hb
    obtain ⟨vc, hvc⟩ := mem_alphabet_iff.mp hc
    exact ⟨_, State.read?_onePad hva hvb hvc, rfl⟩
  | twoPads ha hb =>
    obtain ⟨va, hva⟩ := mem_alphabet_iff.mp ha
    obtain ⟨vb, hvb⟩ := mem_alphabet_iff.mp hb
    exact ⟨_, State.read?_twoPads hva hvb, rfl⟩
  | @block a b c d rest ha hb hc hd hrest ih =>
    obtain ⟨va, hva⟩ := mem_alphabet_iff.mp ha
    obtain ⟨vb, hvb⟩ := mem_alphabet_iff.mp hb
    obtain ⟨vc, hvc⟩ := mem_alphabet_iff.mp hc
    obtain ⟨vd, hvd⟩ := mem_alphabet_iff.mp hd
    obtain ⟨final, hread, hfinal⟩ := ih ((blockBytes (packed va vb vc vd)).reverse ++ written)
    refine ⟨final, ?_, hfinal⟩
    rw [show a :: b :: c :: d :: rest = [a, b, c, d] ++ rest from rfl, State.read?_append,
      State.read?_letters hva hvb hvc hvd, Option.bind_some, hread]

/-- A text without blanks that can be read between two blocks, and ends between two blocks, follows
the grammar. -/
theorem padded_of_read? {written : Bytes} {final : State} (hfinal : final.symbols = 0) :
    ∀ {text : Bytes}, (∀ byte ∈ text, isBlank byte = false) →
      ({ written } : State).read? text = some final → Padded text
  | [], _, _ => .nil
  | [_], hsymbols, h | [_, _], hsymbols, h | [_, _, _], hsymbols, h => by
    have hcount := State.symbols_of_read? (by simp) hsymbols h
    simp [hfinal] at hcount
  | a :: b :: c :: d :: rest, hsymbols, h => by
    have hblock : ∀ byte ∈ [a, b, c, d], isBlank byte = false :=
      fun byte hmem => hsymbols byte (List.mem_append_left rest hmem)
    have hrest : ∀ byte ∈ rest, isBlank byte = false :=
      fun byte hmem => hsymbols byte (List.mem_append_right [a, b, c, d] hmem)
    rw [show a :: b :: c :: d :: rest = [a, b, c, d] ++ rest from rfl, State.read?_append] at h
    obtain ⟨next, hnext, h⟩ := Option.bind_eq_some_iff.mp h
    obtain ⟨va, vb, hva, hvb, hforms⟩ := State.block_cases hblock hnext
    have ha := mem_alphabet_iff.mpr ⟨va, hva⟩
    have hb := mem_alphabet_iff.mpr ⟨vb, hvb⟩
    rcases hforms with ⟨vc, vd, hvc, hvd⟩ | ⟨vc, hvc, rfl⟩ | ⟨rfl, rfl⟩
    · rw [State.read?_letters hva hvb hvc hvd] at hnext
      obtain rfl := Option.some.inj hnext
      exact .block ha hb (mem_alphabet_iff.mpr ⟨vc, hvc⟩) (mem_alphabet_iff.mpr ⟨vd, hvd⟩)
        (padded_of_read? hfinal hrest h)
    · rw [State.read?_onePad hva hvb hvc] at hnext
      obtain rfl := Option.some.inj hnext
      obtain rfl := State.eq_nil_of_read?_finished hrest h
      exact .onePad ha hb (mem_alphabet_iff.mpr ⟨vc, hvc⟩)
    · rw [State.read?_twoPads hva hvb] at hnext
      obtain rfl := Option.some.inj hnext
      obtain rfl := State.eq_nil_of_read?_finished hrest h
      exact .twoPads ha hb

/-- Decoding fails in no place exactly if the symbols of the text follow the grammar. -/
theorem outcome_error?_eq_none_iff_padded {text : Bytes} :
    (outcome text).error? = none ↔ Padded (symbolsOf text) := by
  rw [outcome_error?_eq_none_iff]
  simp only [← State.read?_symbolsOf _ text]
  constructor
  · rintro ⟨final, hread, hfinal⟩
    exact padded_of_read? hfinal (fun _ hmem => isBlank_of_mem_symbolsOf hmem) hread
  · exact fun h => h.read? []

/-- The decoder accepts exactly its grammar. With room for what the text may stand for, decoding
succeeds exactly if the length of the text is a multiple of four and its symbols follow the
grammar, wherever the blanks stand. In a text that is accepted a pad is the third or fourth symbol
of the last block, and a pad in the third place has another one behind it. -/
theorem decodeInto_succeeds_iff {text buffer : Bytes}
    (hroom : capacity text.length ≤ buffer.length) :
    ((∃ count, (decodeInto text buffer).1 = .ok count) ↔
      text.length % 4 = 0 ∧ Padded (symbolsOf text)) ∧
    ∀ count, (decodeInto text buffer).1 = .ok count →
      ∀ i, (symbolsOf text)[i]? = some padByte →
        2 ≤ i % 4 ∧ (symbolsOf text).length = i - i % 4 + 4 ∧
          (i % 4 = 2 → (symbolsOf text)[i + 1]? = some padByte) := by
  constructor
  · simp [decodeInto_eq_ok_iff, hroom, outcome_error?_eq_none_iff_padded]
  · intro count hok i hpad
    have herror := (decodeInto_eq_ok_iff.mp hok).2.2.1
    exact (outcome_error?_eq_none_iff_padded.mp herror).pad_position hpad

/-- Two blocks with blanks between them and inside the padding, and more room than they need. -/
theorem decodeInto_succeeds_iff_wrapped :
    capacity 12 ≤ 16 ∧
      ((∃ count, (decodeInto (Bytes.ofString "TWFu\nTQ= =\r\n") (List.replicate 16 0)).1 =
          .ok count) ↔
        12 % 4 = 0 ∧ Padded (symbolsOf (Bytes.ofString "TWFu\nTQ= =\r\n"))) :=
  ⟨by decide, (decodeInto_succeeds_iff (by decide)).1⟩

end Relocation.Base64
