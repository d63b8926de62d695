import Relocation.Proofs.Base64.InPlace

/-!
# Blanks do not matter

Two texts with the same symbols may have their blanks in different places, and then the
decoder meets the same symbol at different offsets. It comes to the same end
nevertheless. What it does is settled by the symbols alone: they can all be read, or one
of them is refused, and that one stands somewhere in each text that has these symbols.
-/

namespace Relocation.Base64

/-- The symbol of a text that has `number` symbols before it is a byte, and stands at an offset. -/
structure SymbolAt (text : Bytes) (number offset : Nat) (byte : UInt8) : Prop where
  stands : text[offset]? = some byte
  not_blank : isBlank byte = false
  before : (symbolsOf (text.take offset)).length = number

variable {text other buffer : Bytes} {number offset : Nat} {byte : UInt8}

/-- Every symbol of a text stands somewhere in the text. -/
theorem exists_symbolAt (h : (symbolsOf text)[number]? = some byte) :
    ∃ offset, SymbolAt text number offset byte := by
  induction text generalizing number with
  | nil => simp [symbolsOf] at h
  | cons head rest ih =>
    cases hblank : isBlank head with
    | true =>
      rw [symbolsOf_cons_of_blank hblank] at h
      obtain ⟨offset, hat⟩ := ih h
      refine ⟨offset + 1, hat.stands, hat.not_blank, ?_⟩
      rw [List.take_succ_cons, symbolsOf_cons_of_blank hblank, hat.before]
    | false =>
      rw [symbolsOf_cons_of_not_blank hblank] at h
      cases number with
      | zero =>
        obtain rfl : head = byte := by simpa using h
        exact ⟨0, rfl, hblank, rfl⟩
      | succ number =>
        have htail : (symbolsOf rest)[number]? = some byte := by simpa using h
        obtain ⟨offset, hat⟩ := ih htail
        refine ⟨offset + 1, hat.stands, hat.not_blank, ?_⟩
        rw [List.take_succ_cons, symbolsOf_cons_of_not_blank hblank, List.length_cons, hat.before]

/-- The symbols before a symbol are those of the text before it. -/
theorem SymbolAt.symbolsOf_take (h : SymbolAt text number offset byte) :
    symbolsOf (text.take offset) = (symbolsOf text).take number := by
  have hsplit : symbolsOf text = symbolsOf (text.take offset) ++ symbolsOf (text.drop offset) := by
    rw [← symbolsOf_append, List.take_append_drop]
  rw [hsplit, ← h.before, List.take_left]

/-- A text whose symbols can all be read ends between two blocks or inside one. -/
theorem outcome_of_read?_symbolsOf {final : State}
    (hread : ({} : State).read? (symbolsOf text) = some final) :
    outcome text =
      ⟨final.written.reverse,
        if final.symbols = 0 then none else some (.incompleteBlock final.symbols)⟩ := by
  rw [State.read?_symbolsOf, ← State.scan_eq_none_iff 0] at hread
  rw [outcome, hread]

/-- A text is refused for the symbol that cannot be read after those before it, at the offset at
which this symbol stands. -/
theorem SymbolAt.outcome_eq {stopped : State} (h : SymbolAt text number offset byte)
    (hread : ({} : State).read? ((symbolsOf text).take number) = some stopped)
    (hrefused : stopped.step? byte = none) :
    outcome text = ⟨stopped.written.reverse, some (.invalidByte offset byte)⟩ := by
  rw [← h.symbolsOf_take, State.read?_symbolsOf] at hread
  obtain ⟨hlt, hbyte⟩ := List.getElem?_eq_some_iff.mp h.stands
  have htext : text = text.take offset ++ byte :: text.drop (offset + 1) := by
    rw [← hbyte, ← List.drop_eq_getElem_cons hlt, List.take_append_drop]
  have hscan : ({} : State).scan 0 text = (stopped, some (offset, byte)) := by
    have hlength : (text.take offset).length = offset := by
      rw [List.length_take]
      omega
    rw [htext, State.scan_append_of_read? hread, hlength, Nat.zero_add]
    simp [State.scan, hrefused]
  rw [outcome, hscan]

/-- Everything that decoding can come to for two texts with the same symbols. They are read to their
ends alike, or refused for the same symbol. -/
theorem outcome_cases_of_symbolsOf_eq (h : symbolsOf text = symbolsOf other) :
    ∃ committed,
      (outcome text = ⟨committed, none⟩ ∧ outcome other = ⟨committed, none⟩) ∨
      (∃ symbols, outcome text = ⟨committed, some (.incompleteBlock symbols)⟩ ∧
        outcome other = ⟨committed, some (.incompleteBlock symbols)⟩) ∨
      (∃ number byte offset place, SymbolAt text number offset byte ∧
        SymbolAt other number place byte ∧
        outcome text = ⟨committed, some (.invalidByte offset byte)⟩ ∧
        outcome other = ⟨committed, some (.invalidByte place byte)⟩) := by
  rcases ({} : State).scan_cases 0 (symbolsOf text) with
    ⟨final, hread, _⟩ | ⟨number, byte, stopped, hbyte, hread, hrefused, _⟩
  · have htext := outcome_of_read?_symbolsOf hread
    have hother := outcome_of_read?_symbolsOf (h ▸ hread)
    refine ⟨final.written.reverse, ?_⟩
    by_cases hbetween : final.symbols = 0
    · rw [if_pos hbetween] at htext hother
      exact Or.inl ⟨htext, hother⟩
    · rw [if_neg hbetween] at htext hother
      exact Or.inr (Or.inl ⟨final.symbols, htext, hother⟩)
  · obtain ⟨offset, hat⟩ := exists_symbolAt hbyte
    obtain ⟨place, hplace⟩ := exists_symbolAt (h ▸ hbyte)
    exact ⟨stopped.written.reverse, Or.inr (Or.inr ⟨number, byte, offset, place, hat, hplace,
      hat.outcome_eq hread hrefused, hplace.outcome_eq (h ▸ hread) hrefused⟩)⟩

/-- Blanks do not matter, whether a text can be decoded or not. Two texts of the right lengths that
have the same symbols, decoded into buffers with room, put the same bytes at the front of these.
Both succeed with the number of these bytes, or both are refused for the same symbol, each at the
offset at which the symbol stands in it, or both end with the same number of symbols in the last
block. -/
theorem decodeInto_ignores_blanks (text other buffer spare : Bytes)
    (hlength : text.length % 4 = 0) (hotherLength : other.length % 4 = 0)
    (hsymbols : symbolsOf text = symbolsOf other)
    (hroom : capacity text.length ≤ buffer.length)
    (hspare : capacity other.length ≤ spare.length) :
    ∃ committed : Bytes, committed.length ≤ buffer.length ∧ committed.length ≤ spare.length ∧
      (decodeInto text buffer).2 = committed ++ buffer.drop committed.length ∧
      (decodeInto other spare).2 = committed ++ spare.drop committed.length ∧
      (((decodeInto text buffer).1 = .ok committed.length ∧
          (decodeInto other spare).1 = .ok committed.length) ∨
        (∃ number byte offset place, SymbolAt text number offset byte ∧
          SymbolAt other number place byte ∧
          (decodeInto text buffer).1 = .error (.invalidByte offset byte) ∧
          (decodeInto other spare).1 = .error (.invalidByte place byte)) ∨
        ∃ symbols, (decodeInto text buffer).1 = .error (.incompleteBlock symbols) ∧
          (decodeInto other spare).1 = .error (.incompleteBlock symbols)) := by
  have hfits := Nat.le_trans (length_committed_le text) hroom
  have hotherFits := Nat.le_trans (length_committed_le other) hspare
  rw [decodeInto_of_room hlength hroom, decodeInto_of_room hotherLength hspare]
  obtain ⟨committed, hends⟩ := outcome_cases_of_symbolsOf_eq hsymbols
  have hcommitted : (outcome text).committed = committed ∧
      (outcome other).committed = committed := by
    rcases hends with ⟨htext, hother⟩ | ⟨symbols, htext, hother⟩ |
      ⟨number, byte, offset, place, _, _, htext, hother⟩ <;>
    exact ⟨by rw [htext], by rw [hother]⟩
  rw [hcommitted.1] at hfits
  rw [hcommitted.2] at hotherFits
  refine ⟨committed, hfits, hotherFits, by rw [hcommitted.1], by rw [hcommitted.2], ?_⟩
  rcases hends with ⟨htext, hother⟩ | ⟨symbols, htext, hother⟩ |
    ⟨number, byte, offset, place, hat, hplace, htext, hother⟩
  · exact Or.inl ⟨by rw [htext]; rfl, by rw [hother]; rfl⟩
  · exact Or.inr (Or.inr ⟨symbols, by rw [htext]; rfl, by rw [hother]; rfl⟩)
  · exact Or.inr (Or.inl ⟨number, byte, offset, place, hat, hplace, by rw [htext]; rfl,
      by rw [hother]; rfl⟩)

/-- A padded block with letters behind it, in one line and in two. Both texts are refused for the
first of these letters, which is the fifth symbol and stands at offset 4 in one and at 6 in the
other. -/
theorem decodeInto_ignores_blanks_padded :
    symbolsOf (Bytes.ofString "TQ==TWFu") = symbolsOf (Bytes.ofString "TQ= =\nTW Fu\n") ∧
      ∃ committed : Bytes, committed.length ≤ 6 ∧ committed.length ≤ 9 ∧
        (decodeInto (Bytes.ofString "TQ==TWFu") (List.replicate 6 0)).2 =
          committed ++ (List.replicate 6 0).drop committed.length ∧
        (decodeInto (Bytes.ofString "TQ= =\nTW Fu\n") (List.replicate 9 1)).2 =
          committed ++ (List.replicate 9 1).drop committed.length ∧
        (decodeInto (Bytes.ofString "TQ==TWFu") (List.replicate 6 0)).1 =
          .error (.invalidByte 4 84) ∧
        (decodeInto (Bytes.ofString "TQ= =\nTW Fu\n") (List.replicate 9 1)).1 =
          .error (.invalidByte 6 84) := by
  have hsymbols :
      symbolsOf (Bytes.ofString "TQ==TWFu") = symbolsOf (Bytes.ofString "TQ= =\nTW Fu\n") := by
    decide +kernel
  obtain ⟨committed, hfits, hspare, hbuffer, hother, _⟩ :=
    decodeInto_ignores_blanks (Bytes.ofString "TQ==TWFu") (Bytes.ofString "TQ= =\nTW Fu\n")
      (List.replicate 6 0) (List.replicate 9 1) (by decide +kernel) (by decide +kernel) hsymbols
      (by decide +kernel) (by decide +kernel)
  exact ⟨hsymbols, committed, hfits, hspare, hbuffer, hother, rfl, rfl⟩

end Relocation.Base64
