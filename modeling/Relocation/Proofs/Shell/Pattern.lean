import Mathlib.Data.List.TakeWhile
import Relocation.Shell.Pattern

/-!
# What patterns match

A text matches a pattern if it can be cut so that each part of the pattern has its piece:
any text at all for a star, and one byte that it allows for every other part. A text all
of whose bytes were escaped is a pattern that nothing but the text itself matches.
-/

namespace Relocation.Shell.Pattern

/-- Whether a text can be cut into pieces for the parts of a pattern. -/
inductive Matches : Pattern → Bytes → Prop where
  | nil : Matches [] []
  | anything {rest : Pattern} (skipped : Bytes) {text : Bytes} (hrest : Matches rest text) :
      Matches (.anything :: rest) (skipped ++ text)
  | byte {part : PatternPart} {rest : Pattern} {byte : UInt8} {text : Bytes}
      (hbyte : matchesByte part byte = true) (hrest : Matches rest text) :
      Matches (part :: rest) (byte :: text)

/-- A star matches nothing, or a byte and what it matches behind that. -/
theorem matches_anything_cons_iff {rest : Pattern} {byte : UInt8} {text : Bytes} :
    Matches (.anything :: rest) (byte :: text) ↔
      Matches rest (byte :: text) ∨ Matches (.anything :: rest) text := by
  constructor
  · generalize hwhole : byte :: text = whole
    intro h
    cases h with
    | anything skipped hrest =>
      cases skipped with
      | nil => exact Or.inl hrest
      | cons other skipped =>
        obtain ⟨-, rfl⟩ := List.cons.inj hwhole
        exact Or.inr (.anything skipped hrest)
    | byte hbyte => cases hbyte
  · rintro (hrest | hmore)
    · exact .anything [] hrest
    · cases hmore with
      | anything skipped hrest => exact .anything (byte :: skipped) hrest
      | byte hbyte => cases hbyte

/-- At the end of a text a star matches nothing. -/
theorem matches_anything_nil_iff {rest : Pattern} :
    Matches (.anything :: rest) [] ↔ Matches rest [] := by
  refine ⟨fun h => ?_, .anything []⟩
  generalize hwhole : ([] : Bytes) = whole at h
  cases h with
  | anything skipped hrest =>
    obtain ⟨rfl, rfl⟩ := List.append_eq_nil_iff.mp hwhole.symm
    exact hrest
  | byte => cases hwhole

/-- Every other part matches one byte. -/
theorem matches_cons_cons_iff {part : PatternPart} (hpart : part ≠ .anything) {rest : Pattern}
    {byte : UInt8} {text : Bytes} :
    Matches (part :: rest) (byte :: text) ↔ matchesByte part byte = true ∧ Matches rest text := by
  refine ⟨fun h => ?_, fun h => .byte h.1 h.2⟩
  generalize hwhole : byte :: text = whole at h
  cases h with
  | anything => exact absurd rfl hpart
  | byte hbyte hrest =>
    obtain ⟨rfl, rfl⟩ := List.cons.inj hwhole
    exact ⟨hbyte, hrest⟩

/-- The test of a pattern finds out whether there is a way to cut the text. -/
theorem matchesAll_iff {pattern : Pattern} {text : Bytes} :
    matchesAll pattern text = true ↔ Matches pattern text := by
  fun_induction matchesAll pattern text with
  | case1 text =>
    rw [List.isEmpty_iff]
    constructor
    · rintro rfl
      exact .nil
    · intro h
      cases h
      rfl
  | case2 rest ih => rw [ih, matches_anything_nil_iff]
  | case3 rest byte text ihNone ihMore =>
    rw [Bool.or_eq_true, ihNone, ihMore, matches_anything_cons_iff]
  | case4 part rest hpart =>
    refine iff_of_false Bool.false_ne_true fun h => ?_
    generalize hwhole : ([] : Bytes) = whole at h
    cases h with
    | anything => exact hpart rfl
    | byte => cases hwhole
  | case5 part rest byte text hpart ih =>
    rw [Bool.and_eq_true, ih, matches_cons_cons_iff hpart]

/-- A pattern of single bytes matches nothing but these. -/
theorem matchesAll_map_exactly (bytes text : Bytes) :
    matchesAll (bytes.map .exactly) text = true ↔ text = bytes := by
  rw [matchesAll_iff]
  induction bytes generalizing text with
  | nil =>
    constructor
    · intro h
      cases h
      rfl
    · rintro rfl
      exact .nil
  | cons byte rest ih =>
    cases text with
    | nil => exact iff_of_false nofun nofun
    | cons other text =>
      have hpart : PatternPart.exactly byte ≠ .anything := nofun
      rw [List.map_cons, matches_cons_cons_iff hpart, ih, matchesByte, decide_eq_true_eq,
        List.cons.injEq, eq_comm]

/-- A text of escaped bytes is written with a backslash before each of them. -/
theorem escapedBytes_map_escaped (bytes : Bytes) :
    Mark.escapedBytes false (bytes.map .escaped) = bytes.flatMap fun byte => [92, byte] := by
  induction bytes with
  | nil => rfl
  | cons byte rest ih => simp [Mark.escapedBytes, ih]

/-- Bytes behind backslashes denote themselves. -/
theorem ofBytesWithin_escaped (bytes : Bytes) {fuel : Nat} (hfuel : bytes.length < fuel) :
    ofBytesWithin fuel (bytes.flatMap fun byte => [92, byte]) = bytes.map .exactly := by
  induction bytes generalizing fuel with
  | nil => cases fuel <;> rfl
  | cons byte rest ih =>
    cases fuel with
    | zero => exact absurd hfuel (Nat.not_lt_zero _)
    | succ fuel =>
      have hrest := ih (Nat.lt_of_succ_lt_succ hfuel)
      simp [ofBytesWithin, hrest]

/-- A text all of whose bytes were escaped matches nothing but itself as a pattern. -/
theorem matchesAll_ofMarks_escaped (bytes text : Bytes) :
    matchesAll (ofMarks (bytes.map .escaped)) text = true ↔ text = bytes := by
  have hpattern : Mark.toPattern (bytes.map .escaped) = bytes.flatMap fun byte => [92, byte] := by
    have hplain : (bytes.map Mark.escaped).takeWhile Mark.isPlain = [] := by
      cases bytes <;> rfl
    rw [Mark.toPattern, hplain]
    exact escapedBytes_map_escaped bytes
  have hlength : bytes.length < (bytes.flatMap fun byte => [(92 : UInt8), byte]).length + 1 := by
    simp only [List.length_flatMap, List.length_cons, List.length_nil, List.map_const',
      List.sum_replicate_nat]
    omega
  rw [ofMarks, hpattern, ofBytes, ofBytesWithin_escaped bytes hlength, matchesAll_map_exactly]

/-- A text without a zero byte is seen whole. -/
theorem upToNul_of_not_mem {text : Bytes} (h : 0 ∉ text) : upToNul text = text := by
  refine List.takeWhile_eq_self_iff.mpr fun byte hmem => decide_eq_true ?_
  rintro rfl
  exact h hmem

/-- What is cut off the start of a value is its shortest beginning that matches, and nothing if none
does. -/
theorem trimStart_shortest (pattern : Bytes) {value : List Mark} (hnul : 0 ∉ Mark.bytes value) :
    (∀ count, count ≤ (Mark.bytes value).length →
        ¬ Matches (ofBytes pattern) ((Mark.bytes value).take count)) ∧
      trimStart pattern false value = 0 ∨
    Matches (ofBytes pattern) ((Mark.bytes value).take (trimStart pattern false value)) ∧
      ∀ count, count < trimStart pattern false value →
        ¬ Matches (ofBytes pattern) ((Mark.bytes value).take count) := by
  simp only [← matchesAll_iff, Bool.not_eq_true]
  rw [trimStart, if_neg Bool.false_ne_true]
  dsimp only
  rw [upToNul_of_not_mem hnul]
  cases hfound : (List.range ((Mark.bytes value).length + 1)).find? fun count =>
      matchesAll (ofBytes pattern) ((Mark.bytes value).take count) with
  | none =>
    rw [List.find?_range_eq_none] at hfound
    exact Or.inl ⟨fun count hcount => by simpa using hfound count (Nat.lt_succ_of_le hcount), rfl⟩
  | some count =>
    rw [List.find?_range_eq_some] at hfound
    exact Or.inr ⟨hfound.1, fun less hless => by simpa using hfound.2.2 less hless⟩

end Relocation.Shell.Pattern
