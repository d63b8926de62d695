import Mathlib.Data.List.Basic
import Mathlib.Data.List.TakeWhile
import Relocation.Text.Blank

/-!
# Texts without blanks at their ends

Of every text there is exactly one part with nothing but blanks before it and after it
and no blank at either of its own ends. This is what trimming leaves.
-/

namespace Relocation.Blank

/-- An ASCII digit is not blank. -/
theorem isBlank_of_isDigit {c : Char} (h : c.isDigit = true) : isBlank c = false := by
  have hrange : 48 ≤ c.toNat ∧ c.toNat ≤ 57 := by
    simpa [Char.isDigit, UInt32.le_iff_toNat_le] using h
  simp only [isBlank, ranges, List.any_cons, List.any_nil, Bool.or_false, Bool.or_eq_false_iff,
    decide_eq_false_iff_not]
  omega

/-- A text is another one without the blanks at its start and at its end. -/
structure Trimmed (text body : List Char) : Prop where
  between : ∃ before after, text = before ++ body ++ after ∧
    (∀ c ∈ before, isBlank c = true) ∧ ∀ c ∈ after, isBlank c = true
  start : ∀ c, body.head? = some c → isBlank c = false
  ending : ∀ c, body.getLast? = some c → isBlank c = false

/-- A text that begins with no blank is left as it is. -/
theorem dropWhile_isBlank_eq_self {text : List Char}
    (h : ∀ c, text.head? = some c → isBlank c = false) : text.dropWhile isBlank = text := by
  cases text with
  | nil => rfl
  | cons c rest => rw [List.dropWhile_cons_of_neg (by simp [h c rfl])]

/-- What is left when the blanks at the start are left out begins with no blank. -/
theorem isBlank_of_head?_dropWhile (text : List Char) {c : Char}
    (h : (text.dropWhile isBlank).head? = some c) : isBlank c = false := by
  have hnot := List.head?_dropWhile_not isBlank text
  rw [h] at hnot
  exact hnot

/-- The blanks at the start of a text come before what is left of it. -/
theorem exists_blanks_append_dropWhile (text : List Char) :
    ∃ blanks, text = blanks ++ text.dropWhile isBlank ∧ ∀ c ∈ blanks, isBlank c = true :=
  ⟨text.takeWhile isBlank, List.takeWhile_append_dropWhile.symm,
    fun _ hc => List.mem_takeWhile_imp hc⟩

/-- Trimming leaves out the blanks at the ends and nothing else. -/
theorem trimmed_trim (text : List Char) : Trimmed text (trim text) := by
  obtain ⟨before, hbefore, hbeforeBlank⟩ := exists_blanks_append_dropWhile text
  obtain ⟨after, hafter, hafterBlank⟩ :=
    exists_blanks_append_dropWhile (text.dropWhile isBlank).reverse
  have hsplit : text.dropWhile isBlank = trim text ++ after.reverse := by
    rw [trim, ← List.reverse_append, ← hafter, List.reverse_reverse]
  refine ⟨⟨before, after.reverse, ?_, hbeforeBlank, by simpa using hafterBlank⟩, ?_, ?_⟩
  · rw [List.append_assoc, ← hsplit]
    exact hbefore
  · intro c hc
    refine isBlank_of_head?_dropWhile text ?_
    rw [hsplit, List.head?_append, hc, Option.some_or]
  · intro c hc
    rw [trim, List.getLast?_reverse] at hc
    exact isBlank_of_head?_dropWhile _ hc

/-- A text that begins and ends with no blank is what trimming leaves of it among blanks. -/
theorem Trimmed.eq_trim {text body : List Char} (h : Trimmed text body) : body = trim text := by
  obtain ⟨before, after, rfl, hbefore, hafter⟩ := h.between
  rw [trim, List.append_assoc, List.dropWhile_append_of_pos hbefore]
  by_cases hnil : body = []
  · -- Nothing but blanks: those before and those after are left out together.
    have hnone : after.dropWhile isBlank = [] := List.dropWhile_eq_nil_iff.mpr hafter
    rw [hnil, List.nil_append, hnone]
    rfl
  · have hstart : ∀ c, (body ++ after).head? = some c → isBlank c = false := by
      rw [List.head?_append_of_ne_nil _ hnil]
      exact h.start
    have hreverse : ∀ c ∈ after.reverse, isBlank c = true := by simpa using hafter
    have hending : ∀ c, body.reverse.head? = some c → isBlank c = false := by
      simpa using h.ending
    rw [dropWhile_isBlank_eq_self hstart, List.reverse_append,
      List.dropWhile_append_of_pos hreverse, dropWhile_isBlank_eq_self hending,
      List.reverse_reverse]

/-- There is one text without the blanks at the ends, which is what trimming leaves. -/
theorem trimmed_iff {text body : List Char} : Trimmed text body ↔ body = trim text :=
  ⟨Trimmed.eq_trim, fun h => h ▸ trimmed_trim text⟩

/-- A text that begins and ends with no blank is left as it is. -/
theorem trim_eq_self {text : List Char} (hstart : ∀ c, text.head? = some c → isBlank c = false)
    (hending : ∀ c, text.getLast? = some c → isBlank c = false) : trim text = text :=
  (Trimmed.eq_trim ⟨⟨[], [], by simp⟩, hstart, hending⟩).symm

end Relocation.Blank
