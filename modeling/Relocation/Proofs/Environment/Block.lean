import Relocation.Environment.Block
import Relocation.Proofs.Environment.Variables

/-!
# The records of a block

A block is split at its zero bytes, and a record at its first equals sign. The records
are those that the library's `List.splitOn` gives, a record has an entry if it is a key
that is not empty and has no equals sign, an equals sign and a value, and a block is
read as the entries of its records unless one of them has none. So the variables of a
block give each key the value of the last record for it.
-/

namespace Relocation

namespace Bytes

variable {isSeparator : UInt8 → Bool} {bytes before after : Bytes}

/-- The pieces of a byte string are those into which the library splits it. -/
theorem splitOn_eq_splitOnP (isSeparator : UInt8 → Bool) (bytes : Bytes) :
    bytes.splitOn isSeparator = List.splitOnP isSeparator bytes := by
  induction bytes with
  | nil => simp [splitOn]
  | cons byte rest ih =>
    have hne : Bytes.splitOn isSeparator rest ≠ [] := by
      rw [ih]
      exact List.splitOnP_ne_nil _ _
    obtain ⟨piece, pieces, hpieces⟩ := List.exists_cons_of_ne_nil hne
    rw [List.splitOnP_cons_eq_if_modifyHead, ← ih, hpieces]
    unfold splitOn at hpieces ⊢
    rw [List.foldr_cons, hpieces]
    split <;> rfl

/-- The pieces between zero bytes are those into which the library splits at zero bytes. -/
theorem splitOn_nul (bytes : Bytes) : bytes.splitOn (· = 0) = List.splitOn 0 bytes := by
  rw [splitOn_eq_splitOnP, List.splitOn]
  congr 1

/-- There is nothing to cut in the empty byte string. -/
@[simp] theorem cut?_nil (isSeparator : UInt8 → Bool) : cut? isSeparator [] = none := rfl

/-- A byte string is cut at its first byte, or as the rest is cut. -/
theorem cut?_cons (isSeparator : UInt8 → Bool) (byte : UInt8) (rest : Bytes) :
    cut? isSeparator (byte :: rest) =
      if isSeparator byte then some ([], rest)
      else (cut? isSeparator rest).map fun (before, after) => (byte :: before, after) := by
  unfold cut?
  cases hbyte : isSeparator byte with
  | true => simp [hbyte]
  | false =>
    simp only [List.dropWhile_cons, List.takeWhile_cons, hbyte, Bool.not_false, if_true,
      Bool.false_eq_true, if_false]
    split <;> rfl

/-- A byte string is cut at its first separator. -/
theorem cut?_eq_some_iff :
    cut? isSeparator bytes = some (before, after) ↔
      ∃ separator, isSeparator separator = true ∧ bytes = before ++ separator :: after ∧
        ∀ byte ∈ before, isSeparator byte = false := by
  induction bytes generalizing before with
  | nil => simp
  | cons byte rest ih =>
    rw [cut?_cons]
    cases hbyte : isSeparator byte with
    | true =>
      rw [if_pos rfl]
      constructor
      · intro h
        obtain ⟨rfl, rfl⟩ : [] = before ∧ rest = after := by simpa using h
        exact ⟨byte, hbyte, rfl, by simp⟩
      · rintro ⟨separator, hseparator, heq, hbefore⟩
        cases before with
        | nil => simp_all
        | cons head tail =>
          obtain ⟨rfl, _⟩ := List.cons.inj heq
          simp [hbyte] at hbefore
    | false =>
      rw [if_neg Bool.false_ne_true]
      constructor
      · intro h
        obtain ⟨⟨tail, other⟩, hcut, heq⟩ := Option.map_eq_some_iff.mp h
        obtain ⟨rfl, rfl⟩ : byte :: tail = before ∧ other = after := by simpa using heq
        obtain ⟨separator, hseparator, rfl, htail⟩ := ih.mp hcut
        exact ⟨separator, hseparator, rfl, by simpa [hbyte] using htail⟩
      · rintro ⟨separator, hseparator, heq, hbefore⟩
        cases before with
        | nil =>
          obtain ⟨rfl, _⟩ := List.cons.inj heq
          simp [hbyte] at hseparator
        | cons head tail =>
          obtain ⟨rfl, rfl⟩ := List.cons.inj heq
          have hcut := ih.mpr ⟨separator, hseparator, rfl,
            fun other hmem => hbefore other (List.mem_cons_of_mem _ hmem)⟩
          rw [hcut]
          rfl

end Bytes

namespace Environment

/-- A record has an entry if it is a key that is not empty and has no equals sign in it, an equals
sign, and a value. -/
theorem entry?_eq_some_iff {record key value : Bytes} :
    entry? record = some (key, value) ↔
      key ≠ [] ∧ equalsByte ∉ key ∧ record = key ++ equalsByte :: value := by
  have hcut : record.cut? (· = equalsByte) = some (key, value) ↔
      equalsByte ∉ key ∧ record = key ++ equalsByte :: value := by
    rw [Bytes.cut?_eq_some_iff]
    constructor
    · rintro ⟨separator, hseparator, hrecord, hkey⟩
      obtain rfl : separator = equalsByte := by simpa using hseparator
      exact ⟨fun hmem => by simpa using hkey _ hmem, hrecord⟩
    · rintro ⟨hkey, hrecord⟩
      refine ⟨equalsByte, by simp, hrecord, fun byte hmem => ?_⟩
      rw [decide_eq_false_iff_not]
      rintro rfl
      exact hkey hmem
  rw [← hcut, entry?]
  cases record.cut? (· = equalsByte) with
  | none => simp
  | some found =>
    obtain ⟨foundKey, foundValue⟩ := found
    cases foundKey with
    | nil =>
      refine iff_of_false (by simp) ?_
      rintro ⟨hne, heq⟩
      cases heq
      exact hne rfl
    | cons head tail =>
      refine (and_iff_right_of_imp ?_).symm
      rintro heq rfl
      simp at heq

/-- The first record of a block that is no variable, if there is one. -/
def malformedRecord? (block : Bytes) : Option Bytes :=
  (blockRecords block).find? (fun record => entry? record = none)

/-- Reading records one by one gives their entries, or fails for the first record that has none. -/
theorem mapM_read_eq {read : Bytes → Except String Entry}
    (hentry : ∀ record entry, entry? record = some entry → read record = .ok entry)
    (hnone : ∀ record, entry? record = none → read record = .error (Utf8.textLossy record))
    (records : List Bytes) :
    records.mapM read =
      (records.find? fun record => entry? record = none).elim (.ok (records.filterMap entry?))
        fun record => .error (Utf8.textLossy record) := by
  induction records with
  | nil => rfl
  | cons record rest ih =>
    rw [List.mapM_cons, ih, List.find?_cons, List.filterMap_cons]
    cases hrecord : entry? record with
    | none =>
      rw [hnone record hrecord]
      rfl
    | some entry =>
      rw [hentry record entry hrecord]
      cases rest.find? fun record => entry? record = none <;> rfl

/-- A block is read as the entries of its records, unless it is refused for the first one that is
no variable. -/
theorem parseBlock_eq (block : Bytes) :
    parseBlock block =
      (malformedRecord? block).elim (.ok ⟨(blockRecords block).filterMap entry?⟩)
        fun record => .error (Utf8.textLossy record) := by
  rw [parseBlock, malformedRecord?, mapM_read_eq]
  · cases (blockRecords block).find? fun record => entry? record = none <;> rfl
  · intro record entry h
    rw [h]
  · intro record h
    rw [h]

/-- The failure of a block that is refused shows the text of a record. -/
theorem parseBlock_eq_error_iff {block : Bytes} {text : String} :
    parseBlock block = .error text ↔
      ∃ record, malformedRecord? block = some record ∧ Utf8.textLossy record = text := by
  rw [parseBlock_eq]
  cases malformedRecord? block <;> simp

/-- The records of a block are the pieces between its zero bytes that are not empty. -/
theorem blockRecords_eq (block : Bytes) :
    blockRecords block = (List.splitOn 0 block).filter (fun record => !record.isEmpty) := by
  rw [blockRecords, Bytes.splitOn_nul]

/-- Empty pieces have no entry, so the entries of a block are those of all its pieces. -/
theorem filterMap_blockRecords (block : Bytes) :
    (blockRecords block).filterMap entry? = (List.splitOn 0 block).filterMap entry? := by
  rw [blockRecords_eq, List.filterMap_filter]
  congr 1
  funext record
  cases record <;> rfl

/-- The last of several records for a key has a value: the key stands before the first equals sign
of the record, and of no record behind it. -/
def LastRecord (records : List Bytes) (key value : Bytes) : Prop :=
  equalsByte ∉ key ∧ ∃ before after,
    records = before ++ (key ++ equalsByte :: value) :: after ∧
      ∀ record ∈ after, ¬ key ++ [equalsByte] <+: record

variable {records : List Bytes} {record key value : Bytes}

/-- The last record for a key is a record. -/
theorem LastRecord.mem (h : LastRecord records key value) :
    key ++ equalsByte :: value ∈ records := by
  obtain ⟨_, before, after, rfl, _⟩ := h
  exact List.mem_append_right before List.mem_cons_self

/-- The last record for a key is the last one behind the first record, or the first record itself
if there is none behind it. -/
theorem lastRecord_cons :
    LastRecord (record :: records) key value ↔ LastRecord records key value ∨
      ((∀ later ∈ records, ¬ key ++ [equalsByte] <+: later) ∧
        equalsByte ∉ key ∧ record = key ++ equalsByte :: value) := by
  constructor
  · rintro ⟨hkey, before, after, heq, hafter⟩
    cases before with
    | nil =>
      obtain ⟨rfl, rfl⟩ := List.cons.inj heq
      exact Or.inr ⟨hafter, hkey, rfl⟩
    | cons head tail =>
      obtain ⟨rfl, rfl⟩ := List.cons.inj heq
      exact Or.inl ⟨hkey, tail, after, rfl, hafter⟩
  · rintro (⟨hkey, before, after, rfl, hafter⟩ | ⟨hafter, hkey, rfl⟩)
    · exact ⟨hkey, record :: before, after, rfl, hafter⟩
    · exact ⟨hkey, [], records, rfl, hafter⟩

/-- Records give a key no value exactly if none of them is for the key. -/
theorem get?_filterMap_eq_none_iff (hempty : key ≠ []) (hequals : equalsByte ∉ key) :
    (⟨records.filterMap entry?⟩ : Overlay).get? key = none ↔
      ∀ record ∈ records, ¬ key ++ [equalsByte] <+: record := by
  rw [Overlay.get?, Option.map_eq_none_iff, List.find?_eq_none]
  constructor
  · rintro h record hrecord ⟨value, rfl⟩
    have hentry : entry? (key ++ [equalsByte] ++ value) = some (key, value) :=
      entry?_eq_some_iff.mpr ⟨hempty, hequals, by simp⟩
    exact h (key, value) (List.mem_reverse.mpr (List.mem_filterMap.mpr ⟨_, hrecord, hentry⟩))
      (by simp)
  · intro h entry hmem hkey
    obtain ⟨record, hrecord, hentry⟩ := List.mem_filterMap.mp (List.mem_reverse.mp hmem)
    obtain ⟨_, _, rfl⟩ := entry?_eq_some_iff.mp hentry
    obtain rfl : entry.1 = key := by simpa using hkey
    exact h _ hrecord ⟨entry.2, by simp⟩

/-- Records give a key that is not empty the value of the last one for the key. -/
theorem get?_filterMap_eq_some_iff (hempty : key ≠ []) :
    (⟨records.filterMap entry?⟩ : Overlay).get? key = some value ↔
      LastRecord records key value := by
  induction records with
  | nil => simp [LastRecord, List.filterMap_nil]
  | cons record rest ih =>
    rw [lastRecord_cons, ← ih, List.filterMap_cons]
    cases hentry : entry? record with
    | none =>
      refine (or_iff_left ?_).symm
      rintro ⟨_, hkey, heq⟩
      rw [entry?_eq_some_iff.mpr ⟨hempty, hkey, heq⟩] at hentry
      cases hentry
    | some entry =>
      obtain ⟨foundKey, foundValue⟩ := entry
      have hfirst : (if foundKey = key then some foundValue else none) = some value ↔
          equalsByte ∉ key ∧ record = key ++ equalsByte :: value := by
        have hiff := @entry?_eq_some_iff record key value
        rw [hentry, and_iff_right hempty] at hiff
        rw [← hiff]
        simp
      rw [Overlay.get?_cons, Option.or_eq_some_iff, hfirst]
      refine or_congr_right (and_congr_left ?_)
      rintro ⟨hkey, _⟩
      exact get?_filterMap_eq_none_iff hempty hkey

/-- No record gives a value to the empty key. -/
theorem get?_filterMap_empty : (⟨records.filterMap entry?⟩ : Overlay).get? [] = none := by
  rw [Overlay.get?, Option.map_eq_none_iff, List.find?_eq_none]
  intro entry hmem
  obtain ⟨record, _, hentry⟩ := List.mem_filterMap.mp (List.mem_reverse.mp hmem)
  have hempty := (entry?_eq_some_iff.mp hentry).1
  simpa using hempty

/-- The variables of a block are those of its records: each key has the value of the last record
for it. -/
theorem get?_of_parseBlock {block : Bytes} {overlay : Overlay}
    (h : parseBlock block = .ok overlay) :
    overlay.get? key = some value ↔ LastRecord (List.splitOn 0 block) key value := by
  rw [parseBlock_eq] at h
  cases hmalformed : malformedRecord? block with
  | some record => simp [hmalformed] at h
  | none =>
    obtain rfl : _ = overlay := by simpa [hmalformed] using h
    rw [filterMap_blockRecords]
    by_cases hempty : key = []
    · -- A record for the empty key has no entry, so there is none in a block that is accepted.
      subst hempty
      rw [get?_filterMap_empty]
      refine iff_of_false (by simp) ?_
      intro hlast
      have hmem : [] ++ equalsByte :: value ∈ blockRecords block := by
        rw [blockRecords_eq, List.mem_filter]
        exact ⟨hlast.mem, rfl⟩
      have hnone : entry? ([] ++ equalsByte :: value) = none := rfl
      exact List.find?_eq_none.mp hmalformed _ hmem (decide_eq_true hnone)
    · exact get?_filterMap_eq_some_iff hempty

end Environment

end Relocation
