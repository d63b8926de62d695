import Relocation.Proofs.Environment.Truncation
import Relocation.Proofs.Launch.Environment
import Relocation.Proofs.Text.Utf8

/-!
# What a block is refused for

A record of a block is a part of it without zero bytes that cannot be made longer. It is
a variable if there is an equals sign in it and something before that. A block is refused
exactly if one of its records is no variable, and the failure names the first of them,
whatever stands before and behind it. Any other block is read, and gives a variable for
each of its records.
-/

namespace Relocation.Environment

open Session

/-- A record of a block, with what stands before it and behind it: some bytes, none of them zero,
between two zero bytes or the ends of the block. -/
structure IsRecord (block before record after : Bytes) : Prop where
  split : block = before ++ record ++ after
  ne_nil : record ≠ []
  nul_not_mem : 0 ∉ record
  ended : Ended before
  ends : after = [] ∨ ∃ rest, after = 0 :: rest

/-- A record that is no variable: it has no equals sign, or begins with one. -/
def Malformed (record : Bytes) : Prop :=
  equalsByte ∉ record ∨ ∃ value, record = equalsByte :: value

/-- The number of records that begin in a block behind a given byte: of bytes that are not zero and
stand behind one that is. -/
def recordCountFrom (previous : UInt8) (block : Bytes) : Nat :=
  ((previous :: block).zip block).countP fun (previous, byte) => previous = 0 && byte ≠ 0

/-- The number of records of a block. One begins at the beginning of the block as behind a zero
byte. -/
def recordCount (block : Bytes) : Nat :=
  recordCountFrom 0 block

variable {block before record after first : Bytes}

/-- A record is no variable exactly if it has no entry. -/
theorem entry?_eq_none_iff : entry? record = none ↔ Malformed record := by
  constructor
  · intro hnone
    by_cases hequals : equalsByte ∈ record
    · obtain ⟨key, value, hrecord, hkey⟩ := List.eq_append_cons_of_mem hequals
      right
      by_cases hempty : key = []
      · exact ⟨value, by rw [hrecord, hempty, List.nil_append]⟩
      · simp [entry?_eq_some_iff.mpr ⟨hempty, hkey, hrecord⟩] at hnone
    · exact Or.inl hequals
  · intro hmalformed
    cases hentry : entry? record with
    | none => rfl
    | some entry =>
      obtain ⟨key, value⟩ := entry
      obtain ⟨hne, hkey, rfl⟩ := entry?_eq_some_iff.mp hentry
      obtain ⟨byte, rest, rfl⟩ := List.exists_cons_of_ne_nil hne
      rcases hmalformed with hnone | ⟨other, hfirst⟩
      · simp at hnone
      · obtain ⟨rfl, _⟩ := List.cons.inj hfirst
        simp at hkey

/-- A zero byte at the beginning of a block ends no record. -/
theorem blockRecords_cons_nul (rest : Bytes) : blockRecords (0 :: rest) = blockRecords rest :=
  blockRecords_append_nul [] rest

/-- The records of a block are those before a record, the record and those behind it. -/
theorem IsRecord.blockRecords_eq (h : IsRecord block before record after) :
    blockRecords block = blockRecords before ++ record :: blockRecords after := by
  have hbehind : blockRecords (record ++ after) = record :: blockRecords after := by
    rcases h.ends with rfl | ⟨rest, rfl⟩
    · rw [List.append_nil, blockRecords_of_nul_not_mem h.nul_not_mem, if_neg h.ne_nil,
        blockRecords_nil]
    · rw [blockRecords_append_nul, blockRecords_of_nul_not_mem h.nul_not_mem, if_neg h.ne_nil,
        blockRecords_cons_nul, List.singleton_append]
  rw [h.split, List.append_assoc, h.ended.blockRecords_append, hbehind]

/-- A block that begins with a zero byte has the records of the rest. -/
theorem IsRecord.cons_nul (h : IsRecord block before record after) :
    IsRecord (0 :: block) (0 :: before) record after where
  split := by rw [h.split]; rfl
  ne_nil := h.ne_nil
  nul_not_mem := h.nul_not_mem
  ended := by
    rcases h.ended with rfl | ⟨front, rfl⟩
    · exact Or.inr ⟨[], rfl⟩
    · exact Or.inr ⟨0 :: front, rfl⟩
  ends := h.ends

/-- What stands behind a record begins with a zero byte, so a record there does not stand at its
beginning. -/
theorem IsRecord.exists_cons_nul {front rest : Bytes} (h : IsRecord block before record after)
    (hnext : IsRecord after front first rest) : ∃ more, front = 0 :: more := by
  obtain ⟨byte, tail, rfl⟩ := List.exists_cons_of_ne_nil hnext.ne_nil
  have hafter := hnext.split
  cases front with
  | nil =>
    rcases h.ends with rfl | ⟨more, rfl⟩
    · simp at hafter
    · obtain ⟨rfl, _⟩ := List.cons.inj hafter
      exact absurd List.mem_cons_self hnext.nul_not_mem
  | cons head more =>
    rcases h.ends with rfl | ⟨other, rfl⟩
    · simp at hafter
    · obtain ⟨rfl, _⟩ := List.cons.inj hafter
      exact ⟨more, rfl⟩

/-- A record of what stands behind a record is one of the whole block. -/
theorem IsRecord.append {front rest : Bytes} (h : IsRecord block before record after)
    (hnext : IsRecord after front first rest) :
    IsRecord block (before ++ record ++ front) first rest where
  split := by rw [h.split, hnext.split]; simp
  ne_nil := hnext.ne_nil
  nul_not_mem := hnext.nul_not_mem
  ended := by
    obtain ⟨more, hfront⟩ := h.exists_cons_nul hnext
    rcases hnext.ended with hempty | ⟨start, rfl⟩
    · simp [hempty] at hfront
    · exact Or.inr ⟨before ++ record ++ start, by simp⟩
  ends := hnext.ends

/-- The first record of a block has none before it. -/
theorem exists_first_isRecord {later : List Bytes} (h : blockRecords block = record :: later) :
    ∃ before after, IsRecord block before record after ∧ blockRecords before = [] ∧
      blockRecords after = later := by
  induction block with
  | nil => cases h
  | cons byte rest ih =>
    by_cases hbyte : byte = 0
    · subst hbyte
      rw [blockRecords_cons_nul] at h
      obtain ⟨before, after, hrecord, hbefore, hafter⟩ := ih h
      exact ⟨0 :: before, after, hrecord.cons_nul, by rw [blockRecords_cons_nul, hbefore], hafter⟩
    · by_cases hnul : 0 ∈ byte :: rest
      · obtain ⟨found, more, hsplit, hfound⟩ := List.eq_append_cons_of_mem hnul
        have hne : found ≠ [] := by
          rintro rfl
          exact hbyte (List.cons.inj hsplit).1
        rw [hsplit, blockRecords_append_nul, blockRecords_of_nul_not_mem hfound, if_neg hne,
          List.singleton_append] at h
        obtain ⟨rfl, rfl⟩ := List.cons.inj h
        exact ⟨[], 0 :: more, ⟨hsplit, hne, hfound, Or.inl rfl, Or.inr ⟨more, rfl⟩⟩, rfl,
          blockRecords_cons_nul more⟩
      · rw [blockRecords_of_nul_not_mem hnul, if_neg (by simp)] at h
        obtain ⟨rfl, rfl⟩ := List.cons.inj h
        exact ⟨[], [], ⟨by simp, by simp, hnul, Or.inl rfl, Or.inl rfl⟩, rfl, rfl⟩

/-- Each record of a block stands somewhere in it, behind the records before it and before those
behind it. -/
theorem exists_isRecord {earlier later : List Bytes}
    (h : blockRecords block = earlier ++ record :: later) :
    ∃ before after, IsRecord block before record after ∧ blockRecords before = earlier ∧
      blockRecords after = later := by
  induction earlier generalizing block with
  | nil => exact exists_first_isRecord h
  | cons head tail ih =>
    obtain ⟨before, after, hhead, hbefore, hafter⟩ := exists_first_isRecord h
    obtain ⟨front, rest, hrecord, hfront, hrest⟩ := ih hafter
    obtain ⟨more, rfl⟩ := hhead.exists_cons_nul hrecord
    have hpart : IsRecord (before ++ head ++ 0 :: more) before head (0 :: more) :=
      ⟨rfl, hhead.ne_nil, hhead.nul_not_mem, hhead.ended, Or.inr ⟨more, rfl⟩⟩
    refine ⟨_, rest, hhead.append hrecord, ?_, hrest⟩
    rw [hpart.blockRecords_eq, hbefore, hfront, List.nil_append]

/-- The records of a block are what stands as a record somewhere in it. -/
theorem mem_blockRecords_iff :
    record ∈ blockRecords block ↔ ∃ before after, IsRecord block before record after := by
  constructor
  · intro hmem
    obtain ⟨earlier, later, hsplit⟩ := List.mem_iff_append.mp hmem
    obtain ⟨before, after, hrecord, _⟩ := exists_isRecord hsplit
    exact ⟨before, after, hrecord⟩
  · rintro ⟨before, after, hrecord⟩
    rw [hrecord.blockRecords_eq]
    exact List.mem_append_right _ List.mem_cons_self

/-- A record begins with the first byte of a block, or the records begin behind that byte. -/
theorem recordCountFrom_cons (previous byte : UInt8) (rest : Bytes) :
    recordCountFrom previous (byte :: rest) =
      recordCountFrom byte rest + if previous = 0 ∧ byte ≠ 0 then 1 else 0 := by
  simp [recordCountFrom, List.countP_cons]

/-- The number of records of a block that begins inside a record of which `first` was read: those
that begin later, and that record itself. -/
theorem length_blockRecords_append {previous : UInt8} (h : 0 ∉ first)
    (hprevious : previous = 0 ↔ first = []) (block : Bytes) :
    (blockRecords (first ++ block)).length =
      recordCountFrom previous block + if first = [] then 0 else 1 := by
  induction block generalizing first previous with
  | nil =>
    rw [List.append_nil, blockRecords_of_nul_not_mem h]
    cases first <;> simp [recordCountFrom]
  | cons byte rest ih =>
    rw [recordCountFrom_cons]
    by_cases hbyte : byte = 0
    · subst hbyte
      have hrest := @ih [] 0 (by simp) (by simp)
      rw [blockRecords_append_nul, blockRecords_of_nul_not_mem h, List.length_append]
      cases first <;> simp_all [Nat.add_comm]
    · have hne : 0 ≠ byte := fun heq => hbyte heq.symm
      have hnext := @ih (first ++ [byte]) byte (by simp [h, hne]) (by simp [hbyte])
      rw [List.append_assoc] at hnext
      by_cases hfirst : first = [] <;> simp_all

/-- The records of a block are as many as begin in it. -/
theorem length_blockRecords (block : Bytes) : (blockRecords block).length = recordCount block :=
  @length_blockRecords_append [] 0 (by simp) (by simp) block

/-- A block is read, with a variable for each of its records, if each of them has an entry. -/
theorem parseBlock_of_malformedRecord?_eq_none (h : malformedRecord? block = none) :
    ∃ overlay, parseBlock block = .ok overlay ∧ overlay.length = recordCount block := by
  refine ⟨⟨(blockRecords block).filterMap entry?⟩, by rw [parseBlock_eq, h]; rfl, ?_⟩
  have hrecords := congrArg List.length (map_recordOf_entries h)
  rw [List.length_map] at hrecords
  rw [Overlay.length, hrecords, length_blockRecords]

/-- The first record of a block that has no entry is one that is no variable, and every record
before it is one. -/
theorem malformedRecord?_eq_some_iff :
    malformedRecord? block = some record ↔
      ∃ before after, IsRecord block before record after ∧ Malformed record ∧
        ∀ front earlier rest, IsRecord before front earlier rest → ¬ Malformed earlier := by
  rw [malformedRecord?, List.find?_eq_some_iff_append]
  constructor
  · rintro ⟨hnone, earlier, later, hsplit, hearlier⟩
    obtain ⟨before, after, hrecord, hbefore, _⟩ := exists_isRecord hsplit
    refine ⟨before, after, hrecord, entry?_eq_none_iff.mp (of_decide_eq_true hnone), ?_⟩
    intro front other rest hother hmalformed
    have hmem : other ∈ earlier := hbefore ▸ mem_blockRecords_iff.mpr ⟨front, rest, hother⟩
    simpa [entry?_eq_none_iff.mpr hmalformed] using hearlier other hmem
  · rintro ⟨before, after, hrecord, hmalformed, hearlier⟩
    refine ⟨decide_eq_true (entry?_eq_none_iff.mpr hmalformed), blockRecords before,
      blockRecords after, hrecord.blockRecords_eq, fun other hmem => ?_⟩
    obtain ⟨front, rest, hother⟩ := mem_blockRecords_iff.mp hmem
    simpa [entry?_eq_none_iff] using hearlier front other rest hother

/-- A block has no record without an entry exactly if each of its records is a variable. -/
theorem malformedRecord?_eq_none_iff :
    malformedRecord? block = none ↔
      ∀ before record after, IsRecord block before record after → ¬ Malformed record := by
  rw [malformedRecord?, List.find?_eq_none]
  constructor
  · intro h before record after hrecord hmalformed
    simpa [entry?_eq_none_iff.mpr hmalformed] using
      h record (mem_blockRecords_iff.mpr ⟨before, after, hrecord⟩)
  · intro h record hmem
    obtain ⟨before, after, hrecord⟩ := mem_blockRecords_iff.mp hmem
    simpa [entry?_eq_none_iff] using h before record after hrecord

/-- An import that reads a block which is refused fails with the text of the refusal. -/
theorem importFrom_of_refused {target : Target} {system : System} {past events : History}
    {text : String}
    (hread : readBlock target.environmentPath system past = (.ok block, events))
    (hrefused : parseBlock block = .error text) :
    importFrom target system past = (.error (.malformedVariable text), events) := by
  rw [importFrom, bind_of_ok hread, hrefused]
  simp

/-- A block is refused exactly if some record of it is no variable. The failure then shows the text
of such a record before which there is none, which is the record byte for byte if that is UTF-8. It
is the failure of an import that reads the block. Otherwise the block gives as many variables as it
has records. -/
theorem parseBlock_refuses_first (block : Bytes) :
    ((∃ text, parseBlock block = .error text) ↔
      ∃ before record after, IsRecord block before record after ∧ Malformed record) ∧
    (∀ text, parseBlock block = .error text ↔
      ∃ before record after, IsRecord block before record after ∧ Malformed record ∧
        (∀ front earlier rest, IsRecord before front earlier rest → ¬ Malformed earlier) ∧
        Utf8.textLossy record = text) ∧
    (∀ record : Bytes, record.toByteArray.IsValidUTF8 →
      Bytes.ofString (Utf8.textLossy record) = record) ∧
    (∀ target system past events text,
      readBlock target.environmentPath system past = (.ok block, events) →
      parseBlock block = .error text →
      importFrom target system past = (.error (.malformedVariable text), events)) ∧
    ((∀ before record after, IsRecord block before record after → ¬ Malformed record) →
      ∃ overlay, parseBlock block = .ok overlay ∧ overlay.length = recordCount block) := by
  have hnone := @malformedRecord?_eq_none_iff block
  refine ⟨?_, fun text => ?_, fun _ => Utf8.ofString_textLossy,
    fun _ _ _ _ _ => importFrom_of_refused,
    fun h => parseBlock_of_malformedRecord?_eq_none (hnone.mpr h)⟩
  · constructor
    · rintro ⟨text, htext⟩
      obtain ⟨record, hrecord, _⟩ := parseBlock_eq_error_iff.mp htext
      obtain ⟨before, after, hplace, hmalformed, _⟩ := malformedRecord?_eq_some_iff.mp hrecord
      exact ⟨before, record, after, hplace, hmalformed⟩
    · rintro ⟨before, record, after, hplace, hmalformed⟩
      cases hfound : malformedRecord? block with
      | none => exact absurd hmalformed (hnone.mp hfound before record after hplace)
      | some first => exact ⟨_, parseBlock_eq_error_iff.mpr ⟨first, hfound, rfl⟩⟩
  · rw [parseBlock_eq_error_iff]
    constructor
    · rintro ⟨record, hrecord, htext⟩
      obtain ⟨before, after, hplace, hmalformed, hfirst⟩ := malformedRecord?_eq_some_iff.mp hrecord
      exact ⟨before, record, after, hplace, hmalformed, hfirst, htext⟩
    · rintro ⟨before, record, after, hplace, hmalformed, hfirst, htext⟩
      exact ⟨record, malformedRecord?_eq_some_iff.mpr ⟨before, after, hplace, hmalformed, hfirst⟩,
        htext⟩

/-- The block `A=1__=x_N`, where `_` is a zero byte, is refused for `=x`, and so is its import. The
block `_A=1__B=`, whose last record is not ended, gives two variables. -/
theorem parseBlock_refuses_first_of_two :
    parseBlock [65, 61, 49, 0, 0, 61, 120, 0, 78] = .error "=x" ∧
      Bytes.ofString (Utf8.textLossy [61, 120]) = [61, 120] ∧
      (importFrom ⟨7, by decide, by decide⟩
          (System.obliging [65, 61, 49, 0, 0, 61, 120, 0, 78] .empty) []).1 =
        .error (.malformedVariable "=x") ∧
      ∃ overlay, parseBlock [0, 65, 61, 49, 0, 0, 66, 61] = .ok overlay ∧ overlay.length = 2 := by
  have hrecord : IsRecord [65, 61, 49, 0, 0, 61, 120, 0, 78] [65, 61, 49, 0, 0] [61, 120]
      [0, 78] :=
    ⟨rfl, by simp, by decide, Or.inr ⟨[65, 61, 49, 0], rfl⟩, Or.inr ⟨[78], rfl⟩⟩
  have hfirst := (@malformedRecord?_eq_none_iff [65, 61, 49, 0, 0]).mp rfl
  have hrefused := ((parseBlock_refuses_first [65, 61, 49, 0, 0, 61, 120, 0, 78]).2.1 "=x").mpr
    ⟨_, [61, 120], _, hrecord, Or.inr ⟨[120], rfl⟩, hfirst, rfl⟩
  have hutf8 := (parseBlock_refuses_first []).2.2.1 [61, 120] ⟨['=', 'x'], rfl⟩
  have himport := (parseBlock_refuses_first [65, 61, 49, 0, 0, 61, 120, 0, 78]).2.2.2.1
    ⟨7, by decide, by decide⟩ (System.obliging [65, 61, 49, 0, 0, 61, 120, 0, 78] .empty) [] _ _
    (Prod.ext (by decide +kernel) rfl) hrefused
  have hread := (parseBlock_refuses_first [0, 65, 61, 49, 0, 0, 66, 61]).2.2.2.2
    (malformedRecord?_eq_none_iff.mp rfl)
  exact ⟨hrefused, hutf8, congrArg Prod.fst himport, hread⟩

end Relocation.Environment
