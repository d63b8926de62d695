import Relocation.Proofs.Environment.Block

/-!
# Listing variables as a block

Variables are listed one after the other, each as a record that a zero byte ends. Such a
list is read as the variables that were written, in their order and with every one that
is overridden later. Conversely a block that is accepted is the list of its variables, up
to the zero bytes that end no record and the one that may be missing at the end: reading
a block and listing it again only tidies it.
-/

namespace Relocation.Environment

/-- The record of a variable: the key, an equals sign and the value. -/
def recordOf (entry : Entry) : Bytes :=
  entry.1 ++ equalsByte :: entry.2

/-- A key and a value that a block can list: the key is not empty and holds no equals sign, and
neither of them holds a zero byte. -/
structure Listable (entry : Entry) : Prop where
  key_ne_nil : entry.1 ≠ []
  equals_not_mem_key : equalsByte ∉ entry.1
  nul_not_mem_key : 0 ∉ entry.1
  nul_not_mem_value : 0 ∉ entry.2

/-- A block with the zero bytes left out that end no record, and with one at its end if a record
is not ended there. Whether the place where it begins lies inside a record is given. -/
def tidyFrom (inside : Bool) : Bytes → Bytes
  | [] => if inside then [0] else []
  | byte :: rest =>
    if byte = 0 then
      if inside then 0 :: tidyFrom false rest else tidyFrom false rest
    else byte :: tidyFrom true rest

/-- A block without its empty records and with its last record ended. -/
def tidy (block : Bytes) : Bytes :=
  tidyFrom false block

variable {block first record : Bytes} {entries : List Entry} {entry : Entry} {overlay : Overlay}

/-- A record has a given entry if it is the record of that entry, whose key is not empty and holds
no equals sign. -/
theorem entry?_eq_some_iff_recordOf :
    entry? record = some entry ↔
      record = recordOf entry ∧ entry.1 ≠ [] ∧ equalsByte ∉ entry.1 := by
  obtain ⟨key, value⟩ := entry
  rw [entry?_eq_some_iff, recordOf]
  constructor
  · rintro ⟨hne, hequals, rfl⟩
    exact ⟨rfl, hne, hequals⟩
  · rintro ⟨rfl, hne, hequals⟩
    exact ⟨hne, hequals, rfl⟩

/-- There is no zero byte in the record of a variable that can be listed. -/
theorem Listable.nul_not_mem_recordOf (h : Listable entry) : 0 ∉ recordOf entry := by
  have hequals : (0 : UInt8) ≠ equalsByte := by decide
  simp [recordOf, h.nul_not_mem_key, h.nul_not_mem_value, hequals]

/-- No record is empty. -/
theorem recordOf_ne_nil (entry : Entry) : recordOf entry ≠ [] := by
  simp [recordOf]

/-- There are no records in the empty block. -/
@[simp] theorem blockRecords_nil : blockRecords [] = [] := rfl

/-- A zero byte parts the records before it from those behind it. -/
theorem blockRecords_append_nul (first rest : Bytes) :
    blockRecords (first ++ 0 :: rest) = blockRecords first ++ blockRecords rest := by
  rw [blockRecords_eq, blockRecords_eq, blockRecords_eq, List.splitOn_append_cons_self,
    List.filter_append]

/-- Bytes without a zero byte are one record, unless there are none. -/
theorem blockRecords_of_nul_not_mem (h : 0 ∉ record) :
    blockRecords record = if record = [] then [] else [record] := by
  rw [blockRecords_eq, List.splitOn_eq_singleton h]
  cases record <;> simp

/-- There is no zero byte in a piece between zero bytes. -/
theorem nul_not_mem_of_mem_splitOn (h : record ∈ List.splitOn 0 block) : 0 ∉ record := by
  induction block generalizing record with
  | nil =>
    obtain rfl : record = [] := by simpa using h
    simp
  | cons byte rest ih =>
    rw [List.splitOn_cons_eq_if_modifyHead] at h
    split at h
    · rcases List.mem_cons.mp h with rfl | h
      · simp
      · exact ih h
    · next hbyte =>
      obtain ⟨piece, pieces, hpieces⟩ := List.exists_cons_of_ne_nil (List.splitOn_ne_nil 0 rest)
      rw [hpieces, List.modifyHead_cons] at h
      rw [hpieces] at ih
      rcases List.mem_cons.mp h with rfl | h
      · have hpiece : 0 ∉ piece := ih List.mem_cons_self
        have hne : 0 ≠ byte := fun heq => hbyte (by simp [heq])
        simp [hpiece, hne]
      · exact ih (List.mem_cons_of_mem _ h)

/-- There is no zero byte in a record of a block. -/
theorem nul_not_mem_of_mem_blockRecords (h : record ∈ blockRecords block) : 0 ∉ record := by
  rw [blockRecords_eq] at h
  exact nul_not_mem_of_mem_splitOn (List.mem_filter.mp h).1

/-- The records of variables give these variables back, and none of them is malformed. -/
theorem entries_map_recordOf
    (h : ∀ entry ∈ entries, entry.1 ≠ [] ∧ equalsByte ∉ entry.1) :
    (entries.map recordOf).filterMap entry? = entries ∧
      (entries.map recordOf).find? (fun record => entry? record = none) = none := by
  induction entries with
  | nil => exact ⟨rfl, rfl⟩
  | cons entry rest ih =>
    have hentry : entry? (recordOf entry) = some entry :=
      entry?_eq_some_iff_recordOf.mpr ⟨rfl, h entry List.mem_cons_self⟩
    obtain ⟨hrest, hfind⟩ := ih fun entry hmem => h entry (List.mem_cons_of_mem _ hmem)
    constructor
    · rw [List.map_cons, List.filterMap_cons, hentry, hrest]
    · simpa [hentry] using hfind

/-- Records of which none is malformed are those of their variables. -/
theorem map_recordOf_entries {records : List Bytes}
    (h : records.find? (fun record => entry? record = none) = none) :
    (records.filterMap entry?).map recordOf = records := by
  induction records with
  | nil => rfl
  | cons record rest ih =>
    rw [List.find?_cons] at h
    cases hentry : entry? record with
    | none => simp [hentry] at h
    | some entry =>
      have hrecord := (entry?_eq_some_iff_recordOf.mp hentry).1
      simp only [hentry, reduceCtorEq, decide_false] at h
      rw [List.filterMap_cons, hentry, List.map_cons, ih h, ← hrecord]

/-- A block is accepted exactly if each of its records is that of a variable, with a key that is
not empty and holds no equals sign. -/
theorem parseBlock_eq_ok_iff :
    parseBlock block = .ok overlay ↔
      blockRecords block = overlay.records.map recordOf ∧
        ∀ entry ∈ overlay.records, entry.1 ≠ [] ∧ equalsByte ∉ entry.1 := by
  rw [parseBlock_eq, malformedRecord?]
  constructor
  · intro h
    cases hfind : (blockRecords block).find? fun record => entry? record = none with
    | some record => simp [hfind] at h
    | none =>
      obtain rfl : ⟨(blockRecords block).filterMap entry?⟩ = overlay := by simpa [hfind] using h
      refine ⟨(map_recordOf_entries hfind).symm, fun entry hmem => ?_⟩
      obtain ⟨record, _, hentry⟩ := List.mem_filterMap.mp hmem
      exact (entry?_eq_some_iff_recordOf.mp hentry).2
  · rintro ⟨hrecords, hkeys⟩
    obtain ⟨hentries, hfind⟩ := entries_map_recordOf hkeys
    rw [hrecords, hfind, hentries]
    rfl

/-- The variables of a block that is accepted can be listed. -/
theorem listable_of_parseBlock (h : parseBlock block = .ok overlay) :
    ∀ entry ∈ overlay.records, Listable entry := by
  obtain ⟨hrecords, hkeys⟩ := parseBlock_eq_ok_iff.mp h
  intro entry hmem
  have hrecord : recordOf entry ∈ blockRecords block := hrecords ▸ List.mem_map_of_mem hmem
  have hnul := nul_not_mem_of_mem_blockRecords hrecord
  simp only [recordOf, List.mem_append, List.mem_cons, not_or] at hnul
  exact ⟨(hkeys entry hmem).1, (hkeys entry hmem).2, hnul.1, hnul.2.2⟩

/-- Variables are listed as their records, each with a zero byte behind it. -/
theorem renderBlock_eq (entries : List Entry) :
    renderBlock entries = (entries.map recordOf).flatMap (· ++ [0]) := by
  simp [renderBlock, List.flatMap_map, recordOf]

/-- The first variable of a list stands before the others. -/
theorem renderBlock_cons (entry : Entry) (entries : List Entry) :
    renderBlock (entry :: entries) = recordOf entry ++ 0 :: renderBlock entries := by
  simp [renderBlock_eq]

/-- The records of a list of variables are those of the variables. -/
theorem blockRecords_renderBlock (h : ∀ entry ∈ entries, Listable entry) :
    blockRecords (renderBlock entries) = entries.map recordOf := by
  induction entries with
  | nil => rfl
  | cons entry rest ih =>
    have hnul := (h entry List.mem_cons_self).nul_not_mem_recordOf
    rw [renderBlock_cons, blockRecords_append_nul, blockRecords_of_nul_not_mem hnul,
      if_neg (recordOf_ne_nil entry), ih fun entry hmem => h entry (List.mem_cons_of_mem _ hmem),
      List.map_cons, List.singleton_append]

/-- A list of variables is read as these variables. -/
theorem parseBlock_of_listable (h : ∀ entry ∈ entries, Listable entry) :
    parseBlock (renderBlock entries) = .ok ⟨entries⟩ :=
  parseBlock_eq_ok_iff.mpr ⟨blockRecords_renderBlock h,
    fun entry hmem => ⟨(h entry hmem).key_ne_nil, (h entry hmem).equals_not_mem_key⟩⟩

/-- The records of a block, each with a zero byte behind it, are the tidied block. In the induction
the block begins inside a record of which `first` was read. -/
theorem flatMap_blockRecords_append (h : 0 ∉ first) (block : Bytes) :
    (blockRecords (first ++ block)).flatMap (· ++ [0]) =
      first ++ tidyFrom (decide (first ≠ [])) block := by
  induction block generalizing first with
  | nil =>
    rw [List.append_nil, blockRecords_of_nul_not_mem h]
    cases first <;> simp [tidyFrom]
  | cons byte rest ih =>
    by_cases hbyte : byte = 0
    · subst hbyte
      have hrest := @ih [] (by simp)
      rw [blockRecords_append_nul, blockRecords_of_nul_not_mem h, List.flatMap_append]
      cases first <;> simpa [tidyFrom] using hrest
    · have hne : 0 ≠ byte := fun heq => hbyte heq.symm
      have hnext := @ih (first ++ [byte]) (by simp [h, hne])
      simpa [tidyFrom, hbyte] using hnext

/-- The records of a block, each with a zero byte behind it, are the tidied block. -/
theorem flatMap_blockRecords (block : Bytes) :
    (blockRecords block).flatMap (· ++ [0]) = tidy block := by
  have htidy := @flatMap_blockRecords_append [] (by simp) block
  simpa [tidy] using htidy

/-- Reading a block loses nothing. A list of variables is read as exactly these variables in their
order, those that are overridden included. A block that is accepted has the records of its
variables, byte for byte and in their order; listing these variables tidies the block, and the
tidied block is read as the same variables. -/
theorem parseBlock_lossless :
    (∀ entries : List Entry, (∀ entry ∈ entries, Listable entry) →
      parseBlock (renderBlock entries) = .ok ⟨entries⟩) ∧
    ∀ block overlay, parseBlock block = .ok overlay →
      (List.splitOn 0 block).filter (fun piece => !piece.isEmpty) =
        overlay.records.map (fun entry => entry.1 ++ equalsByte :: entry.2) ∧
      renderBlock overlay.records = tidy block ∧
      parseBlock (renderBlock overlay.records) = .ok overlay := by
  refine ⟨fun entries h => parseBlock_of_listable h, fun block overlay h => ?_⟩
  have hrecords := (parseBlock_eq_ok_iff.mp h).1
  refine ⟨?_, ?_, parseBlock_of_listable (listable_of_parseBlock h)⟩
  · rw [← blockRecords_eq, hrecords]
    rfl
  · rw [renderBlock_eq, ← hrecords, flatMap_blockRecords]

/-- The block `_A=1__B=x=y_A=`, where `_` is a zero byte, is tidied to `A=1_B=x=y_A=_`. -/
theorem parseBlock_lossless_tidied :
    renderBlock [([65], [49]), ([66], [120, 61, 121]), ([65], [])] =
        tidy [0, 65, 61, 49, 0, 0, 66, 61, 120, 61, 121, 0, 65, 61] ∧
      parseBlock (renderBlock [([65], [49]), ([66], [120, 61, 121]), ([65], [])]) =
        .ok ⟨[([65], [49]), ([66], [120, 61, 121]), ([65], [])]⟩ :=
  (parseBlock_lossless.2 [0, 65, 61, 49, 0, 0, 66, 61, 120, 61, 121, 0, 65, 61]
    ⟨[([65], [49]), ([66], [120, 61, 121]), ([65], [])]⟩ rfl).2

end Relocation.Environment
