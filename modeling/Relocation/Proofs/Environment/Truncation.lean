import Relocation.Proofs.Environment.Rendering

/-!
# Blocks that are cut short

A process may vanish while its block is read, and then only the beginning of the block is
there. If the cut falls behind a zero byte, the variables before it are read; if it falls
inside a key, the rest of that record is refused. But the last record of a block need not
be ended, and so a cut inside a value is not noticed: the variable is read with the part
of its value that was there. This is the only way in which a block that is cut short gives
a variable that the whole block does not have.
-/

namespace Relocation.Environment

/-- Every record of a block is ended: the block is empty, or its last byte is a zero byte. -/
def Ended (block : Bytes) : Prop :=
  block = [] ∨ ∃ front, block = front ++ [0]

/-- A block is cut short inside a value: the part ends with a record whose value goes on in the
block. -/
def CutInValue (block part : Bytes) : Prop :=
  ∃ front key value missing rest, Ended front ∧ equalsByte ∉ key ∧ 0 ∉ key ∧ 0 ∉ value ∧
    0 ∉ missing ∧ missing ≠ [] ∧ part = front ++ recordOf (key, value) ∧
    block = front ++ recordOf (key, value ++ missing) ++ 0 :: rest

/-- The two kinds of places where a block can be cut: between two records, or inside one. -/
inductive Cut (block : Bytes) : Bytes → Prop where
  | between {front rest : Bytes} (hended : Ended front) (hblock : block = front ++ rest) :
      Cut block front
  | inside {front tail missing rest : Bytes} (hended : Ended front) (htail : tail ≠ [])
      (hnul : 0 ∉ tail ++ missing) (hblock : block = front ++ (tail ++ missing) ++ 0 :: rest) :
      Cut block (front ++ tail)

variable {block part front tail missing rest : Bytes} {overlay : Overlay}

/-- Behind an ended part the records of a block begin anew. -/
theorem Ended.blockRecords_append (h : Ended front) (rest : Bytes) :
    blockRecords (front ++ rest) = blockRecords front ++ blockRecords rest := by
  rcases h with rfl | ⟨first, rfl⟩
  · rfl
  · rw [List.append_assoc, List.singleton_append, blockRecords_append_nul, blockRecords_append_nul,
      blockRecords_nil, List.append_nil]

/-- A byte string is an ended part with the beginning of a record behind it, which may be empty. -/
theorem exists_ended_append (bytes : Bytes) :
    ∃ front tail, bytes = front ++ tail ∧ Ended front ∧ 0 ∉ tail := by
  induction bytes with
  | nil => exact ⟨[], [], rfl, Or.inl rfl, by simp⟩
  | cons byte rest ih =>
    obtain ⟨front, tail, rfl, hended | ⟨first, rfl⟩, htail⟩ := ih
    · subst hended
      by_cases hbyte : byte = 0
      · exact ⟨[0], tail, by simp [hbyte], Or.inr ⟨[], rfl⟩, htail⟩
      · have hne : 0 ≠ byte := fun heq => hbyte heq.symm
        exact ⟨[], byte :: tail, rfl, Or.inl rfl, by simp [hne, htail]⟩
    · exact ⟨byte :: first ++ [0], tail, rfl, Or.inr ⟨byte :: first, rfl⟩, htail⟩

/-- In an ended block a record that was begun is ended later. -/
theorem Ended.nul_mem (h : Ended (front ++ tail ++ rest)) (htail : tail ≠ []) (hnul : 0 ∉ tail) :
    0 ∈ rest := by
  have hlast : (front ++ tail ++ rest).getLast? = some 0 := by
    rcases h with hempty | ⟨first, hfirst⟩
    · simp [htail] at hempty
    · simp [hfirst]
  rw [List.getLast?_append] at hlast
  cases hrest : rest.getLast? with
  | some byte =>
    rw [hrest] at hlast
    obtain rfl : byte = 0 := by simpa using hlast
    exact List.mem_of_getLast? hrest
  | none =>
    -- Nothing is missing, so the last byte of the record would be the zero byte.
    rw [hrest, Option.none_or, List.getLast?_append, List.getLast?_eq_some_getLast htail] at hlast
    have hmem := List.getLast_mem htail
    simp_all

/-- An ended block is cut between two records or inside one. -/
theorem cut_of_beginning (hended : Ended block) (hbegins : part <+: block) : Cut block part := by
  obtain ⟨more, rfl⟩ := hbegins
  obtain ⟨front, tail, rfl, hfront, htail⟩ := exists_ended_append part
  by_cases hempty : tail = []
  · subst hempty
    rw [List.append_nil]
    exact .between hfront rfl
  · obtain ⟨missing, rest, rfl, hmissing⟩ :=
      List.eq_append_cons_of_mem (hended.nul_mem hempty htail)
    have hnul : 0 ∉ tail ++ missing := by simp [htail, hmissing]
    have hblock : front ++ tail ++ (missing ++ 0 :: rest) =
        front ++ (tail ++ missing) ++ 0 :: rest := by simp
    exact .inside hfront hempty hnul hblock

/-- In a block that is accepted the records of an ended part are those of the first variables, and
the next record is that of the next variable. -/
theorem exists_next_variable (hparse : parseBlock block = .ok overlay) (hended : Ended front)
    (hne : tail ≠ []) (hnul : 0 ∉ tail) (hblock : block = front ++ tail ++ 0 :: rest) :
    ∃ before entry after, overlay.records = before ++ entry :: after ∧
      blockRecords front = before.map recordOf ∧ tail = recordOf entry := by
  have hrecords := (parseBlock_eq_ok_iff.mp hparse).1
  rw [hblock, List.append_assoc, hended.blockRecords_append, blockRecords_append_nul,
    blockRecords_of_nul_not_mem hnul, if_neg hne, List.singleton_append] at hrecords
  obtain ⟨before, others, hsplit, hbefore, hothers⟩ := List.map_eq_append_iff.mp hrecords.symm
  obtain ⟨entry, after, rfl, hentry, _⟩ := List.map_eq_cons_iff.mp hothers
  exact ⟨before, entry, after, hsplit, hbefore.symm, hentry.symm⟩

/-- A part that ends with a record of a key gives the first variables and one of that key. -/
theorem parseBlock_append_recordOf {before after : List Entry} {entry last : Entry}
    (hparse : parseBlock block = .ok overlay) (hended : Ended front)
    (hsplit : overlay.records = before ++ entry :: after)
    (hbefore : blockRecords front = before.map recordOf) (hkey : last.1 = entry.1)
    (hnul : 0 ∉ recordOf last) :
    parseBlock (front ++ recordOf last) = .ok ⟨before ++ [last]⟩ := by
  have hkeys := (parseBlock_eq_ok_iff.mp hparse).2
  rw [hsplit] at hkeys
  refine parseBlock_eq_ok_iff.mpr ⟨?_, fun other hmem => ?_⟩
  · rw [hended.blockRecords_append, blockRecords_of_nul_not_mem hnul, if_neg (recordOf_ne_nil last),
      hbefore, List.map_append, List.map_singleton]
  · rcases List.mem_append.mp hmem with hmem | hmem
    · exact hkeys other (List.mem_append_left _ hmem)
    · obtain rfl := List.mem_singleton.mp hmem
      rw [hkey]
      exact hkeys entry (by simp)

/-- A part that ends with a record without an equals sign is refused. -/
theorem exists_parseBlock_error (hended : Ended front) (hne : tail ≠ []) (hnul : 0 ∉ tail)
    (hequals : equalsByte ∉ tail) : ∃ text, parseBlock (front ++ tail) = .error text := by
  cases hparse : parseBlock (front ++ tail) with
  | error text => exact ⟨text, rfl⟩
  | ok overlay =>
    have hrecords := (parseBlock_eq_ok_iff.mp hparse).1
    rw [hended.blockRecords_append, blockRecords_of_nul_not_mem hnul, if_neg hne] at hrecords
    have hmem : tail ∈ overlay.records.map recordOf := hrecords ▸ List.mem_append_right _ (by simp)
    obtain ⟨entry, _, rfl⟩ := List.mem_map.mp hmem
    exact absurd (by simp [recordOf]) hequals

/-- A cut between two records leaves the first variables. -/
theorem exists_prefix_of_ended (hparse : parseBlock block = .ok overlay) (hended : Ended front)
    (hblock : block = front ++ rest) :
    ∃ shown, parseBlock front = .ok shown ∧ shown.records <+: overlay.records := by
  obtain ⟨hrecords, hkeys⟩ := parseBlock_eq_ok_iff.mp hparse
  rw [hblock, hended.blockRecords_append] at hrecords
  obtain ⟨before, after, hsplit, hbefore, _⟩ := List.map_eq_append_iff.mp hrecords.symm
  refine ⟨⟨before⟩, parseBlock_eq_ok_iff.mpr ⟨hbefore.symm, fun entry hmem => ?_⟩, after,
    hsplit.symm⟩
  exact hkeys entry (hsplit ▸ List.mem_append_left _ hmem)

/-- The beginning of a record holds no equals sign, or it is the key with the beginning of the
value. -/
theorem beginning_of_recordOf {entry : Entry} (hequals : equalsByte ∉ entry.1)
    (h : tail ++ missing = recordOf entry) :
    equalsByte ∉ tail ∨
      ∃ value, tail = recordOf (entry.1, value) ∧ entry.2 = value ++ missing := by
  rcases List.append_eq_append_iff.mp h with ⟨more, hkey, _⟩ | ⟨more, rfl, hmore⟩
  · left
    rw [hkey, List.mem_append, not_or] at hequals
    exact hequals.1
  · cases more with
    | nil =>
      left
      rwa [List.append_nil]
    | cons byte value =>
      obtain ⟨rfl, hvalue⟩ := List.cons.inj hmore
      exact Or.inr ⟨value, rfl, hvalue⟩

/-- A record belongs to one key and one value, if the key holds no equals sign. -/
theorem recordOf_injective {entry other : Entry} (hentry : equalsByte ∉ entry.1)
    (hother : equalsByte ∉ other.1) (h : recordOf entry = recordOf other) : entry = other := by
  have hcut (found : Entry) (hfound : equalsByte ∉ found.1) :
      (recordOf found).cut? (· = equalsByte) = some found := by
    refine Bytes.cut?_eq_some_iff.mpr ⟨equalsByte, by simp, rfl, fun byte hmem => ?_⟩
    rw [decide_eq_false_iff_not]
    rintro rfl
    exact hfound hmem
  have hsame := hcut other hother
  rw [← h, hcut entry hentry] at hsame
  exact Option.some.inj hsame

/-- A block that is cut short inside a value is read with a value that is cut short. -/
theorem CutInValue.parseBlock_eq (h : CutInValue block part)
    (hparse : parseBlock block = .ok overlay) :
    ∃ before key value missing after, missing ≠ [] ∧
      parseBlock part = .ok ⟨before ++ [(key, value)]⟩ ∧
      overlay.records = before ++ (key, value ++ missing) :: after := by
  obtain ⟨front, key, value, missing, rest, hended, hequals, hkey, hvalue, hmissing, hne, rfl,
    hblock⟩ := h
  have hnul : (0 : UInt8) ≠ equalsByte := by decide
  obtain ⟨before, entry, after, hsplit, hbefore, hentry⟩ := exists_next_variable hparse hended
    (recordOf_ne_nil _) (by simp [recordOf, hkey, hvalue, hmissing, hnul]) hblock
  have hkeys := (parseBlock_eq_ok_iff.mp hparse).2 entry (by simp [hsplit])
  obtain rfl := recordOf_injective hequals hkeys.2 hentry
  exact ⟨before, key, value, missing, after, hne,
    parseBlock_append_recordOf hparse hended hsplit hbefore rfl
      (by simp [recordOf, hkey, hvalue, hnul]), hsplit⟩

/-- A block that is cut short elsewhere is refused, or gives the first variables. -/
theorem Cut.parseBlock_cases (h : Cut block part) (hparse : parseBlock block = .ok overlay)
    (hcut : ¬ CutInValue block part) :
    (∃ text, parseBlock part = .error text) ∨
      ∃ shown, parseBlock part = .ok shown ∧ shown.records <+: overlay.records := by
  cases h with
  | between hended hblock => exact Or.inr (exists_prefix_of_ended hparse hended hblock)
  | @inside front tail missing rest hended hne hnul hblock =>
    obtain ⟨htail, hmissing⟩ : 0 ∉ tail ∧ 0 ∉ missing := by simpa using hnul
    obtain ⟨before, entry, after, hsplit, hbefore, hentry⟩ := exists_next_variable hparse hended
      (by simp [hne]) hnul hblock
    have hequals := ((parseBlock_eq_ok_iff.mp hparse).2 entry (by simp [hsplit])).2
    rcases beginning_of_recordOf hequals hentry with hnone | ⟨value, rfl, hvalue⟩
    · exact Or.inl (exists_parseBlock_error hended hne htail hnone)
    · obtain ⟨key, whole⟩ := entry
      obtain rfl : whole = value ++ missing := hvalue
      by_cases hempty : missing = []
      · -- The cut falls between the value and the zero byte that ends it.
        subst hempty
        refine Or.inr ⟨_, parseBlock_append_recordOf hparse hended hsplit hbefore rfl htail, after,
          ?_⟩
        simp [hsplit]
      · refine absurd ⟨front, key, value, missing, rest, hended, hequals, ?_, ?_, hmissing, hempty,
          rfl, ?_⟩ hcut
        · exact fun hmem => htail (List.mem_append_left _ hmem)
        · exact fun hmem => htail (List.mem_append_right _ (List.mem_cons_of_mem _ hmem))
        · rw [hblock, hentry]

/-- What a short read gives. If a block whose records are all ended is accepted, the beginning of
it is refused or gives the first of its variables, unless it is cut short inside a value. Then
the variables before that record are read, and the last one with the part of its value that is
there. A cut behind a zero byte gives the variables before it. -/
theorem parseBlock_cut_short (hended : Ended block) (hparse : parseBlock block = .ok overlay)
    (hbegins : part <+: block) :
    (((∃ text, parseBlock part = .error text) ∨
        ∃ shown, parseBlock part = .ok shown ∧ shown.records <+: overlay.records) ↔
      ¬ CutInValue block part) ∧
    (CutInValue block part →
      ∃ before key value missing after, missing ≠ [] ∧
        parseBlock part = .ok ⟨before ++ [(key, value)]⟩ ∧
        overlay.records = before ++ (key, value ++ missing) :: after) ∧
    (Ended part → ∃ shown, parseBlock part = .ok shown ∧ shown.records <+: overlay.records) := by
  refine ⟨⟨fun h hcut => ?_, (cut_of_beginning hended hbegins).parseBlock_cases hparse⟩,
    fun hcut => hcut.parseBlock_eq hparse, fun hpart => ?_⟩
  · obtain ⟨before, key, value, missing, after, hne, hpart, hsplit⟩ := hcut.parseBlock_eq hparse
    rcases h with ⟨text, herror⟩ | ⟨shown, hshown, hinitial⟩
    · simp [hpart] at herror
    · obtain rfl : ⟨before ++ [(key, value)]⟩ = shown := by simpa [hpart] using hshown
      rw [hsplit, List.prefix_append_right_inj] at hinitial
      have hsame := (List.cons_prefix_cons.mp hinitial).1
      simp [hne] at hsame
  · obtain ⟨rest, hblock⟩ := hbegins
    exact exists_prefix_of_ended hparse hpart hblock.symm

/-- The block `A=1_B=2_`, where `_` is a zero byte, cut short behind the first `=`, with an empty
value in place of the `1`. -/
theorem parseBlock_cut_short_empty :
    Ended [65, 61, 49, 0, 66, 61, 50, 0] ∧
      parseBlock [65, 61, 49, 0, 66, 61, 50, 0] = .ok ⟨[([65], [49]), ([66], [50])]⟩ ∧
      [65, 61] <+: [65, 61, 49, 0, 66, 61, 50, 0] ∧
      CutInValue [65, 61, 49, 0, 66, 61, 50, 0] [65, 61] ∧
      ¬ ((∃ text, parseBlock [65, 61] = .error text) ∨
        ∃ shown, parseBlock [65, 61] = .ok shown ∧
          shown.records <+: [([65], [49]), ([66], [50])]) := by
  have hended : Ended [65, 61, 49, 0, 66, 61, 50, 0] := Or.inr ⟨[65, 61, 49, 0, 66, 61, 50], rfl⟩
  have hcut : CutInValue [65, 61, 49, 0, 66, 61, 50, 0] [65, 61] :=
    ⟨[], [65], [], [49], [66, 61, 50, 0], Or.inl rfl, by decide, by decide, by decide, by decide,
      by decide, rfl, rfl⟩
  refine ⟨hended, rfl, by decide, hcut, fun h => ?_⟩
  exact (parseBlock_cut_short hended rfl (by decide)).1.mp h hcut

/-- The block `A=12_` that is cut short behind the `1` is accepted, with a variable that the whole
block does not have. -/
theorem cut_value_accepted :
    Ended [65, 61, 49, 50, 0] ∧ parseBlock [65, 61, 49, 50, 0] = .ok ⟨[([65], [49, 50])]⟩ ∧
      [65, 61, 49] <+: [65, 61, 49, 50, 0] ∧ parseBlock [65, 61, 49] = .ok ⟨[([65], [49])]⟩ ∧
      ¬ ([([65], [49])] : List Entry) <+: [([65], [49, 50])] ∧
      (([65], [49]) : Entry) ∉ ([([65], [49, 50])] : List Entry) :=
  ⟨Or.inr ⟨[65, 61, 49, 50], rfl⟩, rfl, by decide, rfl, by decide, by decide⟩

end Relocation.Environment
