import Relocation.Namespace.Selection

/-!
# Selections and the writes that make them

A selection is made by writes: each puts a kind in or takes it out, whatever was
written before, so of each kind only the last write counts. The same holds of a word in
which each kind has a bit of its own, as system calls take it: no bit belongs to two
kinds, so a write changes one bit and leaves the others. The kinds are entered in one
order, shown in another and laid out in a third one, and all three tell the same set.
-/

namespace Relocation.Namespace

namespace Selection

variable {selection other : Selection} {kind : Kind}

/-- No kind is listed twice. -/
theorem nodup_kinds (selection : Selection) : selection.kinds.Nodup := by
  have horder : Kind.entryOrder.Nodup := by decide
  exact horder.filter _

/-- The kinds that are listed are those that are selected. -/
theorem mem_kinds_iff {selection : Selection} {kind : Kind} :
    kind ∈ selection.kinds ↔ selection.contains kind = true := by
  have horder : kind ∈ Kind.entryOrder := by cases kind <;> decide
  simp [kinds, horder]

/-- The mount namespace is listed last. -/
theorem getLast?_kinds {selection : Selection} (h : selection.contains .mnt = true) :
    selection.kinds.getLast? = some .mnt := by
  have hsplit : Kind.entryOrder = [.ipc, .uts, .net, .pid] ++ [.mnt] := rfl
  rw [kinds, hsplit, List.filter_append]
  simp [h]

/-- A write decides about its kind and leaves the others. -/
theorem contains_set (selection : Selection) (written kind : Kind) (enabled : Bool) :
    (selection.set written enabled).contains kind =
      if written = kind then enabled else selection.contains kind := by
  cases written <;> cases kind <;> rfl

/-- Nothing is selected at first. -/
theorem contains_empty (kind : Kind) : empty.contains kind = false := by
  cases kind <;> rfl

/-- Selections with the same kinds are equal. -/
theorem eq_of_contains (h : ∀ kind, selection.contains kind = other.contains kind) :
    selection = other := by
  rcases selection with ⟨ipc, uts, net, pid, mnt⟩
  rcases other with ⟨otherIpc, otherUts, otherNet, otherPid, otherMnt⟩
  obtain rfl : ipc = otherIpc := h .ipc
  obtain rfl : uts = otherUts := h .uts
  obtain rfl : net = otherNet := h .net
  obtain rfl : pid = otherPid := h .pid
  obtain rfl : mnt = otherMnt := h .mnt
  rfl

/-- A selection is empty exactly if it has no kind. -/
theorem isEmpty_iff : selection.isEmpty = true ↔ ∀ kind, selection.contains kind = false := by
  rw [isEmpty, decide_eq_true_iff]
  constructor
  · rintro rfl
    exact contains_empty
  · intro h
    exact eq_of_contains fun kind => (h kind).trans (contains_empty kind).symm

/-- Writes to different kinds can change places. -/
theorem set_comm {first second : Kind} (hne : first ≠ second) (selection : Selection)
    (value next : Bool) :
    (selection.set first value).set second next = (selection.set second next).set first value := by
  apply eq_of_contains
  intro kind
  rw [contains_set, contains_set, contains_set, contains_set]
  by_cases hfirst : first = kind
  · subst hfirst
    rw [if_pos rfl, if_pos rfl, if_neg hne.symm]
  · rw [if_neg hfirst, if_neg hfirst]

/-- A write of what is there already changes nothing. -/
theorem set_contains (selection : Selection) (kind : Kind) :
    selection.set kind (selection.contains kind) = selection := by
  apply eq_of_contains
  intro other
  rw [contains_set]
  split
  · next heq => rw [heq]
  · rfl

end Selection

/-! ## Words of flags -/

namespace Kind

/-- Every kind has a bit. -/
theorem flag_ne_zero (kind : Kind) : kind.flag ≠ 0 := by
  cases kind <;> decide

/-- No bit belongs to two kinds. -/
theorem flag_and_flag {kind other : Kind} (h : kind ≠ other) : kind.flag &&& other.flag = 0 := by
  revert h
  cases kind <;> cases other <;> decide

end Kind

/-- A word with the flag of a kind put in or taken out. -/
def setFlag (word : UInt32) (kind : Kind) (enabled : Bool) : UInt32 :=
  if enabled then word ||| kind.flag else word &&& ~~~kind.flag

/-- Whether the flag of a kind is in a word. -/
def hasFlag (word : UInt32) (kind : Kind) : Bool :=
  word &&& kind.flag = kind.flag

/-- Putting bits into a word does not change those that are apart from them. -/
theorem or_and_of_apart {word flag other : UInt32} (h : flag &&& other = 0) :
    (word ||| flag) &&& other = word &&& other := by
  have hbits : (word ||| flag) &&& other = (word &&& other) ||| (flag &&& other) := by
    apply UInt32.toBitVec_inj.mp
    ext i
    simp [Bool.and_or_distrib_right]
  rw [hbits, h, UInt32.or_zero]

/-- Taking bits out of a word does not change those that are apart from them. -/
theorem and_not_and_of_apart {word flag other : UInt32} (h : flag &&& other = 0) :
    (word &&& ~~~flag) &&& other = word &&& other := by
  have hkept : ~~~flag &&& other = other := by
    apply UInt32.toBitVec_inj.mp
    ext i hi
    have hbit := congrArg (fun word : UInt32 => word.toBitVec[i]) h
    simp only [UInt32.toBitVec_and, BitVec.getElem_and] at hbit
    simp only [UInt32.toBitVec_and, UInt32.toBitVec_not, BitVec.getElem_and, BitVec.getElem_not]
    cases hflag : flag.toBitVec[i] <;> simp_all
  rw [UInt32.and_assoc, hkept]

/-- In a word, too, a write decides about its kind and leaves the others. -/
theorem hasFlag_setFlag (word : UInt32) (written kind : Kind) (enabled : Bool) :
    hasFlag (setFlag word written enabled) kind =
      if written = kind then enabled else hasFlag word kind := by
  by_cases heq : written = kind
  · subst heq
    rw [if_pos rfl, setFlag, hasFlag]
    cases enabled with
    | true =>
      have hput : (word ||| written.flag) &&& written.flag = written.flag := by
        apply UInt32.toBitVec_inj.mp
        ext i
        simp +contextual
      simpa using hput
    | false =>
      have htaken : (word &&& ~~~written.flag) &&& written.flag = 0 := by
        rw [UInt32.and_assoc, UInt32.and_comm (~~~written.flag), UInt32.and_not_self,
          UInt32.and_zero]
      simpa [htaken] using (written.flag_ne_zero).symm
  · rw [if_neg heq, setFlag, hasFlag, hasFlag]
    cases enabled with
    | true => rw [if_pos rfl, or_and_of_apart (Kind.flag_and_flag heq)]
    | false => rw [if_neg (by simp), and_not_and_of_apart (Kind.flag_and_flag heq)]

/-- A write to a selection is the same write to its word. -/
theorem Selection.flags_set (selection : Selection) (kind : Kind) (enabled : Bool) :
    (selection.set kind enabled).flags = setFlag selection.flags kind enabled := by
  rcases selection with ⟨ipc, uts, net, pid, mnt⟩
  revert ipc uts net pid mnt enabled
  cases kind <;> decide

/-! ## Writes -/

/-- Whether the last write to a kind among some writes puts it in, or takes it out. -/
def LastWrite (writes : List (Kind × Bool)) (kind : Kind) (enabled : Bool) : Prop :=
  ∃ before after, writes = before ++ (kind, enabled) :: after ∧ kind ∉ after.map Prod.fst

/-- One of the writes to a kind is the last. -/
theorem exists_lastWrite {writes : List (Kind × Bool)} {kind : Kind}
    (h : kind ∈ writes.map Prod.fst) : ∃ enabled, LastWrite writes kind enabled := by
  induction writes with
  | nil => cases h
  | cons write rest ih =>
    by_cases hrest : kind ∈ rest.map Prod.fst
    · obtain ⟨enabled, before, after, rfl, hafter⟩ := ih hrest
      exact ⟨enabled, write :: before, after, rfl, hafter⟩
    · rw [List.map_cons, List.mem_cons, or_iff_left hrest] at h
      exact ⟨write.2, [], rest, by rw [h]; rfl, hrest⟩

section Store

/- Selections and words alike: a write decides about its kind and leaves the others. -/
variable {Store : Type} {set : Store → Kind → Bool → Store} {contains : Store → Kind → Bool}
  (hset : ∀ store written kind enabled, contains (set store written enabled) kind =
    if written = kind then enabled else contains store kind)

include hset

/-- Writes to other kinds leave a kind as it was. -/
theorem contains_foldl_of_not_mem {writes : List (Kind × Bool)} {kind : Kind}
    (h : kind ∉ writes.map Prod.fst) (store : Store) :
    contains (writes.foldl (fun store write => set store write.1 write.2) store) kind =
      contains store kind := by
  induction writes generalizing store with
  | nil => rfl
  | cons write rest ih =>
    rw [List.map_cons, List.mem_cons, not_or] at h
    rw [List.foldl_cons, ih h.2, hset, if_neg (Ne.symm h.1)]

/-- The last write to a kind decides about it, whatever was there before. -/
theorem contains_foldl_of_lastWrite {writes : List (Kind × Bool)} {kind : Kind} {enabled : Bool}
    (h : LastWrite writes kind enabled) (store : Store) :
    contains (writes.foldl (fun store write => set store write.1 write.2) store) kind =
      enabled := by
  obtain ⟨before, after, rfl, hafter⟩ := h
  rw [List.foldl_append, List.foldl_cons, contains_foldl_of_not_mem hset hafter, hset, if_pos rfl]

/-- Where nothing was at first, there is what the last write to it put in. -/
theorem contains_foldl_iff {store : Store} (hempty : ∀ kind, contains store kind = false)
    (writes : List (Kind × Bool)) (kind : Kind) :
    contains (writes.foldl (fun store write => set store write.1 write.2) store) kind = true ↔
      LastWrite writes kind true := by
  constructor
  · intro h
    by_cases hwritten : kind ∈ writes.map Prod.fst
    · obtain ⟨enabled, hlast⟩ := exists_lastWrite hwritten
      rw [contains_foldl_of_lastWrite hset hlast] at h
      rwa [← h]
    · rw [contains_foldl_of_not_mem hset hwritten, hempty] at h
      cases h
  · exact fun hlast => contains_foldl_of_lastWrite hset hlast store

end Store

/-- The selection that some writes make of the empty one. -/
def selectionAfter (writes : List (Kind × Bool)) : Selection :=
  writes.foldl (fun selection write => selection.set write.1 write.2) .empty

/-- The word that some writes make of the one without flags. -/
def flagsAfter (writes : List (Kind × Bool)) : UInt32 :=
  writes.foldl (fun word write => setFlag word write.1 write.2) 0

/-- Of each kind a selection has what was written last. -/
theorem contains_selectionAfter_iff (writes : List (Kind × Bool)) (kind : Kind) :
    (selectionAfter writes).contains kind = true ↔ LastWrite writes kind true :=
  contains_foldl_iff Selection.contains_set Selection.contains_empty writes kind

/-- The word has the flags of the selection that the same writes make. -/
theorem flagsAfter_eq (writes : List (Kind × Bool)) :
    flagsAfter writes = (selectionAfter writes).flags := by
  have hrun (selection : Selection) :
      writes.foldl (fun word write => setFlag word write.1 write.2) selection.flags =
        (writes.foldl (fun selection write => selection.set write.1 write.2) selection).flags := by
    induction writes generalizing selection with
    | nil => rfl
    | cons write rest ih => rw [List.foldl_cons, List.foldl_cons, ← Selection.flags_set, ih]
  exact hrun .empty

/-- The word has the flag of a kind exactly if the selection has the kind. -/
theorem hasFlag_flagsAfter (writes : List (Kind × Bool)) (kind : Kind) :
    hasFlag (flagsAfter writes) kind = (selectionAfter writes).contains kind := by
  have hnone : ∀ kind, hasFlag 0 kind = false := by
    intro kind
    cases kind <;> decide
  have hword := contains_foldl_iff hasFlag_setFlag hnone writes kind
  rw [Bool.eq_iff_iff, contains_selectionAfter_iff]
  exact hword

/-- Selections are equal exactly if the last writes of their kinds are. -/
theorem selectionAfter_eq_iff {writes others : List (Kind × Bool)} :
    selectionAfter writes = selectionAfter others ↔
      ∀ kind, LastWrite writes kind true ↔ LastWrite others kind true := by
  simp only [← contains_selectionAfter_iff]
  constructor
  · rintro h kind
    rw [h]
  · exact fun h => Selection.eq_of_contains fun kind => Bool.eq_iff_iff.mpr (h kind)

/-- Words are equal exactly if the selections are that the same writes make. -/
theorem flagsAfter_eq_iff {writes others : List (Kind × Bool)} :
    flagsAfter writes = flagsAfter others ↔ selectionAfter writes = selectionAfter others := by
  constructor
  · intro h
    apply Selection.eq_of_contains
    intro kind
    rw [← hasFlag_flagsAfter, h, hasFlag_flagsAfter]
  · intro h
    rw [flagsAfter_eq, h, flagsAfter_eq]

/-- A write between others is a write to what the ones before it made. -/
theorem selectionAfter_append_cons (writes more : List (Kind × Bool)) (kind : Kind)
    (enabled : Bool) :
    selectionAfter (writes ++ (kind, enabled) :: more) =
      more.foldl (fun selection write => selection.set write.1 write.2)
        ((selectionAfter writes).set kind enabled) := by
  rw [selectionAfter, List.foldl_append, List.foldl_cons]
  rfl

/-- What a selection tells of the writes that made it. -/
structure TellsLastWrites (writes : List (Kind × Bool)) : Prop where
  /-- It has the kinds that were put in by their last write. -/
  contains_iff : ∀ kind, (selectionAfter writes).contains kind = true ↔ LastWrite writes kind true
  isEmpty_iff : (selectionAfter writes).isEmpty = true ↔ ∀ kind, ¬ LastWrite writes kind true
  /-- It lists them in the order of entry, each once. -/
  kinds_sublist : (selectionAfter writes).kinds.Sublist [.ipc, .uts, .net, .pid, .mnt]
  kinds_nodup : (selectionAfter writes).kinds.Nodup
  mem_kinds_iff : ∀ kind, kind ∈ (selectionAfter writes).kinds ↔ LastWrite writes kind true
  /-- Selections are equal exactly if these kinds are the same, and then they are shown alike. -/
  eq_iff : ∀ others, selectionAfter writes = selectionAfter others ↔
    ∀ kind, LastWrite writes kind true ↔ LastWrite others kind true
  text_eq : ∀ words others, (∀ kind, LastWrite writes kind true ↔ LastWrite others kind true) →
    (selectionAfter writes).textIn words = (selectionAfter others).textIn words
  /-- Writes to different kinds can change places. -/
  moved : ∀ first second value next more, first ≠ second →
    selectionAfter (writes ++ (first, value) :: (second, next) :: more) =
      selectionAfter (writes ++ (second, next) :: (first, value) :: more)
  /-- A write can be left out if it repeats the last one to its kind. -/
  repeated : ∀ kind enabled more, LastWrite writes kind enabled →
    selectionAfter (writes ++ (kind, enabled) :: more) = selectionAfter (writes ++ more)
  /-- The word that the same writes make has the flags of the selected kinds and no other bit. -/
  flags_eq : flagsAfter writes = (selectionAfter writes).flags
  hasFlag_eq : ∀ kind, hasFlag (flagsAfter writes) kind = (selectionAfter writes).contains kind
  flags_eq_iff : ∀ others, flagsAfter writes = flagsAfter others ↔
    selectionAfter writes = selectionAfter others
  flags_eq_zero_iff : flagsAfter writes = 0 ↔ (selectionAfter writes).isEmpty = true
  /-- The selection is shown by this word. -/
  text_flags : ∀ words, (selectionAfter writes).textIn words =
    "NamespaceSelection \x7b flags: " ++ words.flags (flagsAfter writes) ++ " \x7d"

/-- A selection is the set of the last writes: it has the kinds that were put in by their last
write, however it is looked at, and so has the one word of flags that the same writes make. -/
theorem selectionAfter_tells_last_writes (writes : List (Kind × Bool)) :
    TellsLastWrites writes where
  contains_iff := contains_selectionAfter_iff writes
  isEmpty_iff := by
    simp only [Selection.isEmpty_iff, ← contains_selectionAfter_iff, Bool.not_eq_true]
  kinds_sublist := List.filter_sublist
  kinds_nodup := Selection.nodup_kinds _
  mem_kinds_iff kind := by rw [Selection.mem_kinds_iff, contains_selectionAfter_iff]
  eq_iff others := selectionAfter_eq_iff
  text_eq words others h := by rw [selectionAfter_eq_iff.mpr h]
  moved first second value next more hne := by
    rw [selectionAfter_append_cons, selectionAfter_append_cons, List.foldl_cons, List.foldl_cons,
      Selection.set_comm hne]
  repeated kind enabled more hlast := by
    have hvalue : (selectionAfter writes).contains kind = enabled :=
      contains_foldl_of_lastWrite Selection.contains_set hlast .empty
    rw [selectionAfter_append_cons, ← hvalue, Selection.set_contains, selectionAfter,
      selectionAfter, List.foldl_append]
  flags_eq := flagsAfter_eq writes
  hasFlag_eq := hasFlag_flagsAfter writes
  flags_eq_iff others := flagsAfter_eq_iff
  flags_eq_zero_iff := by
    have hempty : flagsAfter writes = 0 ↔ selectionAfter writes = .empty :=
      @flagsAfter_eq_iff writes []
    rw [hempty, Selection.isEmpty, decide_eq_true_iff]
  text_flags words := by
    rw [flagsAfter_eq]
    rfl

/-- The mount, network and IPC namespaces are put in and the network namespace is taken out again. A
second write to take it out changes nothing, and the write before it can come after it. -/
theorem selectionAfter_tells_last_writes_repeated :
    LastWrite [(.mnt, true), (.net, true), (.ipc, true), (.net, false)] .net false ∧
      (selectionAfter [(.mnt, true), (.net, true), (.ipc, true), (.net, false)]).kinds =
        [.ipc, .mnt] ∧
      selectionAfter
          ([(.mnt, true), (.net, true), (.ipc, true), (.net, false)] ++ [(.net, false)]) =
        selectionAfter ([(.mnt, true), (.net, true), (.ipc, true), (.net, false)] ++ []) ∧
      selectionAfter ([(.mnt, true), (.net, true)] ++ [(.ipc, true), (.net, false)]) =
        selectionAfter ([(.mnt, true), (.net, true)] ++ [(.net, false), (.ipc, true)]) := by
  have hlast : LastWrite [(.mnt, true), (.net, true), (.ipc, true), (.net, false)] .net false :=
    ⟨[(.mnt, true), (.net, true), (.ipc, true)], [], rfl, by simp⟩
  have htells := selectionAfter_tells_last_writes
    [(.mnt, true), (.net, true), (.ipc, true), (.net, false)]
  have hothers := selectionAfter_tells_last_writes [(.mnt, true), (.net, true)]
  exact ⟨hlast, rfl, htells.repeated .net false [] hlast,
    hothers.moved .ipc .net true false [] (by decide)⟩

end Relocation.Namespace
