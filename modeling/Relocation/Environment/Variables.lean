import Relocation.Bytes

/-!
# Environment variables

The environment of a process is a finite map from keys to values. Its entries are
kept in the order of their keys, each key once, so two environments with the same
values are equal.
-/

namespace Relocation.Environment

/-- A key and its value. -/
abbrev Entry := Bytes × Bytes

/-- Put an entry in its place in a list ordered by keys, in place of any entry of the same key. -/
def insertEntry (key value : Bytes) : List Entry → List Entry
  | [] => [(key, value)]
  | entry :: rest =>
    if key < entry.1 then (key, value) :: entry :: rest
    else if key = entry.1 then (key, value) :: rest
    else entry :: insertEntry key value rest

/-- Every entry after an insertion is the new one or was there before. -/
theorem mem_insertEntry {key value : Bytes} {entries : List Entry} {entry : Entry}
    (h : entry ∈ insertEntry key value entries) : entry = (key, value) ∨ entry ∈ entries := by
  induction entries with
  | nil => simpa [insertEntry] using h
  | cons head rest ih =>
    unfold insertEntry at h
    split at h
    · simpa using h
    · split at h
      · rcases List.mem_cons.mp h with h | h
        · exact Or.inl h
        · exact Or.inr (List.mem_cons_of_mem _ h)
      · rcases List.mem_cons.mp h with h | h
        · exact Or.inr (List.mem_cons.mpr (Or.inl h))
        · exact (ih h).imp id (List.mem_cons_of_mem _)

/-- Insertion keeps the order of the keys. -/
theorem insertEntry_sorted {key value : Bytes} {entries : List Entry}
    (h : entries.Pairwise (fun a b => a.1 < b.1)) :
    (insertEntry key value entries).Pairwise (fun a b => a.1 < b.1) := by
  induction entries with
  | nil => simp [insertEntry]
  | cons head rest ih =>
    obtain ⟨hhead, hrest⟩ := List.pairwise_cons.mp h
    unfold insertEntry
    split
    · next hlt =>
      refine List.pairwise_cons.mpr ⟨fun entry hentry => ?_, h⟩
      rcases List.mem_cons.mp hentry with rfl | hentry
      · exact hlt
      · exact List.lt_trans hlt (hhead entry hentry)
    · next hlt =>
      split
      · next heq =>
        exact List.pairwise_cons.mpr ⟨fun entry hentry => heq ▸ hhead entry hentry, hrest⟩
      · next hne =>
        refine List.pairwise_cons.mpr ⟨fun entry hentry => ?_, ih hrest⟩
        rcases mem_insertEntry hentry with rfl | hentry
        · rcases Std.lt_trichotomy key head.1 with hkey | hkey | hkey
          · exact absurd hkey hlt
          · exact absurd hkey hne
          · exact hkey
        · exact hhead entry hentry

/-- The environment of a process. -/
structure Variables where
  entries : List Entry
  sorted : entries.Pairwise (fun a b => a.1 < b.1)
  deriving DecidableEq

namespace Variables

/-- The environment without variables. -/
def empty : Variables := ⟨[], List.Pairwise.nil⟩

/-- The value of a key. -/
def get? (vars : Variables) (key : Bytes) : Option Bytes :=
  (vars.entries.find? (·.1 = key)).map (·.2)

/-- The environment with a key set to a value. -/
def insert (vars : Variables) (key value : Bytes) : Variables :=
  ⟨insertEntry key value vars.entries, insertEntry_sorted vars.sorted⟩

/-- The environment with entries set one after the other. -/
def insertAll (vars : Variables) (entries : List Entry) : Variables :=
  entries.foldl (fun vars entry => vars.insert entry.1 entry.2) vars

/-- The environment that a list of entries makes when they are set one after the other. -/
def ofEntries (entries : List Entry) : Variables :=
  empty.insertAll entries

end Variables

end Relocation.Environment
