import Relocation.Environment.Overlay

/-!
# Setting variables

An environment is a list in the order of its keys, but what matters of it is the value
that each key has. Here the operations are described by those values: setting a key
changes its value alone, and of several records of a key the last one wins. So an
overlay gives each key that it has its own value, and leaves every other key as it was.
-/

namespace Relocation.Environment

/-- An insertion is found under its key, and every other entry as before. -/
theorem find?_insertEntry (key value other : Bytes) (entries : List Entry) :
    (insertEntry key value entries).find? (·.1 = other) =
      if key = other then some (key, value) else entries.find? (·.1 = other) := by
  induction entries with
  | nil => by_cases h : key = other <;> simp [insertEntry, h]
  | cons head rest ih =>
    unfold insertEntry
    split
    · by_cases h : key = other <;> simp [h]
    · split
      · next hsame => by_cases h : key = other <;> simp [h, ← hsame]
      · next hdifferent =>
        rw [List.find?_cons, List.find?_cons, ih]
        by_cases hhead : head.1 = other
        · have hne : key ≠ other := fun heq => hdifferent (heq.trans hhead.symm)
          simp [hhead, hne]
        · simp [hhead]

namespace Variables

/-- Setting a key changes its value and no other. -/
theorem get?_insert (vars : Variables) (key value other : Bytes) :
    (vars.insert key value).get? other = if key = other then some value else vars.get? other := by
  simp only [get?, insert, find?_insertEntry]
  split <;> rfl

end Variables

namespace Overlay

/-- No key has a value in the overlay that sets nothing. -/
@[simp] theorem get?_nil (key : Bytes) : (⟨[]⟩ : Overlay).get? key = none := rfl

/-- The first record of an overlay counts for its key if no later record has the key. -/
theorem get?_cons (entry : Entry) (entries : List Entry) (key : Bytes) :
    (⟨entry :: entries⟩ : Overlay).get? key =
      ((⟨entries⟩ : Overlay).get? key).or (if entry.1 = key then some entry.2 else none) := by
  simp only [get?, List.reverse_cons, List.find?_append]
  cases entries.reverse.find? (·.1 = key) with
  | some found => simp
  | none => by_cases h : entry.1 = key <;> simp [h]

/-- A record that no later one overrides gives its key its value. -/
theorem get?_of_last {overlay : Overlay} {before after : List Entry} {entry : Entry}
    (hsplit : overlay.records = before ++ entry :: after)
    (hlast : ∀ later ∈ after, later.1 ≠ entry.1) : overlay.get? entry.1 = some entry.2 := by
  have hnone : after.reverse.find? (·.1 = entry.1) = none := by simpa using hlast
  simp [get?, hsplit, hnone]

/-- Applied to an environment, an overlay gives the keys that it has their values, and leaves every
other key its own. -/
theorem get?_apply (overlay : Overlay) (base : Variables) (key : Bytes) :
    (overlay.apply base).get? key = (overlay.get? key).or (base.get? key) := by
  obtain ⟨entries⟩ := overlay
  induction entries generalizing base with
  | nil => rfl
  | cons entry rest ih =>
    have hfirst : (⟨entry :: rest⟩ : Overlay).apply base =
        (⟨rest⟩ : Overlay).apply (base.insert entry.1 entry.2) := rfl
    rw [hfirst, ih, get?_cons, Variables.get?_insert]
    cases (⟨rest⟩ : Overlay).get? key with
    | some value => rfl
    | none => by_cases h : entry.1 = key <;> simp [h]

end Overlay

end Relocation.Environment
