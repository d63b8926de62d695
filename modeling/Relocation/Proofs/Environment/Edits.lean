import Mathlib.Data.List.Dedup
import Mathlib.Logic.Function.Basic
import Relocation.Proofs.Environment.Block

/-!
# Overlays that are edited

An overlay is made by setting keys, by taking the variables of a block, and by copying
another one. What it was given in this way is a list of variables, some of them perhaps
for the same key. However it was made, looking a key up in it and applying it to an
environment agree: the last variable that was given for a key counts in both. Each key
is applied once, so fewer keys are applied than variables were given exactly if some
key was given twice.
-/

namespace Relocation.Environment

namespace Variables

/-- The keys of an environment. -/
def keys (vars : Variables) : List Bytes :=
  vars.entries.map Prod.fst

/-- No key stands twice in an environment. -/
theorem nodup_keys (vars : Variables) : vars.keys.Nodup := by
  refine List.pairwise_map.mpr (vars.sorted.imp fun {first second} hlt heq => ?_)
  rw [heq] at hlt
  exact List.lt_irrefl _ hlt

/-- The keys of an environment are those that have a value. -/
theorem mem_keys_iff {vars : Variables} {key : Bytes} :
    key ∈ vars.keys ↔ (vars.get? key).isSome = true := by
  rw [keys, get?, Option.isSome_map, List.find?_isSome, List.mem_map]
  simp

end Variables

namespace Overlay

variable {overlay : Overlay} {base : Variables} {key value : Bytes}

/-- A key that has a record has the value of the last one. -/
theorem get?_eq_some_iff :
    overlay.get? key = some value ↔
      ∃ before after, overlay.records = before ++ (key, value) :: after ∧
        key ∉ after.map Prod.fst := by
  constructor
  · intro h
    obtain ⟨⟨found, _⟩, hfind, rfl⟩ := Option.map_eq_some_iff.mp h
    obtain ⟨hkey, after, before, hsplit, hlast⟩ := List.find?_eq_some_iff_append.mp hfind
    obtain rfl : found = key := by simpa using hkey
    refine ⟨before.reverse, after.reverse, ?_, ?_⟩
    · simpa using congrArg List.reverse hsplit
    · intro hmem
      obtain ⟨⟨_, other⟩, hentry, rfl⟩ := List.mem_map.mp hmem
      simpa using hlast _ (List.mem_reverse.mp hentry)
  · rintro ⟨before, after, hsplit, hlast⟩
    exact get?_of_last hsplit fun later hlater heq =>
      hlast (List.mem_map.mpr ⟨later, hlater, heq⟩)

/-- The keys that have a value in an overlay are those of its records. -/
theorem isSome_get?_iff :
    (overlay.get? key).isSome = true ↔ key ∈ overlay.records.map Prod.fst := by
  rw [get?, Option.isSome_map, List.find?_isSome, List.mem_map]
  simp

/-- The keys that are set when an overlay is applied: those of the environment that it makes of an
empty one. -/
def appliedKeys (overlay : Overlay) : List Bytes :=
  (overlay.apply .empty).keys

/-- No key is applied twice. -/
theorem nodup_appliedKeys (overlay : Overlay) : overlay.appliedKeys.Nodup :=
  Variables.nodup_keys _

/-- Applied to an environment, an overlay adds its keys to those that are there. -/
theorem mem_keys_apply :
    key ∈ (overlay.apply base).keys ↔ (overlay.get? key).isSome = true ∨ key ∈ base.keys := by
  rw [Variables.mem_keys_iff, Variables.mem_keys_iff, get?_apply, Option.isSome_or, Bool.or_eq_true]

/-- The keys that are applied are those that can be looked up. -/
theorem mem_appliedKeys_iff : key ∈ overlay.appliedKeys ↔ (overlay.get? key).isSome = true := by
  have hempty : key ∉ Variables.empty.keys := List.not_mem_nil
  rw [appliedKeys, mem_keys_apply, or_iff_left hempty]

/-- The keys that are applied are those of the records, each one once. -/
theorem appliedKeys_perm (overlay : Overlay) :
    overlay.appliedKeys.Perm (overlay.records.map Prod.fst).dedup := by
  refine (List.perm_ext_iff_of_nodup overlay.nodup_appliedKeys (List.nodup_dedup _)).mpr ?_
  intro key
  rw [List.mem_dedup, ← isSome_get?_iff, mem_appliedKeys_iff]

/-- There are at least as many records as keys that are applied. -/
theorem length_appliedKeys_le (overlay : Overlay) :
    overlay.appliedKeys.length ≤ overlay.length := by
  have hle := (List.dedup_sublist (overlay.records.map Prod.fst)).length_le
  rwa [← overlay.appliedKeys_perm.length_eq, List.length_map] at hle

/-- There are as many records as keys that are applied exactly if no key has two records. -/
theorem length_appliedKeys_eq_iff :
    overlay.appliedKeys.length = overlay.length ↔ (overlay.records.map Prod.fst).Nodup := by
  rw [overlay.appliedKeys_perm.length_eq, length, ← List.length_map Prod.fst, ← List.dedup_eq_self]
  constructor
  · exact (List.dedup_sublist _).eq_of_length
  · intro hself
    rw [hself]

/-- An overlay without records is one that leaves every environment as it is. -/
theorem isEmpty_iff : overlay.isEmpty = true ↔ ∀ base : Variables, overlay.apply base = base := by
  rw [isEmpty, List.isEmpty_iff]
  constructor
  · intro hnone base
    rw [apply, hnone]
    rfl
  · intro hsame
    have hkeys : overlay.appliedKeys = [] := by
      rw [appliedKeys, hsame]
      rfl
    have hlookup : ∀ key, key ∉ overlay.records.map Prod.fst := by
      intro key
      rw [← isSome_get?_iff, ← mem_appliedKeys_iff, hkeys]
      exact List.not_mem_nil
    exact List.map_eq_nil_iff.mp (List.eq_nil_iff_forall_not_mem.mpr hlookup)

end Overlay

/-- A step in the making of overlays, which are kept in numbered places. -/
inductive Edit where
  /-- Begin anew with the overlay that sets nothing. -/
  | clear (place : Nat)
  /-- Set a key to a value. -/
  | set (place : Nat) (key value : Bytes)
  /-- Take the variables of a block, unless it is refused. -/
  | read (place : Nat) (block : Bytes)
  /-- Take a copy of the overlay in another place. -/
  | copy (place source : Nat)

namespace Edit

/-- What an edit does to the overlays. -/
def perform (overlays : Nat → Overlay) : Edit → Nat → Overlay
  | clear place => Function.update overlays place .empty
  | set place key value => Function.update overlays place ((overlays place).set key value)
  | read place block => match parseBlock block with
    | .ok overlay => Function.update overlays place overlay
    | .error _ => overlays
  | copy place source => Function.update overlays place (overlays source)

/-- The variables that were given in each place, after an edit. Of a block these are the records of
which each one is a variable. -/
def note (given : Nat → List Entry) : Edit → Nat → List Entry
  | clear place => Function.update given place []
  | set place key value => Function.update given place (given place ++ [(key, value)])
  | read place block =>
    if malformedRecord? block = none then
      Function.update given place ((List.splitOn 0 block).filterMap entry?)
    else given
  | copy place source => Function.update given place (given source)

end Edit

/-- The overlays after some edits. All places hold the overlay that sets nothing at first. -/
def overlaysAfter (edits : List Edit) : Nat → Overlay :=
  edits.foldl Edit.perform fun _ => .empty

/-- The variables that were given in each place by some edits. -/
def givenAfter (edits : List Edit) : Nat → List Entry :=
  edits.foldl Edit.note fun _ => []

/-- An edit gives the overlays the variables that are noted for it. -/
theorem Edit.records_perform (overlays : Nat → Overlay) (edit : Edit) :
    (fun place => (edit.perform overlays place).records) =
      edit.note fun place => (overlays place).records := by
  funext other
  cases edit with
  | clear place =>
    exact Function.apply_update (fun _ => Overlay.records) overlays place .empty other
  | set place key value =>
    exact Function.apply_update (fun _ => Overlay.records) overlays place _ other
  | read place block =>
    simp only [perform, note]
    rw [parseBlock_eq, ← filterMap_blockRecords]
    cases malformedRecord? block with
    | none => exact Function.apply_update (fun _ => Overlay.records) overlays place _ other
    | some record => rfl
  | copy place source =>
    exact Function.apply_update (fun _ => Overlay.records) overlays place _ other

/-- After any edits an overlay has the variables that were given in its place. -/
theorem records_overlaysAfter (edits : List Edit) (place : Nat) :
    (overlaysAfter edits place).records = givenAfter edits place := by
  have hrun : ∀ overlays : Nat → Overlay,
      (fun place => (edits.foldl Edit.perform overlays place).records) =
        edits.foldl Edit.note fun place => (overlays place).records := by
    induction edits with
    | nil => exact fun overlays => rfl
    | cons edit rest ih =>
      intro overlays
      rw [List.foldl_cons, List.foldl_cons, ih, Edit.records_perform]
  exact congrFun (hrun fun _ => .empty) place

/-- What is looked up in the overlay in a place after some edits agrees with what it does to an
environment. -/
structure LookupAgrees (edits : List Edit) (place : Nat) : Prop where
  /-- A key has the last value that was given for it. -/
  get?_eq_some_iff : ∀ key value, (overlaysAfter edits place).get? key = some value ↔
    ∃ before after, givenAfter edits place = before ++ (key, value) :: after ∧
      key ∉ after.map Prod.fst
  /-- Applied to an environment, the overlay gives the key this value, or leaves it the value that
  it had there. -/
  get?_apply : ∀ (base : Variables) (key : Bytes),
    ((overlaysAfter edits place).apply base).get? key =
      ((overlaysAfter edits place).get? key).or (base.get? key)
  /-- The keys that are applied are those that can be looked up, each once. -/
  mem_appliedKeys_iff : ∀ key, key ∈ (overlaysAfter edits place).appliedKeys ↔
    ((overlaysAfter edits place).get? key).isSome = true
  nodup_appliedKeys : (overlaysAfter edits place).appliedKeys.Nodup
  mem_keys_apply : ∀ (base : Variables) (key : Bytes),
    key ∈ ((overlaysAfter edits place).apply base).keys ↔
      key ∈ (overlaysAfter edits place).appliedKeys ∨ key ∈ base.keys
  /-- All the variables that were given are counted. -/
  length_eq : (overlaysAfter edits place).length = (givenAfter edits place).length
  /-- There are at least as many as keys that are applied, and as many exactly if no key was given
  twice. -/
  length_appliedKeys_le :
    (overlaysAfter edits place).appliedKeys.length ≤ (overlaysAfter edits place).length
  length_appliedKeys_eq_iff :
    (overlaysAfter edits place).appliedKeys.length = (overlaysAfter edits place).length ↔
      ((givenAfter edits place).map Prod.fst).Nodup
  /-- The overlay is empty exactly if it leaves every environment as it is. -/
  isEmpty_iff : (overlaysAfter edits place).isEmpty = true ↔
    ∀ base : Variables, (overlaysAfter edits place).apply base = base

/-- Looking up agrees with applying, however an overlay was made. -/
theorem overlay_lookup_agrees (edits : List Edit) (place : Nat) : LookupAgrees edits place where
  get?_eq_some_iff key value := by
    rw [← records_overlaysAfter edits place, Overlay.get?_eq_some_iff]
  get?_apply := Overlay.get?_apply _
  mem_appliedKeys_iff key := Overlay.mem_appliedKeys_iff
  nodup_appliedKeys := Overlay.nodup_appliedKeys _
  mem_keys_apply base key := by rw [Overlay.mem_keys_apply, Overlay.mem_appliedKeys_iff]
  length_eq := by rw [Overlay.length, records_overlaysAfter edits place]
  length_appliedKeys_le := Overlay.length_appliedKeys_le _
  length_appliedKeys_eq_iff := by
    rw [Overlay.length_appliedKeys_eq_iff, records_overlaysAfter edits place]
  isEmpty_iff := Overlay.isEmpty_iff

end Relocation.Environment
