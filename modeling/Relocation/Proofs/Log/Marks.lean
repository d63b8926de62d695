import Relocation.Namespace.Entry
import Relocation.Proofs.Session

/-!
# The marks of a log

A log is read by someone who has nothing but its texts. Two kinds of records matter to
them: those that say that a stage was reached, and those that say how the launcher came
to be in a namespace. Each of these marks opens its text in a way of its own, and no
other record opens like one. So the marks can be read off the texts, whatever numbers
and paths follow.
-/

namespace Relocation

open Namespace (Kind)

/-- What a text of a log can mark. -/
inductive Mark where
  /-- A stage is reached. -/
  | reached (stage : Stage)
  /-- The launcher is in the target's namespace of a kind. -/
  | handled (kind : Kind) (membership : Namespace.Membership)
  deriving DecidableEq

/-- The mark that a record leaves, if it leaves one. -/
def Record.mark? : Record → Option Mark
  | .alreadyMember kind _ _ => some (.handled kind .already)
  | .entered kind _ _ => some (.handled kind .entered)
  | record => record.stage?.map .reached

namespace Mark

/-- The words with which the text of a mark begins. -/
def opening : Mark → String
  | .reached stage => "entered " ++ stage.name
  | .handled kind .already => "already in " ++ kind.name ++ " namespace "
  | .handled kind .entered => "joined " ++ kind.name ++ " namespace "

/-- All marks. -/
def all : List Mark :=
  Stage.all.map .reached ++
    Kind.entryOrder.map (.handled · .already) ++ Kind.entryOrder.map (.handled · .entered)

/-- No mark is left out. -/
theorem mem_all (mark : Mark) : mark ∈ all := by
  cases mark with
  | reached stage => cases stage <;> decide
  | handled kind membership => cases kind <;> cases membership <;> decide

/-- The mark that a text begins with. -/
def ofText? (text : String) : Option Mark :=
  all.find? fun mark => mark.opening.toList.isPrefixOf text.toList

/-- The stage that a mark is about, if it is about one. -/
def stage? : Mark → Option Stage
  | .reached stage => some stage
  | .handled _ _ => none

/-- No mark begins like another one. -/
theorem eq_of_prefix_opening {mark other : Mark}
    (h : mark.opening.toList <+: other.opening.toList) : mark = other := by
  have hall : ∀ mark ∈ all, ∀ other ∈ all,
      mark.opening.toList <+: other.opening.toList → mark = other := by decide +kernel
  exact hall mark mark.mem_all other other.mem_all h

/-- A text begins with one mark at most. -/
theorem eq_of_both_begin {mark other : Mark} {text : List Char}
    (h : mark.opening.toList <+: text) (hother : other.opening.toList <+: text) : mark = other := by
  -- Of two words that begin one text, one begins the other.
  rcases List.prefix_or_prefix_of_prefix h hother with hle | hle
  · exact eq_of_prefix_opening hle
  · exact (eq_of_prefix_opening hle).symm

/-- The mark that is read off a text is the one that the text begins with. -/
theorem ofText?_eq_some_iff {text : String} {mark : Mark} :
    ofText? text = some mark ↔ mark.opening.toList <+: text.toList := by
  have hbegins (other : Mark) (h : ofText? text = some other) :
      other.opening.toList <+: text.toList := by
    rw [ofText?, List.find?_eq_some_iff_append] at h
    exact List.isPrefixOf_iff_prefix.mp h.1
  constructor
  · exact hbegins mark
  · intro hopening
    cases hfind : ofText? text with
    | none =>
      have hnone := List.find?_eq_none.mp hfind mark mark.mem_all
      exact absurd (List.isPrefixOf_iff_prefix.mpr hopening) hnone
    | some other => rw [eq_of_both_begin (hbegins other hfind) hopening]

example : ofText? "joined net namespace 4026531840 via /proc/7/ns/net" =
    some (.handled .net .entered) := by decide +kernel

/-- All marks begin with one of three letters. -/
theorem exists_head?_opening (mark : Mark) :
    ∃ letter, mark.opening.toList.head? = some letter ∧ letter ∈ ['e', 'a', 'j'] := by
  cases mark with
  | reached stage => exact ⟨'e', by cases stage <;> rfl, by decide⟩
  | handled kind membership =>
    cases membership with
    | already => exact ⟨'a', by cases kind <;> rfl, by decide⟩
    | entered => exact ⟨'j', by cases kind <;> rfl, by decide⟩

end Mark

namespace Record

variable {words : Wording} {record : Record} {mark : Mark}

/-- A record that says that a stage was reached begins with its mark. -/
theorem exists_text_of_stage? {stage : Stage} (h : record.stage? = some stage) :
    ∃ rest, record.textIn words = (Mark.reached stage).opening ++ rest := by
  change ∃ detail, record.textIn words = stageText stage detail
  cases record <;> cases h <;> exact ⟨_, rfl⟩

/-- A record that leaves a mark begins with it. -/
theorem exists_text_of_mark? (h : record.mark? = some mark) :
    ∃ rest, record.textIn words = mark.opening ++ rest := by
  have hother (hstage : record.mark? = record.stage?.map .reached) :
      ∃ rest, record.textIn words = mark.opening ++ rest := by
    obtain ⟨stage, hreached, rfl⟩ := Option.map_eq_some_iff.mp (hstage.symm.trans h)
    exact exists_text_of_stage? hreached
  cases record with
  | alreadyMember kind inode path =>
    obtain rfl : Mark.handled kind .already = mark := Option.some.inj h
    have htext : (alreadyMember kind inode path).textIn words =
        (Mark.handled kind .already).opening ++ Decimal.ofNat inode ++ " of " ++
          Utf8.textLossy path := rfl
    exact ⟨_, by rw [htext, String.append_assoc, String.append_assoc]⟩
  | entered kind inode path =>
    obtain rfl : Mark.handled kind .entered = mark := Option.some.inj h
    have htext : (entered kind inode path).textIn words =
        (Mark.handled kind .entered).opening ++ Decimal.ofNat inode ++ " via " ++
          Utf8.textLossy path := rfl
    exact ⟨_, by rw [htext, String.append_assoc, String.append_assoc]⟩
  | _ => exact hother rfl

/-- A text begins with the letter that its first word begins with. -/
theorem head?_append {word rest : String} {letter : Char} (h : word.toList.head? = some letter) :
    (word ++ rest).toList.head? = some letter := by
  rw [String.toList_append, List.head?_append, h]
  rfl

/-- A record that leaves no mark begins with another letter than the marks. -/
theorem exists_head?_text (h : record.mark? = none) :
    ∃ letter, (record.textIn words).toList.head? = some letter ∧ letter ∉ ['e', 'a', 'j'] := by
  cases record with
  | staying =>
    have hword : "no namespaces selected, staying in our own".toList.head? = some 'n' := rfl
    exact ⟨'n', hword, by decide⟩
  | relocating selection target =>
    exact ⟨'r', head?_append (head?_append (head?_append rfl)), by decide⟩
  | environmentRead bytes vars path =>
    exact ⟨'r', head?_append (head?_append (head?_append (head?_append (head?_append rfl)))),
      by decide⟩
  | emptyEnvironment target => exact ⟨'p', head?_append (head?_append rfl), by decide⟩
  | lacksCapability kind => exact ⟨'C', head?_append (head?_append rfl), by decide⟩
  | refusedDespiteCapability kind => exact ⟨'s', head?_append (head?_append rfl), by decide⟩
  | capabilitiesUnknown reason => exact ⟨'c', head?_append rfl, by decide⟩
  | _ => cases h

/-- A record leaves the mark that its text begins with. -/
theorem opening_prefix_text_iff :
    mark.opening.toList <+: (record.textIn words).toList ↔ record.mark? = some mark := by
  have hbegins (other : Mark) (h : record.mark? = some other) :
      other.opening.toList <+: (record.textIn words).toList := by
    obtain ⟨rest, htext⟩ := exists_text_of_mark? h
    rw [htext, String.toList_append]
    exact List.prefix_append ..
  constructor
  · intro hopening
    cases hmark : record.mark? with
    | none =>
      obtain ⟨letter, hletter, hother⟩ := exists_head?_text hmark
      obtain ⟨first, hfirst, hword⟩ := mark.exists_head?_opening
      obtain ⟨rest, hrest⟩ := hopening
      rw [← hrest, List.head?_append, hfirst] at hletter
      obtain rfl : first = letter := Option.some.inj hletter
      exact absurd hword hother
    | some other => rw [Mark.eq_of_both_begin hopening (hbegins other hmark)]
  · exact hbegins mark

/-- The mark that is read off the text of a record is the one that the record leaves. -/
theorem ofText?_text (words : Wording) (record : Record) :
    Mark.ofText? (record.textIn words) = record.mark? :=
  Option.ext fun _ => Mark.ofText?_eq_some_iff.trans opening_prefix_text_iff

end Record

/-- The marks that the texts of a log begin with. -/
def marksOf (log : List String) : List Mark :=
  log.filterMap Mark.ofText?

/-- The marks of texts are those of their records. -/
theorem marksOf_map_text (words : Wording) (records : List Record) :
    marksOf (records.map (Record.textIn words)) = records.filterMap Record.mark? := by
  rw [marksOf, List.filterMap_map]
  exact congrArg (List.filterMap · records) (funext (Record.ofText?_text words))

/-- The stages of the marks of records are those of the records. -/
theorem filterMap_stage?_mark? (records : List Record) :
    (records.filterMap Record.mark?).filterMap Mark.stage? = records.filterMap Record.stage? := by
  have hstage (record : Record) : record.mark?.bind Mark.stage? = record.stage? := by
    cases record <;> rfl
  rw [List.filterMap_filterMap]
  simp only [hstage]

namespace History

/-- The marks that the records of a history leave. -/
def marks (history : History) : List Mark :=
  history.records.filterMap Record.mark?

/-- Where nothing happens nothing is marked. -/
@[simp] theorem marks_nil : marks [] = [] := rfl

/-- A call leaves no mark. -/
@[simp] theorem marks_cons_called (call : Call) (reply : call.Reply) (rest : History) :
    marks (.called call reply :: rest) = marks rest := rfl

/-- A record leaves its mark, if it has one. -/
@[simp] theorem marks_cons_recorded (record : Record) (rest : History) :
    marks (.recorded record :: rest) = record.mark?.toList ++ marks rest := by
  rw [marks, records_cons_recorded, List.filterMap_cons]
  cases record.mark? <;> rfl

/-- The marks of two histories that follow one another. -/
@[simp] theorem marks_append (first second : History) :
    marks (first ++ second) = marks first ++ marks second := by
  simp [marks]

/-- The stages that the records of a history say were reached. -/
def stages (history : History) : List Stage :=
  history.records.filterMap Record.stage?

/-- Where nothing happens no stage is reached. -/
@[simp] theorem stages_nil : stages [] = [] := rfl

/-- A call does not say that a stage was reached. -/
@[simp] theorem stages_cons_called (call : Call) (reply : call.Reply) (rest : History) :
    stages (.called call reply :: rest) = stages rest := rfl

/-- A record may say that a stage was reached. -/
@[simp] theorem stages_cons_recorded (record : Record) (rest : History) :
    stages (.recorded record :: rest) = record.stage?.toList ++ stages rest := by
  rw [stages, records_cons_recorded, List.filterMap_cons]
  cases record.stage? <;> rfl

/-- The stages of two histories that follow one another. -/
@[simp] theorem stages_append (first second : History) :
    stages (first ++ second) = stages first ++ stages second := by
  simp [stages]

/-- A history in which no record says that a stage was reached has no stages. -/
theorem stages_eq_nil {history : History} (h : ∀ record ∈ history.records, record.stage? = none) :
    history.stages = [] :=
  List.filterMap_eq_nil_iff.mpr h

/-- The stages are those of the marks. -/
theorem filterMap_stage?_marks (history : History) :
    history.marks.filterMap Mark.stage? = history.stages :=
  filterMap_stage?_mark? history.records

/-- A stage is marked exactly if it is one of the stages. -/
theorem reached_mem_marks_iff {history : History} {stage : Stage} :
    .reached stage ∈ history.marks ↔ stage ∈ history.stages := by
  have hreached (mark : Mark) : mark.stage? = some stage ↔ mark = .reached stage := by
    cases mark <;> simp [Mark.stage?]
  rw [← filterMap_stage?_marks, List.mem_filterMap]
  simp [hreached]

/-- Whether the filter of the log stays the same in a history. -/
def KeepsFilter (history : History) : Prop :=
  ∀ filter, .logging filter ∉ history

/-- Histories that follow one another keep the filter if each of them does. -/
theorem KeepsFilter.append {first second : History} (hfirst : first.KeepsFilter)
    (hsecond : second.KeepsFilter) : (first ++ second).KeepsFilter := by
  intro filter hmem
  rcases List.mem_append.mp hmem with h | h
  · exact hfirst filter h
  · exact hsecond filter h

/-- At the level of debugging everything that is recorded is written. -/
theorem KeepsFilter.writtenFrom_debug {history : History} (h : history.KeepsFilter) :
    history.writtenFrom (.upTo .debug) = history.records := by
  have hadmits (record : Record) : (Filter.upTo .debug).admits record = true := by
    cases record <;> rfl
  induction history with
  | nil => rfl
  | cons event rest ih =>
    have hrest : KeepsFilter rest := fun filter hmem => h filter (List.mem_cons_of_mem event hmem)
    cases event with
    | called call reply => exact ih hrest
    | recorded record => rw [writtenFrom, if_pos (hadmits record), ih hrest, records_cons_recorded]
    | logging filter => exact absurd List.mem_cons_self (h filter)

end History

end Relocation
