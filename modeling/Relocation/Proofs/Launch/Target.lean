import Relocation.Proofs.Launch.Order
import Relocation.Proofs.Text.Blank
import Relocation.Proofs.Text.Decimal

/-!
# From an argument to the target

An argument names a process if it denotes a process ID apart from the blanks at its
ends. Of such an argument the number is all that is kept: the paths of a launch are
those of the process with this number, whichever way the number was written.
-/

namespace Relocation

open Namespace (Kind)

namespace Target

variable {argument shown : String} {target : Target} {value : Int}

/-- An integer is made a target exactly if it is the ID of that process. -/
theorem ofInt_eq_ok_iff : ofInt value = .ok target ↔ (target.pid : Int) = value := by
  have hpos := target.pos
  have hmax := target.le_max
  rw [ofInt]
  split
  · next hrange =>
    constructor
    · intro h
      cases h
      dsimp only
      omega
    · rintro rfl
      rfl
  · next hrange =>
    constructor
    · intro h
      cases h
    · rintro rfl
      exact absurd ⟨hpos, hmax⟩ hrange

/-- An integer of 32 bits is refused exactly if it is not positive, and then in decimal. -/
theorem ofInt_eq_error_iff (h : value ≤ 2147483647) :
    ofInt value = .error shown ↔ value ≤ 0 ∧ shown = toString value := by
  have hmax : maxProcessId = 2147483647 := rfl
  rw [ofInt]
  split
  · next hrange =>
    constructor
    · intro hok
      cases hok
    · rintro ⟨hle, _⟩
      omega
  · next hrange =>
    have hle : value ≤ 0 := by omega
    rw [Except.error.injEq, Decimal.ofInt_eq_toString, eq_comm, and_iff_right hle]

/-- An argument is read as a 32-bit integer between blanks. -/
theorem parse_eq_readInt32? (argument : String) :
    parse argument =
      (Decimal.readInt32? (Blank.trim argument.toList)).elim (.error argument) ofInt := by
  rw [parse, Decimal.readInt32?_eq]
  cases Decimal.integer? (Blank.trim argument.toList) with
  | none => rfl
  | some value =>
    rw [Option.bind_some, Decimal.int32?]
    dsimp only
    split <;> rfl

/-- An argument names a target exactly if it denotes the ID of the target between blanks. -/
theorem parse_eq_ok_iff :
    parse argument = .ok target ↔
      Decimal.Denotes (Blank.trim argument.toList) target.pid := by
  have hpos := target.pos
  have hmax : target.pid ≤ 2147483647 := target.le_max
  rw [parse_eq_readInt32?]
  constructor
  · intro h
    cases hread : Decimal.readInt32? (Blank.trim argument.toList) with
    | none =>
      rw [hread] at h
      cases h
    | some value =>
      rw [hread] at h
      rw [ofInt_eq_ok_iff.mp h]
      exact (Decimal.readInt32?_eq_some_iff.mp hread).1
  · intro h
    have hread := Decimal.readInt32?_eq_some_iff.mpr ⟨h, by omega, by omega⟩
    rw [hread]
    exact ofInt_eq_ok_iff.mpr rfl

/-- There is a target with each ID that a process can have. -/
theorem exists_pid_eq (hpos : 1 ≤ value) (hmax : value ≤ 2147483647) :
    ∃ target : Target, (target.pid : Int) = value :=
  ⟨⟨value.toNat, by omega, by rw [maxProcessId]; omega⟩, by dsimp only; omega⟩

/-- An argument is refused as it stands if it denotes no 32-bit integer between blanks, and in
decimal if it denotes one that is not positive. -/
theorem parse_eq_error_iff :
    parse argument = .error shown ↔
      ((¬ ∃ value, Decimal.Denotes (Blank.trim argument.toList) value ∧
          -2147483648 ≤ value ∧ value ≤ 2147483647) ∧ shown = argument) ∨
        ∃ value, Decimal.Denotes (Blank.trim argument.toList) value ∧
          -2147483648 ≤ value ∧ value ≤ 0 ∧ shown = toString value := by
  rw [parse_eq_readInt32?]
  cases hread : Decimal.readInt32? (Blank.trim argument.toList) with
  | none =>
    have hnone := Decimal.readInt32?_eq_none_iff.mp hread
    rw [Option.elim_none, Except.error.injEq, eq_comm]
    constructor
    · exact fun h => Or.inl ⟨hnone, h⟩
    · rintro (⟨_, h⟩ | ⟨value, hdenotes, hmin, hle, _⟩)
      · exact h
      · exact absurd ⟨value, hdenotes, hmin, by omega⟩ hnone
  | some value =>
    obtain ⟨hdenotes, hrange⟩ := Decimal.readInt32?_eq_some_iff.mp hread
    rw [Option.elim_some, ofInt_eq_error_iff hrange.2]
    constructor
    · rintro ⟨hle, hshown⟩
      exact Or.inr ⟨value, hdenotes, hrange.1, hle, hshown⟩
    · rintro (⟨hnone, _⟩ | ⟨other, hother, _, hle, hshown⟩)
      · exact absurd ⟨value, hdenotes, hrange⟩ hnone
      · obtain rfl := hdenotes.unique hother
        exact ⟨hle, hshown⟩

/-- A target is named by its own text. -/
theorem parse_text (target : Target) : parse target.text = .ok target := by
  have hnumeral := Decimal.isNumeral_digits target.pid
  rw [parse_eq_ok_iff, text, Decimal.ofNat, String.toList_ofList, Blank.trim_eq_self]
  · exact Decimal.denotes_digits target.pid
  · exact fun c hc => Blank.isBlank_of_isDigit (hnumeral.isDigit c (List.mem_of_head? hc))
  · exact fun c hc => Blank.isBlank_of_isDigit (hnumeral.isDigit c (List.mem_of_getLast? hc))

end Target

/-- The texts in a row are encoded in a row. -/
theorem Bytes.ofString_append (first second : String) :
    ofString (first ++ second) = ofString first ++ ofString second := by
  simp only [ofString, String.toList_append, List.flatMap_append]

/-- The path that a call looks up, opens or runs. -/
def Call.path? : Call → Option Bytes
  | .inode path => some path
  | .openFile path => some path
  | .spawn image => some image.program
  | _ => none

/-- The paths of a launch, for the text of a number: the files of the process with this number,
those of the launcher itself, and the shell. -/
inductive LaunchPath (number : String) : Bytes → Prop where
  | environment : LaunchPath number (Bytes.ofString ("/proc/" ++ number ++ "/environ"))
  | theirs (kind : Kind) :
      LaunchPath number (Bytes.ofString ("/proc/" ++ number ++ "/ns/" ++ kind.name))
  | own (kind : Kind) : LaunchPath number (Bytes.ofString ("/proc/self/ns/" ++ kind.name))
  | shell : LaunchPath number (Bytes.ofString "/bin/sh")

namespace Target

variable {target : Target}

/-- The directory of a target by its number. -/
theorem directory_eq (target : Target) :
    target.directory = Bytes.ofString ("/proc/" ++ toString target.pid) := by
  rw [directory, text, Decimal.ofNat_eq_toString, Bytes.ofString_append]

/-- The file with the environment of a target is a path of a launch. -/
theorem launchPath_environmentPath (target : Target) :
    LaunchPath (toString target.pid) target.environmentPath := by
  rw [environmentPath, directory_eq, ← Bytes.ofString_append]
  exact .environment

/-- The handle of a target's namespace is a path of a launch. -/
theorem launchPath_targetPath (kind : Kind) (target : Target) :
    LaunchPath (toString target.pid) (kind.targetPath target) := by
  rw [Kind.targetPath, directory_eq, ← Bytes.ofString_append, ← Bytes.ofString_append]
  exact .theirs kind

/-- The handle of the launcher's own namespace is a path of a launch. -/
theorem launchPath_ownPath (kind : Kind) (number : String) : LaunchPath number kind.ownPath := by
  rw [Kind.ownPath, ← Bytes.ofString_append]
  exact .own kind

/-- Handling kinds takes no other paths. -/
theorem launchPath_entryCalls {kinds : List Kind} {parts : List (List Call)}
    (h : List.Forall₂ (Namespace.EntryCalls target) kinds parts) :
    ∀ path ∈ parts.flatten.filterMap Call.path?, LaunchPath (toString target.pid) path := by
  induction h with
  | nil => simp
  | @cons kind part kinds parts hpart _ ih =>
    intro path hpath
    rw [List.flatten_cons, List.filterMap_append, List.mem_append] at hpath
    rcases hpath with hpath | hpath
    · have hcases : path = kind.ownPath ∨ path = kind.targetPath target := by
        cases hpart <;> simpa [Call.path?] using hpath
      rcases hcases with rfl | rfl
      · exact launchPath_ownPath kind _
      · exact launchPath_targetPath kind target
    · exact ih path hpath

end Target

namespace Request

variable {argument shown : String} {command? : Option Bytes} {selection : Namespace.Selection}
  {importsEnvironment : Bool} {request : Request}

/-- A launch takes no paths but those for the number of its target. -/
theorem launchPath_launch (request : Request) (system : System) (past : History) :
    ∀ path ∈ (launch request system past).2.calls.filterMap Call.path?,
      LaunchPath (toString request.target.pid) path := by
  intro path hpath
  obtain ⟨file, sizes, parts, image, hparts, hprogram, _, hplan⟩ :=
    (launch_course request system past).calls_planned
  have hplanned := (hplan.filterMap Call.path?).subset hpath
  simp only [List.filterMap_append, List.mem_append] at hplanned
  rcases hplanned with (himport | hentry) | hshell
  · obtain ⟨call, hcall, hcallPath⟩ := List.mem_filterMap.mp himport
    rcases mem_environmentCalls hcall with rfl | ⟨most, rfl⟩
    · obtain rfl : request.target.environmentPath = path := Option.some.inj hcallPath
      exact request.target.launchPath_environmentPath
    · cases hcallPath
  · exact Target.launchPath_entryCalls hparts path hentry
  · obtain rfl : path = image.program := by simpa [Call.path?] using hshell
    rw [hprogram]
    exact .shell

/-- A request is refused for an argument that names no target, which is shown as it is there. -/
theorem ofTexts_of_parse_error (h : Target.parse argument = .error shown) :
    ofTexts (some argument) command? selection importsEnvironment =
      .error (.invalidTarget shown) := by
  rw [ofTexts, Option.getD_some, h]
  rfl

/-- A request has the target that the argument names. -/
theorem parse_of_ofTexts
    (h : ofTexts (some argument) command? selection importsEnvironment = .ok request) :
    Target.parse argument = .ok request.target := by
  rw [ofTexts, Option.getD_some] at h
  cases hparse : Target.parse argument with
  | error shown =>
    rw [hparse] at h
    cases h
  | ok target =>
    rw [hparse] at h
    cases command? with
    | none => cases h
    | some command =>
      cases command with
      | nil => cases h
      | cons byte rest =>
        cases h
        rfl

end Request

/-- An argument names a process exactly if it is, apart from the blanks at its ends, a decimal
integer of any length whose value is a process ID. The target has this ID, and all its paths are
those for the decimal text of the ID, whatever else was in the argument. Another argument is
refused: as it stands if it denotes no 32-bit integer, and in decimal if it denotes one that is not
positive. Every target is named by its own text. -/
theorem Target.parse_reads_process_id (argument : String) :
    (∃ body, (∀ other, Blank.Trimmed argument.toList other ↔ other = body) ∧
      ((∃ target, parse argument = .ok target) ↔
        ∃ value, Decimal.Denotes body value ∧ 1 ≤ value ∧ value ≤ 2147483647) ∧
      (∀ target, parse argument = .ok target ↔ Decimal.Denotes body target.pid) ∧
      ∀ shown, parse argument = .error shown ↔
        ((¬ ∃ value, Decimal.Denotes body value ∧ -2147483648 ≤ value ∧ value ≤ 2147483647) ∧
          shown = argument) ∨
        ∃ value, Decimal.Denotes body value ∧ -2147483648 ≤ value ∧ value ≤ 0 ∧
          shown = toString value) ∧
    (∀ command? selection importsEnvironment,
      (∀ shown, parse argument = .error shown →
        Request.ofTexts (some argument) command? selection importsEnvironment =
          .error (.invalidTarget shown)) ∧
      ∀ request,
        Request.ofTexts (some argument) command? selection importsEnvironment = .ok request →
        parse argument = .ok request.target ∧
          ∀ system past, ∀ path ∈ (launch request system past).2.calls.filterMap Call.path?,
            LaunchPath (toString request.target.pid) path) ∧
    ∀ target : Target,
      target.text = toString target.pid ∧
        target.directory = Bytes.ofString ("/proc/" ++ toString target.pid) ∧
        parse target.text = .ok target := by
  refine ⟨⟨Blank.trim argument.toList, fun other => Blank.trimmed_iff, ?_,
    fun target => parse_eq_ok_iff, fun shown => parse_eq_error_iff⟩, ?_, ?_⟩
  · constructor
    · rintro ⟨target, htarget⟩
      have hpos := target.pos
      have hmax : target.pid ≤ 2147483647 := target.le_max
      exact ⟨target.pid, parse_eq_ok_iff.mp htarget, by omega, by omega⟩
    · rintro ⟨value, hdenotes, hpos, hmax⟩
      obtain ⟨target, rfl⟩ := exists_pid_eq hpos hmax
      exact ⟨target, parse_eq_ok_iff.mpr hdenotes⟩
  · intro command? selection importsEnvironment
    exact ⟨fun shown => Request.ofTexts_of_parse_error, fun request hrequest =>
      ⟨Request.parse_of_ofTexts hrequest, request.launchPath_launch⟩⟩
  · intro target
    exact ⟨Decimal.ofNat_eq_toString target.pid, target.directory_eq, target.parse_text⟩

example : Target.parse " +0042\n" = .ok ⟨42, by decide, by decide⟩ := rfl

example : Target.parse " -0 " = .error "0" := by cbv

example : Target.parse " 2147483648 " = .error " 2147483648 " := rfl

end Relocation
