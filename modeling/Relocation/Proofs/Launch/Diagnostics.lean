import Relocation.Invocation
import Relocation.Proofs.Failure
import Relocation.Proofs.Launch.Environment
import Relocation.Proofs.Wording

/-!
# The lines of diagnostics

A failure is reported in one line if its message has no line feed. What the launcher
names itself never has one: the paths under `/proc`, the numbers, and the errors of the
system if they are worded in single lines. But a text that was given as a target is
shown as it stands if it is no number, and so is the first record of an imported block
that is no variable. These are the two ways, and the only ones, in which a line feed
gets into a message.
-/

namespace Relocation

open Session Environment Namespace

namespace Bytes

/-- The bytes of a single line hold no line feed. -/
theorem lineFeed_not_mem_ofString {text : String} (h : SingleLine text) :
    lineFeed ∉ ofString text :=
  fun hmem => (lineFeed_mem_ofString_iff text).mp hmem h

end Bytes

namespace Target

variable {argument text : String}

/-- The directory of a process has no line feed in its path. -/
theorem lineFeed_not_mem_directory (target : Target) : Bytes.lineFeed ∉ target.directory := by
  rw [directory, List.mem_append, not_or]
  exact ⟨Bytes.lineFeed_not_mem_ofString (singleLine_ofList rfl),
    Bytes.lineFeed_not_mem_ofString (Decimal.singleLine_ofNat target.pid)⟩

/-- The file with the environment of a process has no line feed in its path. -/
theorem lineFeed_not_mem_environmentPath (target : Target) :
    Bytes.lineFeed ∉ target.environmentPath := by
  rw [environmentPath, List.mem_append, not_or]
  exact ⟨target.lineFeed_not_mem_directory,
    Bytes.lineFeed_not_mem_ofString (singleLine_ofList rfl)⟩

/-- An argument that is refused is shown as it stands, or in decimal if it is a number. -/
theorem parse_error_cases (h : parse argument = .error text) :
    text = argument ∨ ∃ n, text = Decimal.ofInt n := by
  rw [parse] at h
  split at h
  · next n _ =>
    split at h
    · rw [ofInt] at h
      split at h
      · cases h
      · cases h
        exact Or.inr ⟨n, rfl⟩
    · cases h
      exact Or.inl rfl
  · cases h
    exact Or.inl rfl

end Target

namespace Namespace

/-- The handle of the launcher's own namespace has no line feed in its path. -/
theorem Kind.lineFeed_not_mem_ownPath (kind : Kind) : Bytes.lineFeed ∉ kind.ownPath := by
  rw [ownPath, List.mem_append, not_or]
  exact ⟨Bytes.lineFeed_not_mem_ofString (singleLine_ofList rfl),
    Bytes.lineFeed_not_mem_ofString kind.singleLine_name⟩

/-- The handle of the target's namespace has no line feed in its path. -/
theorem Kind.lineFeed_not_mem_targetPath (kind : Kind) (target : Target) :
    Bytes.lineFeed ∉ kind.targetPath target := by
  rw [targetPath, List.mem_append, List.mem_append, not_or, not_or]
  exact ⟨⟨target.lineFeed_not_mem_directory,
    Bytes.lineFeed_not_mem_ofString (singleLine_ofList rfl)⟩,
    Bytes.lineFeed_not_mem_ofString kind.singleLine_name⟩

/-- A failure to enter a namespace names a path without a line feed. -/
theorem Entry.namesLine {target : Target} {kind : Kind} {failure : Failure} {events : History}
    (h : Entry target kind (.error failure) events) : failure.NamesLine := by
  cases h with
  | ownUnknown error => exact kind.lineFeed_not_mem_ownPath
  | targetUnknown own error => exact kind.lineFeed_not_mem_targetPath target
  | unopened own theirs error hne => exact kind.lineFeed_not_mem_targetPath target
  | refused own theirs file error holds hne => exact kind.lineFeed_not_mem_targetPath target

/-- So does a failure to enter one of several namespaces. -/
theorem Entries.namesLine {target : Target} {kinds : List Kind} {failure : Failure}
    {events : History} (h : Entries target kinds (.error failure) events) : failure.NamesLine := by
  obtain ⟨kind, part, hentry⟩ := h.exists_entry_of_error
  exact hentry.namesLine

end Namespace

/-- A failure to read the environment of a process names a path without a line feed. -/
theorem Environment.BlockRead.namesLine {target : Target} {failure : Failure} {events : History}
    (h : BlockRead target.environmentPath (.error failure) events) : failure.NamesLine := by
  cases h <;> exact target.lineFeed_not_mem_environmentPath

namespace Request

variable {request : Request} {system : System} {past : History} {failure : Failure}

/-- The first phase fails for a path without a line feed, or for a block that it refuses. -/
theorem importing_error_cases (h : (request.importing system past).1 = .error failure) :
    failure.NamesLine ∨ ∃ block text, request.importsEnvironment = true ∧
      (readBlock request.target.environmentPath system past).1 = .ok block ∧
      parseBlock block = .error text ∧ failure = .malformedVariable text := by
  cases hon : request.importsEnvironment with
  | false =>
    rw [importing_result, hon] at h
    cases h
  | true =>
    have hblock := readBlock_blockRead request.target.environmentPath system past
    cases hread : (readBlock request.target.environmentPath system past).1 with
    | error other =>
      rw [importing_result, if_pos hon, hread] at h
      cases h
      rw [hread] at hblock
      exact Or.inl hblock.namesLine
    | ok block =>
      rw [importing_of_read hon hread] at h
      cases hparse : parseBlock block with
      | error text =>
        rw [hparse] at h
        cases h
        exact Or.inr ⟨block, text, rfl, rfl, hparse, rfl⟩
      | ok overlay =>
        rw [hparse] at h
        cases h

/-- A launch fails for what names a path without a line feed, or as its first phase fails. -/
theorem Course.error_cases {events : History}
    (h : request.Course system past (.error failure) events) :
    failure.NamesLine ∨ (request.importing system past).1 = .error failure := by
  cases h with
  | importFailed himport => exact Or.inr himport
  | entryFailed himport henter =>
    exact Or.inl (entries_of_entering henter).namesLine
  | decodingFailed himport henter hdecode =>
    rcases decodeCommand_error_cases hdecode with ⟨_, error, _, rfl⟩ | ⟨_, rfl⟩
    · exact Or.inl trivial
    · exact Or.inl trivial
  | nulFound => exact Or.inl trivial
  | spawnFailed => exact Or.inl trivial

/-- A launch whose first phase fails ends with the failure of that phase. -/
theorem launch_of_importing_error (h : (request.importing system past).1 = .error failure) :
    (launch request system past).1 = .error failure := by
  rw [launch, bind_of_error (importEnvironment_of_importing h)]

/-- A request is refused for its target, which is shown as it was given or in decimal, or for its
command, of which nothing is shown. -/
theorem ofTexts_error_cases {target? : Option String} {command? : Option Bytes}
    {selection : Selection} {importsEnvironment : Bool}
    (h : ofTexts target? command? selection importsEnvironment = .error failure) :
    failure = .missingCommand ∨
      ∃ text, Target.parse (target?.getD "0") = .error text ∧ failure = .invalidTarget text := by
  rw [ofTexts] at h
  cases hparse : Target.parse (target?.getD "0") with
  | error text =>
    rw [hparse] at h
    cases h
    exact Or.inr ⟨text, rfl, rfl⟩
  | ok target =>
    left
    rw [hparse] at h
    cases command? with
    | none =>
      cases h
      rfl
    | some command =>
      cases command with
      | nil =>
        cases h
        rfl
      | cons byte rest => cases h

/-- A request is refused in single lines unless its target is shown as it was given and has a line
feed. -/
theorem singleLine_ofTexts_iff {words : Wording} (hwords : words.Plain) (target? : Option String)
    (command? : Option Bytes) (selection : Selection) (importsEnvironment : Bool) :
    (∀ failure, ofTexts target? command? selection importsEnvironment = .error failure →
        SingleLine (failure.messageIn words)) ↔
      ∀ argument, target? = some argument → Target.parse argument = .error argument →
        SingleLine argument := by
  constructor
  · intro h argument hargument hparse
    have hrefused : ofTexts target? command? selection importsEnvironment =
        .error (.invalidTarget argument) := by
      rw [ofTexts, hargument, Option.getD_some, hparse]
      rfl
    exact (Failure.singleLine_message_iff hwords _).mp (h _ hrefused)
  · intro h failure hfailure
    rw [Failure.singleLine_message_iff hwords]
    rcases ofTexts_error_cases hfailure with rfl | ⟨text, hparse, rfl⟩
    · trivial
    · rcases Target.parse_error_cases hparse with rfl | ⟨n, rfl⟩
      · cases target? with
        | none => exact singleLine_ofList rfl
        | some argument => exact h argument rfl hparse
      · exact Decimal.singleLine_ofInt n

/-- A launch fails in single lines unless it refuses the imported environment for a record that has
a line feed. -/
theorem singleLine_launch_iff {words : Wording} (hwords : words.Plain) (request : Request)
    (system : System) (past : History) :
    (∀ failure, (launch request system past).1 = .error failure →
        SingleLine (failure.messageIn words)) ↔
      (request.importsEnvironment = true →
        ∀ block record, (readBlock request.target.environmentPath system past).1 = .ok block →
          malformedRecord? block = some record → Bytes.lineFeed ∉ record) := by
  constructor
  · intro h hon block record hread hrecord
    have hparse := parseBlock_eq_error_iff.mpr ⟨record, hrecord, rfl⟩
    have himport : (request.importing system past).1 =
        .error (.malformedVariable (Utf8.textLossy record)) := by
      rw [importing_of_read hon hread, hparse]
      rfl
    have hmessage := h _ (launch_of_importing_error himport)
    exact (Utf8.singleLine_textLossy_iff record).mp
      ((Failure.singleLine_message_iff hwords _).mp hmessage)
  · intro h failure hfailure
    rw [Failure.singleLine_message_iff hwords]
    have hcourse := launch_course request system past
    rw [hfailure] at hcourse
    rcases hcourse.error_cases with hnames | himport
    · exact hnames
    · rcases importing_error_cases himport with
        hnames | ⟨block, text, hon, hread, hparse, rfl⟩
      · exact hnames
      · obtain ⟨record, hrecord, rfl⟩ := parseBlock_eq_error_iff.mp hparse
        exact (Utf8.singleLine_textLossy_iff record).mpr (h hon block record hread hrecord)

end Request

/-- A text that is one line with its end. -/
def IsLine (text : String) : Prop :=
  ∃ line, SingleLine line ∧ text = line ++ "\n"

/-- A failure is reported in one line exactly if its message is one. -/
theorem Invocation.isLine_closingText_iff (words : Wording) (failure : Failure) :
    IsLine (closingText words (.error failure)) ↔ SingleLine (failure.messageIn words) := by
  have hprefix : SingleLine (programName ++ ": ") :=
    (singleLine_ofList rfl).append (singleLine_ofList rfl)
  have hreport : closingText words (.error failure) =
      programName ++ ": " ++ failure.messageIn words ++ "\n" := rfl
  rw [hreport]
  constructor
  · rintro ⟨line, hline, heq⟩
    obtain rfl := (String.append_left_inj "\n").mp heq
    exact (singleLine_append.mp hline).2
  · intro hmessage
    exact ⟨_, hprefix.append hmessage, rfl⟩

/-- If errors are worded in single lines, the message of every failure of a request or a launch is
one, unless a text with a line feed is given as the target and is no number, or the imported
environment has a line feed in its first record that is no variable. A failure is reported in one
line exactly if its message is a single line. -/
theorem diagnostics_single_line_iff {words : Wording} (hwords : words.Plain)
    (target? : Option String) (command? : Option Bytes) (selection : Selection)
    (importsEnvironment : Bool) (request : Request) (system : System) (past : History) :
    ((∀ failure, Request.ofTexts target? command? selection importsEnvironment = .error failure →
        SingleLine (failure.messageIn words)) ↔
      ∀ argument, target? = some argument → Target.parse argument = .error argument →
        '\n' ∉ argument.toList) ∧
      ((∀ failure, (launch request system past).1 = .error failure →
          SingleLine (failure.messageIn words)) ↔
        (request.importsEnvironment = true →
          ∀ block record,
            (readBlock request.target.environmentPath system past).1 = .ok block →
            malformedRecord? block = some record → 10 ∉ record)) ∧
      ∀ failure, IsLine (Invocation.closingText words (.error failure)) ↔
        SingleLine (failure.messageIn words) :=
  ⟨Request.singleLine_ofTexts_iff hwords target? command? selection importsEnvironment,
    Request.singleLine_launch_iff hwords request system past,
    Invocation.isLine_closingText_iff words⟩

/-- In the customary wording the target `seven` is refused in a single line, and so is an imported
environment whose first record is `B`. -/
theorem diagnostics_single_line_customary :
    (∀ failure, Request.ofTexts (some "seven") (some [79, 103, 61, 61]) .empty false =
        .error failure → SingleLine (failure.messageIn .customary)) ∧
      ∀ failure, (launch (.forEnvironment [79, 103, 61, 61])
          (System.obliging [66, 0] .empty) []).1 = .error failure →
        SingleLine (failure.messageIn .customary) := by
  obtain ⟨htexts, hlaunch, _⟩ := diagnostics_single_line_iff Wording.plain_customary (some "seven")
    (some [79, 103, 61, 61]) .empty false (.forEnvironment [79, 103, 61, 61])
    (System.obliging [66, 0] .empty) []
  refine ⟨htexts.mpr ?_, hlaunch.mpr ?_⟩
  · rintro argument ⟨⟩ _
    decide
  · intro _ block record hblock hrecord
    have hread : (readBlock (Request.forEnvironment [79, 103, 61, 61]).target.environmentPath
        (System.obliging [66, 0] .empty) []).1 = .ok [66, 0] := by decide +kernel
    obtain rfl := Except.ok.inj (hread.symm.trans hblock)
    obtain rfl : [66] = record := Option.some.inj hrecord
    decide

/-- A target that is no number can hold the start of a further report, and the launcher writes it as
a line of its own, however errors are worded. So can a record of an imported environment that is no
variable. -/
theorem diagnostics_forged :
    (∃ failure, Request.ofTexts (some "1\nns-relocate: 2") (some [79, 103, 61, 61]) .empty false =
        .error failure ∧ ∀ words, ¬ SingleLine (failure.messageIn words) ∧
        Invocation.closingText words (.error failure) =
          "ns-relocate: 1\n" ++ "ns-relocate: 2 is not a valid process ID\n") ∧
      ∃ failure, (launch (.forEnvironment [79, 103, 61, 61])
          (System.obliging [65, 10, 66, 0] .empty) []).1 = .error failure ∧
        ∀ words, ¬ SingleLine (failure.messageIn words) := by
  refine ⟨⟨.invalidTarget "1\nns-relocate: 2", rfl, fun words => ⟨fun hline => ?_, ?_⟩⟩,
    ⟨.malformedVariable (Utf8.textLossy [65, 10, 66]), by decide +kernel, fun words hline => ?_⟩⟩
  · exact (singleLine_append.mp hline).1 (by decide)
  · have hreport : Invocation.line ("1\nns-relocate: 2" ++ " is not a valid process ID") =
        "ns-relocate: 1\n" ++ "ns-relocate: 2 is not a valid process ID\n" := by decide
    exact hreport
  · have hshown := (singleLine_append.mp (singleLine_append.mp hline).1).2
    exact (Utf8.singleLine_textLossy_iff [65, 10, 66]).mp hshown (by decide)

end Relocation
