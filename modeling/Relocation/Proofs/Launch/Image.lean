import Relocation.Proofs.Environment.Rendering
import Relocation.Proofs.Launch.Dependence
import Relocation.Proofs.Launch.Order

/-!
# What the shell is handed

Two texts from outside come together in the shell that a launch starts: the command and
the environment of the target. A zero byte in the command stops the launch, and the
variables of a block that is accepted can be listed. So the shell is handed no zero byte
unless the launcher inherited one, and a variable of the target can be told from the line
that it makes in the environment of the shell.
-/

namespace Relocation

open Session Environment Namespace

namespace Environment

/-- A key with a value has an entry with it. -/
theorem Variables.mem_entries_of_get? {vars : Variables} {key value : Bytes}
    (h : vars.get? key = some value) : (key, value) ∈ vars.entries := by
  obtain ⟨⟨found, _⟩, hfind, rfl⟩ := Option.map_eq_some_iff.mp h
  obtain rfl : found = key := by simpa using List.find?_some hfind
  exact List.mem_of_find?_eq_some hfind

/-- An entry of an environment on which an overlay was applied is a record of the overlay or was
there before. -/
theorem Overlay.mem_entries_apply {overlay : Overlay} {base : Variables} {entry : Entry}
    (h : entry ∈ (overlay.apply base).entries) :
    entry ∈ overlay.records ∨ entry ∈ base.entries := by
  obtain ⟨records⟩ := overlay
  induction records generalizing base with
  | nil => exact Or.inr h
  | cons record rest ih =>
    rcases @ih (base.insert record.1 record.2) h with hrest | hbase
    · exact Or.inl (List.mem_cons_of_mem _ hrest)
    · refine (mem_insertEntry hbase).imp_left ?_
      rintro rfl
      exact List.mem_cons_self

/-- The record of a variable that can be listed is cut at its first equals sign into the key and the
value. -/
theorem Listable.cut?_recordOf {entry : Entry} (h : Listable entry) :
    (recordOf entry).cut? (· = equalsByte) = some entry := by
  refine Bytes.cut?_eq_some_iff.mpr ⟨equalsByte, by simp, rfl, fun byte hmem => ?_⟩
  rw [decide_eq_false_iff_not]
  rintro rfl
  exact h.equals_not_mem_key hmem

end Environment

/-- There is no zero byte in the shell for a command without one in an environment without one. -/
theorem hasNul_shellImage {command : Bytes} {environment : Variables} (hcommand : 0 ∉ command)
    (henvironment : ∀ entry ∈ environment.entries, 0 ∉ entry.1 ∧ 0 ∉ entry.2) :
    (shellImage command environment).hasNul = false := by
  have hflag : 0 ∉ Bytes.ofString "-c" := by decide
  have harguments : [Bytes.ofString "-c", command].any Bytes.hasNul = false := by
    simp [Bytes.hasNul, hflag, hcommand]
  rw [ProcessImage.hasNul, shellImage, harguments, Bool.false_or]
  simpa [Bytes.hasNul] using henvironment

/-- A process is started in a history exactly if that is one of its calls. -/
theorem History.mem_images_iff {history : History} {image : ProcessImage} :
    image ∈ history.images ↔ .spawn image ∈ history.calls := by
  rw [images, List.mem_filterMap]
  constructor
  · rintro ⟨call, hcall, himage⟩
    cases call with
    | spawn other =>
      obtain rfl : other = image := Option.some.inj himage
      exact hcall
    | _ => cases himage
  · exact fun hcall => ⟨_, hcall, rfl⟩

namespace Request

variable {request : Request} {system : System} {past : History}
  {result : Except Failure WaitStatus} {events : History}

/-- The variables that are imported can be listed. -/
theorem listable_of_importing {overlay : Overlay}
    (h : (request.importing system past).1 = .ok overlay) :
    ∀ entry ∈ overlay.records, Listable entry := by
  have himport := requestImport_of_importing h
  generalize (request.importing system past).2 = events at himport
  cases himport with
  | skipped => exact nofun
  | imported _ hfrom =>
    cases hfrom with
    | imported _ hparse => exact listable_of_parseBlock hparse

/-- A process that is started is the shell for the decoded command, which has no zero byte, with the
imported variables. -/
theorem Course.shell_of_spawn_mem (h : request.Course system past result events)
    {image : ProcessImage} (hspawn : .spawn image ∈ events.calls) :
    ∃ command overlay, request.decoding system past = .ok command ∧ 0 ∉ command ∧
      (request.importing system past).1 = .ok overlay ∧
      image = shell system past command overlay := by
  obtain ⟨command, ⟨⟨overlay, himport⟩, henter, hdecode⟩, hnul⟩ :=
    h.spawn_mem_iff.mp ⟨image, hspawn⟩
  have himage := History.mem_images_iff.mpr hspawn
  rw [h.images_eq himport henter hdecode hnul, List.mem_singleton] at himage
  exact ⟨command, overlay, hdecode, hnul, himport, himage⟩

/-- A launch fails for a shell that cannot be started only if it started one and that is what the
system answered. -/
theorem Course.reply_of_spawn_error {error : IoError}
    (h : request.Course system past (.error (.spawn error)) events) :
    ∃ image before, .spawn image ∈ events.calls ∧
      system.reply before (.spawn image) = .error error := by
  cases h with
  | importFailed himport => exact (not_isLate_of_importing himport trivial).elim
  | entryFailed _ henter => exact (not_isLate_of_entering henter trivial).elim
  | decodingFailed _ _ hdecode => exact (not_isLate_of_decoding hdecode trivial).elim
  | spawnFailed _ _ _ _ hshell => exact ⟨_, _, by simp, hshell⟩

/-- There is no zero byte in a process that is started unless the launcher inherited one. -/
theorem Course.hasNul_of_spawn_mem (h : request.Course system past result events)
    (hinherited : ∀ entry ∈ (past.environment system.environment).entries,
      0 ∉ entry.1 ∧ 0 ∉ entry.2)
    {image : ProcessImage} (hspawn : .spawn image ∈ events.calls) : image.hasNul = false := by
  obtain ⟨command, overlay, _, hnul, himport, rfl⟩ := h.shell_of_spawn_mem hspawn
  refine hasNul_shellImage hnul fun entry hentry => ?_
  rcases Overlay.mem_entries_apply hentry with hrecord | hbase
  · have hlistable := listable_of_importing himport entry hrecord
    exact ⟨hlistable.nul_not_mem_key, hlistable.nul_not_mem_value⟩
  · exact hinherited entry hbase

end Request

/-- What a launch hands to the shell. The command has no zero byte, and the imported variables have
keys that are not empty and hold no equals sign, and no zero bytes. The line of each of them is cut
at its first equals sign into its key and its value, and a variable that no later one overrides is
in the environment of the shell. If there is no zero byte in what the launcher inherited, there is
none in what it hands on. So it does not fail for one, if that is what the system refuses for one
only. -/
theorem launch_hands_no_nul (request : Request) (system : System) (past : History) :
    (∀ image, .spawn image ∈ (launch request system past).2.calls →
      ∃ command overlay, request.decoding system past = .ok command ∧ 0 ∉ command ∧
        (request.importing system past).1 = .ok overlay ∧
        image = shellImage command (overlay.apply (past.environment system.environment)) ∧
        (∀ entry ∈ overlay.records, Listable entry) ∧
        ∀ before entry after, overlay.records = before ++ entry :: after →
          (recordOf entry).cut? (· = equalsByte) = some entry ∧
            ((∀ later ∈ after, later.1 ≠ entry.1) → entry ∈ image.environment.entries)) ∧
    ((∀ entry ∈ (past.environment system.environment).entries, 0 ∉ entry.1 ∧ 0 ∉ entry.2) →
      (∀ image, .spawn image ∈ (launch request system past).2.calls → image.hasNul = false) ∧
        ((∀ history image, system.reply history (.spawn image) = .error .nulInArgument →
            image.hasNul = true) →
          (launch request system past).1 ≠ .error (.spawn .nulInArgument))) := by
  have hcourse := launch_course request system past
  refine ⟨fun image hspawn => ?_, fun hinherited => ⟨fun image hspawn =>
    hcourse.hasNul_of_spawn_mem hinherited hspawn, fun hrefuses hresult => ?_⟩⟩
  · obtain ⟨command, overlay, hdecode, hnul, himport, himage⟩ := hcourse.shell_of_spawn_mem hspawn
    have hlistable := Request.listable_of_importing himport
    refine ⟨command, overlay, hdecode, hnul, himport, himage, hlistable,
      fun before entry after hsplit => ⟨?_, fun hlast => ?_⟩⟩
    · exact (hlistable entry (by simp [hsplit])).cut?_recordOf
    · have hvalue : (overlay.apply (past.environment system.environment)).get? entry.1 =
          some entry.2 := by
        rw [Overlay.get?_apply, Overlay.get?_of_last hsplit hlast]
        rfl
      rw [himage]
      exact Variables.mem_entries_of_get? hvalue
  · rw [hresult] at hcourse
    obtain ⟨image, before, hspawn, hreply⟩ := hcourse.reply_of_spawn_error
    have hfree := hcourse.hasNul_of_spawn_mem hinherited hspawn
    simp [hrefuses before image hreply] at hfree

/-- An obliging system with the block `A=1 B=x=y A=` that gives the launcher the variable `C`. -/
def System.lettered : System :=
  .obliging [65, 61, 49, 0, 66, 61, 120, 61, 121, 0, 65, 61, 0] (.ofEntries [([67], [50])])

/-- From the block `A=1 B=x=y A=`, the shell is handed `B` with the value `x=y` and no zero byte. -/
theorem launch_hands_no_nul_cut :
    ∃ image, .spawn image ∈ (launch (.forEnvironment [79, 103, 61, 61]) .lettered []).2.calls ∧
      ([66], [120, 61, 121]) ∈ image.environment.entries ∧
      (recordOf ([66], [120, 61, 121])).cut? (· = equalsByte) = some ([66], [120, 61, 121]) ∧
      image.hasNul = false ∧
      (launch (.forEnvironment [79, 103, 61, 61]) .lettered []).1 ≠
        .error (.spawn .nulInArgument) := by
  have hspawn : .spawn (shellImage [58] ((Overlay.mk
        [([65], [49]), ([66], [120, 61, 121]), ([65], [])]).apply (.ofEntries [([67], [50])]))) ∈
      (launch (.forEnvironment [79, 103, 61, 61]) .lettered []).2.calls := by decide +kernel
  have hread : (Request.importing (.forEnvironment [79, 103, 61, 61]) .lettered []).1 =
      .ok ⟨[([65], [49]), ([66], [120, 61, 121]), ([65], [])]⟩ := by decide +kernel
  obtain ⟨himage, hfree⟩ := launch_hands_no_nul (.forEnvironment [79, 103, 61, 61]) .lettered []
  obtain ⟨hnul, hresult⟩ := hfree (by decide +kernel)
  obtain ⟨command, overlay, _, _, himport, _, _, hentries⟩ := himage _ hspawn
  obtain rfl := Except.ok.inj (hread.symm.trans himport)
  obtain ⟨hcut, hentry⟩ := hentries [([65], [49])] ([66], [120, 61, 121]) [([65], [])] rfl
  exact ⟨_, hspawn, hentry (by decide), hcut, hnul _ hspawn, hresult nofun⟩

/-- From the block `A=1 A=2`, the first variable is imported and is not in the environment of the
shell, although there is no zero byte in what the launcher inherited. -/
theorem launch_drops_overridden :
    ∃ (request : Request) (system : System) (overlay : Overlay) (image : ProcessImage)
      (entry : Entry),
      (∀ entry ∈ system.environment.entries, 0 ∉ entry.1 ∧ 0 ∉ entry.2) ∧
      .spawn image ∈ (launch request system []).2.calls ∧
      (request.importing system []).1 = .ok overlay ∧ entry ∈ overlay.records ∧
      entry ∉ image.environment.entries :=
  ⟨.forEnvironment [79, 103, 61, 61], System.obliging [65, 61, 49, 0, 65, 61, 50, 0] .empty,
    ⟨[([65], [49]), ([65], [50])]⟩,
    shellImage [58] ((Overlay.mk [([65], [49]), ([65], [50])]).apply .empty), ([65], [49]),
    by decide +kernel, by decide +kernel, by decide +kernel, by decide, by decide +kernel⟩

end Relocation
