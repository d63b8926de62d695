import Relocation.Proofs.Base64.Hopeless
import Relocation.Proofs.Launch.Dependence

/-!
# What a launch tells of its command

Of a command that can be run, the records and the result of a launch tell the length and
how the shell ended, and nothing else. An encoded command that cannot be run has a flaw:
its size or its length, a byte with its place, a number of symbols, or that there is a
zero byte. The failure is made of the flaw alone, and the records are those from before
the command is decoded.
-/

namespace Relocation

open Session Environment Namespace

/-- What is wrong with an encoded command that cannot be run. -/
inductive Flaw where
  /-- There is no memory of this size for the decoded command. -/
  | unstorable (size : Nat)
  /-- This length of the text is no multiple of four. -/
  | misaligned (length : Nat)
  /-- This byte of the text makes it hopeless. -/
  | hopeless (offset : Nat) (byte : UInt8)
  /-- So many symbols are left over beyond the full blocks. -/
  | unfinished (symbols : Nat)
  /-- The decoded command holds a zero byte. -/
  | zeroByte
  deriving DecidableEq

/-- The failure that reports a flaw. -/
def Flaw.failure : Flaw → Failure
  | .unstorable size => .allocation size
  | .misaligned length => .encoding (.invalidLength length)
  | .hopeless offset byte => .encoding (.invalidByte offset byte)
  | .unfinished symbols => .encoding (.incompleteBlock symbols)
  | .zeroByte => .embeddedNul

/-- The flaw of an encoded command in the memory that can be had. -/
inductive HasFlaw (reserves : Nat → Bool) (encoded : Bytes) : Flaw → Prop where
  | unstorable (hmemory : reserves (Base64.capacity encoded.length) = false) :
      HasFlaw reserves encoded (.unstorable (Base64.capacity encoded.length))
  | misaligned (hmemory : reserves (Base64.capacity encoded.length) = true)
      (hlength : encoded.length % 4 ≠ 0) : HasFlaw reserves encoded (.misaligned encoded.length)
  | hopeless {offset : Nat} {byte : UInt8}
      (hmemory : reserves (Base64.capacity encoded.length) = true)
      (hlength : encoded.length % 4 = 0) (hbyte : Base64.Hopeless encoded offset byte) :
      HasFlaw reserves encoded (.hopeless offset byte)
  | unfinished (hmemory : reserves (Base64.capacity encoded.length) = true)
      (hlength : encoded.length % 4 = 0)
      (hnone : ∀ offset byte, ¬ Base64.Hopeless encoded offset byte)
      (hleft : (Base64.symbolsOf encoded).length % 4 ≠ 0) :
      HasFlaw reserves encoded (.unfinished ((Base64.symbolsOf encoded).length % 4))
  | zeroByte {command : Bytes} (hdecode : decodeCommand reserves encoded = .ok command)
      (hnul : 0 ∈ command) : HasFlaw reserves encoded .zeroByte

/-- A command that cannot be decoded has a flaw, and fails for it. -/
theorem exists_flaw_of_decodeCommand {reserves : Nat → Bool} {encoded : Bytes} {failure : Failure}
    (h : decodeCommand reserves encoded = .error failure) :
    ∃ flaw, HasFlaw reserves encoded flaw ∧ failure = flaw.failure := by
  rcases decodeCommand_error_cases h with ⟨hmemory, error, hdecode, rfl⟩ | ⟨hmemory, rfl⟩
  · by_cases hlength : encoded.length % 4 = 0
    · rcases Base64.decode_error_cases hlength hdecode with
        ⟨offset, byte, hbyte, rfl⟩ | ⟨hnone, hleft, rfl⟩
      · exact ⟨_, .hopeless hmemory hlength hbyte, rfl⟩
      · exact ⟨_, .unfinished hmemory hlength hnone hleft, rfl⟩
    · refine ⟨_, .misaligned hmemory hlength, ?_⟩
      rw [Base64.decode_of_length_ne hlength] at hdecode
      rw [← Except.error.inj hdecode]
      rfl
  · exact ⟨_, .unstorable hmemory, rfl⟩

/-- A launch as a function of its phases. -/
theorem launch_eq (request : Request) (system : System) (past : History) :
    launch request system past =
      match (request.importing system past).1 with
      | .error failure => (.error failure, (request.importing system past).2)
      | .ok overlay =>
        match (request.entering system past).1 with
        | .error failure =>
          (.error failure, (request.importing system past).2 ++ (request.entering system past).2)
        | .ok () =>
          match request.decoding system past with
          | .error failure => (.error failure, request.joinedEvents system past)
          | .ok command =>
            if command.hasNul then (.error .embeddedNul, request.joinedEvents system past)
            else
              match request.shellReply system past command overlay with
              | .error error =>
                (.error (.spawn error), request.decodedEvents system past command ++
                  [.called (.spawn (Request.shell system past command overlay)) (.error error)])
              | .ok status =>
                (.ok status, request.decodedEvents system past command ++
                  [.called (.spawn (Request.shell system past command overlay)) (.ok status),
                    .recorded (.executed status)]) := by
  have hcourse := launch_course request system past
  generalize launch request system past = outcome at hcourse ⊢
  obtain ⟨result, events⟩ := outcome
  dsimp only at hcourse
  cases hcourse with
  | importFailed himport => simp only [himport]
  | entryFailed himport henter => simp only [himport, henter]
  | decodingFailed himport henter hdecode => simp only [himport, henter, hdecode]
  | nulFound himport henter hdecode hnul => simp [himport, henter, hdecode, hnul]
  | spawnFailed himport henter hdecode hnul hshell =>
    simp [himport, henter, hdecode, hnul, hshell]
  | finished himport henter hdecode hnul hshell =>
    simp [himport, henter, hdecode, hnul, hshell]

/-- The records of a history before the first one that says that a stage was reached. -/
def History.recordsBefore (stage : Stage) (history : History) : List Record :=
  history.records.takeWhile fun record => record.stage? ≠ some stage

namespace Namespace

variable {target : Target}

/-- No stage is reached when a kind is handled. -/
theorem Entry.stage?_eq_none {kind : Kind} {result : Except Failure Membership} {events : History}
    (h : Entry target kind result events) : ∀ record ∈ events.records, record.stage? = none := by
  cases h with
  | handled own theirs file =>
    rw [handling]
    split <;> simp [Record.stage?]
  | ownUnknown error => simp
  | targetUnknown own error => simp
  | unopened own theirs error hne => simp
  | refused own theirs file error holds hne =>
    rw [explanation]
    split <;> simp

/-- Nor is one when several kinds are handled. -/
theorem Entries.stage?_eq_none {kinds : List Kind} {result : Except Failure Unit}
    {events : History} (h : Entries target kinds result events) :
    ∀ record ∈ events.records, record.stage? = none := by
  induction h with
  | done => simp
  | next hentry _ ih =>
    intro record hrecord
    rw [History.records_append, List.mem_append] at hrecord
    exact hrecord.elim (hentry.stage?_eq_none record) (ih record)
  | stopped hentry => exact hentry.stage?_eq_none

end Namespace

/-- Nothing is recorded while an environment block is read. -/
theorem Environment.BlockRead.records_eq_nil {path : Bytes} {result : Except Failure Bytes}
    {events : History} (h : BlockRead path result events) : events.records = [] := by
  obtain ⟨opened, reads, rfl, hreads⟩ := h.events_eq
  simp [records_of_isRead hreads]

/-- No stage is reached before an environment was imported. -/
theorem Environment.Import.stage?_eq_none {target : Target} {result : Except Failure Overlay}
    {events : History} (h : Import target result events) :
    ∀ record ∈ events.records, record.stage? = none := by
  cases h with
  | unread hread => simp [hread.records_eq_nil]
  | malformed hread => simp [hread.records_eq_nil]
  | imported hread => simp [hread.records_eq_nil, Record.stage?]

/-- No command was decoded when the first phase ends. -/
theorem RequestImport.stage?_ne_commandDecoded {request : Request}
    {result : Except Failure Overlay} {events : History} (h : RequestImport request result events) :
    ∀ record ∈ events.records, record.stage? ≠ some .commandDecoded := by
  cases h with
  | skipped => simp
  | failed _ himport =>
    intro record hrecord
    simp [himport.stage?_eq_none record hrecord]
  | @imported overlay events _ himport =>
    intro record hrecord
    rw [History.records_append, History.records_append, List.mem_append, List.mem_append] at hrecord
    rcases hrecord with (hrecord | hrecord) | hrecord
    · simp [himport.stage?_eq_none record hrecord]
    · split at hrecord <;> simp_all [Record.stage?]
    · simp_all [Record.stage?]

namespace Request

variable {request : Request} {system : System} {past : History}
  {result : Except Failure WaitStatus} {events : History}

/-- No command was decoded when the command is to be decoded. -/
theorem stage?_ne_commandDecoded_of_prepared (request : Request) (system : System)
    (past : History) :
    ∀ record ∈ (request.prepared system past).records, record.stage? ≠ some .commandDecoded := by
  have himporting := (request.importing_requestImport system past).stage?_ne_commandDecoded
  have hentering := (request.entering_entries system past).stage?_eq_none
  have hboth : ∀ record ∈ ((request.importing system past).2 ++
      (request.entering system past).2).records, record.stage? ≠ some .commandDecoded := by
    intro record hrecord
    rw [History.records_append, List.mem_append] at hrecord
    rcases hrecord with hrecord | hrecord
    · exact himporting record hrecord
    · simp [hentering record hrecord]
  rw [prepared]
  split
  · exact himporting
  · exact hboth
  · intro record hrecord
    rw [joinedEvents, History.records_append, List.mem_append] at hrecord
    rcases hrecord with hrecord | hrecord
    · exact hboth record hrecord
    · obtain rfl : record = .namespacesJoined := by simpa using hrecord
      simp [Record.stage?]

/-- Before its command is decoded, a launch records what it records until the command is to be
decoded. -/
theorem recordsBefore_launch (request : Request) (system : System) (past : History) :
    (launch request system past).2.recordsBefore .commandDecoded =
      (request.prepared system past).records := by
  obtain ⟨tail, hevents, _, htail⟩ := (launch_course request system past).exists_prepared
  have hpositive : ∀ record ∈ (request.prepared system past).records,
      decide (record.stage? ≠ some .commandDecoded) = true := fun record hrecord =>
    decide_eq_true (request.stage?_ne_commandDecoded_of_prepared system past record hrecord)
  rw [hevents, History.recordsBefore, History.records_append,
    List.takeWhile_append_of_pos hpositive]
  -- What follows begins with the record of the decoding, if anything is recorded at all.
  rcases htail with hnone | ⟨length, rest, hdecoded⟩
  · rw [hnone, List.takeWhile_nil, List.append_nil]
  · simp [hdecoded, Record.stage?]

/-- A launch whose command cannot be run ends when the command is to be decoded: with a failure that
every command would have met, or with the failure of a flaw of the command. -/
theorem launch_of_flawed
    (hflawed : ∀ command, request.decoding system past = .ok command → 0 ∈ command) :
    (launch request system past).2 = request.prepared system past ∧
      ((∃ failure, ∀ encoded,
          (launch (request.withCommand encoded) system past).1 = .error failure) ∨
        ∃ flaw, HasFlaw (system.reserves (past ++ request.joinedEvents system past))
            request.encodedCommand flaw ∧
          (launch request system past).1 = .error flaw.failure) := by
  have hrun := launch_eq request system past
  cases himport : (request.importing system past).1 with
  | error failure =>
    rw [prepared, hrun, himport]
    refine ⟨rfl, Or.inl ⟨failure, fun encoded => ?_⟩⟩
    -- The first two phases do not see the command, so they come to the same for any other.
    have hother : ((request.withCommand encoded).importing system past).1 = .error failure :=
      himport
    rw [launch_eq, hother]
  | ok overlay =>
    cases henter : (request.entering system past).1 with
    | error failure =>
      rw [prepared, hrun, himport, henter]
      refine ⟨rfl, Or.inl ⟨failure, fun encoded => ?_⟩⟩
      have himported : ((request.withCommand encoded).importing system past).1 = .ok overlay :=
        himport
      have hother : ((request.withCommand encoded).entering system past).1 = .error failure :=
        henter
      rw [launch_eq, himported, hother]
    | ok =>
      rw [prepared_of_entered himport henter, hrun, himport, henter]
      cases hdecode : request.decoding system past with
      | error failure =>
        obtain ⟨flaw, hflaw, rfl⟩ := exists_flaw_of_decodeCommand hdecode
        exact ⟨rfl, Or.inr ⟨flaw, hflaw, rfl⟩⟩
      | ok command =>
        have hnul := hflawed command hdecode
        have hfound : command.hasNul = true := by simpa [Bytes.hasNul] using hnul
        dsimp only
        rw [if_pos hfound]
        exact ⟨rfl, Or.inr ⟨.zeroByte, .zeroByte hdecode hnul, rfl⟩⟩

/-- Launches of commands of one length for which the shell ends alike record the same and end
alike. -/
theorem launch_withCommand_of_length {encoded command other : Bytes}
    (hdecode : request.decoding system past = .ok command)
    (hother : (request.withCommand encoded).decoding system past = .ok other)
    (hnul : 0 ∉ command) (hnone : 0 ∉ other) (hlength : other.length = command.length)
    (hshell : ∀ overlay, (request.importing system past).1 = .ok overlay →
      (request.withCommand encoded).shellReply system past other overlay =
        request.shellReply system past command overlay) :
    (launch (request.withCommand encoded) system past).2.records =
        (launch request system past).2.records ∧
      (launch (request.withCommand encoded) system past).1 = (launch request system past).1 := by
  have himporting : (request.withCommand encoded).importing system past =
      request.importing system past := rfl
  have hentering : (request.withCommand encoded).entering system past =
      request.entering system past := rfl
  have hjoined : (request.withCommand encoded).joinedEvents system past =
      request.joinedEvents system past := rfl
  have hfree : command.hasNul = false := by simpa [Bytes.hasNul] using hnul
  have hotherFree : other.hasNul = false := by simpa [Bytes.hasNul] using hnone
  rw [launch_eq, launch_eq, himporting, hentering, hjoined, hdecode, hother]
  cases himport : (request.importing system past).1 with
  | error failure => exact ⟨rfl, rfl⟩
  | ok overlay =>
    cases (request.entering system past).1 with
    | error failure => exact ⟨rfl, rfl⟩
    | ok =>
      simp only [hfree, hotherFree, hshell overlay himport, decodedEvents, hjoined, hlength]
      cases request.shellReply system past command overlay <;> simp

end Request

/-- A launch tells nothing of its command but the length. Two encoded commands that decode to bytes
of one length, without a zero byte, leave the same records and the same result if the shell ends
alike for both. An encoded command that cannot be run leaves the records that any command leaves
before it is decoded. It fails for what every command would have failed for, or with a failure
that is made of its flaw alone. -/
theorem launch_hides_command (request : Request) (system : System) (past : History)
    (encoded : Bytes) :
    (∀ command other, request.decoding system past = .ok command →
      ({ request with encodedCommand := encoded } : Request).decoding system past = .ok other →
      0 ∉ command → 0 ∉ other → other.length = command.length →
      (∀ overlay, (request.importing system past).1 = .ok overlay →
        ({ request with encodedCommand := encoded } : Request).shellReply system past other
            overlay =
          request.shellReply system past command overlay) →
      (launch { request with encodedCommand := encoded } system past).2.records =
          (launch request system past).2.records ∧
        (launch { request with encodedCommand := encoded } system past).1 =
          (launch request system past).1) ∧
    ((∀ command, request.decoding system past = .ok command → 0 ∈ command) →
      (launch request system past).2.records =
          (launch { request with encodedCommand := encoded } system past).2.recordsBefore
            .commandDecoded ∧
        ((∃ failure, ∀ any : Bytes,
            (launch { request with encodedCommand := any } system past).1 = .error failure) ∨
          ∃ flaw, HasFlaw (system.reserves (past ++ request.joinedEvents system past))
              request.encodedCommand flaw ∧
            (launch request system past).1 = .error flaw.failure)) := by
  refine ⟨fun command other hdecode hother hnul hnone hlength hshell =>
    Request.launch_withCommand_of_length hdecode hother hnul hnone hlength hshell,
    fun hflawed => ?_⟩
  obtain ⟨hevents, hresult⟩ := Request.launch_of_flawed hflawed
  refine ⟨?_, hresult⟩
  have hbefore := (request.withCommand encoded).recordsBefore_launch system past
  rw [request.prepared_withCommand] at hbefore
  rw [hevents]
  exact hbefore.symm

/-- The commands `a` and `:` look the same in the log. An encoded command that breaks off leaves
what they leave before they are decoded, and fails for a flaw. -/
theorem launch_hides_command_letter :
    ((launch (.forNetwork [89, 81, 61, 61]) (System.obliging [] .empty) []).2.records =
        (launch (.forNetwork [79, 103, 61, 61]) (System.obliging [] .empty) []).2.records ∧
      (launch (.forNetwork [89, 81, 61, 61]) (System.obliging [] .empty) []).1 =
        (launch (.forNetwork [79, 103, 61, 61]) (System.obliging [] .empty) []).1) ∧
    (launch (.forNetwork [79, 103, 61]) (System.obliging [] .empty) []).2.records =
        (launch (.forNetwork [79, 103, 61, 61]) (System.obliging [] .empty) []).2.recordsBefore
          .commandDecoded ∧
      ((∃ failure, ∀ any : Bytes,
          (launch (.forNetwork any) (System.obliging [] .empty) []).1 = .error failure) ∨
        ∃ flaw, HasFlaw (fun _ => true) [79, 103, 61] flaw ∧
          (launch (.forNetwork [79, 103, 61]) (System.obliging [] .empty) []).1 =
            .error flaw.failure) := by
  have hcolon : (Request.forNetwork [79, 103, 61, 61]).decoding (System.obliging [] .empty) [] =
      .ok [58] := by decide +kernel
  have hletter : (Request.forNetwork [89, 81, 61, 61]).decoding (System.obliging [] .empty) [] =
      .ok [97] := by decide +kernel
  have hcut : (Request.forNetwork [79, 103, 61]).decoding (System.obliging [] .empty) [] =
      .error (.encoding (.invalidLength 3)) := by decide +kernel
  refine ⟨(launch_hides_command (.forNetwork [79, 103, 61, 61]) (System.obliging [] .empty) []
      [89, 81, 61, 61]).1 [58] [97] hcolon hletter (by decide) (by decide) rfl fun _ _ => rfl,
    (launch_hides_command (.forNetwork [79, 103, 61]) (System.obliging [] .empty) []
      [79, 103, 61, 61]).2 fun command hdecode => ?_⟩
  rw [hcut] at hdecode
  cases hdecode

end Relocation
