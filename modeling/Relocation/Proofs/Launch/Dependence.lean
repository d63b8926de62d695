import Relocation.Proofs.Launch.Entrance
import Relocation.Proofs.Launch.Environment

/-!
# What a launch depends on

A launch asks the system only about what its request names: the namespaces of the
selected kinds, the environment of the target if it is to be imported, and the shell.
Two systems that answer alike there, and that serve the launcher itself alike, cannot
be told apart by it. The same holds of two requests that differ in their commands alone:
until the shell is started they ask the same questions and get the same answers.
-/

namespace Relocation

open Session Environment Namespace

namespace Session

variable {α β : Type} {system other : System} {past : History}

/-- A call comes to the same wherever its answer is the same. -/
theorem call_eq_of_reply {operation : Call}
    (h : other.reply past operation = system.reply past operation) :
    call operation other past = call operation system past := by
  rw [call_apply, call_apply, h]

/-- What a call gives is the answer of the system. -/
theorem reply_of_call {operation : Call} {reply : operation.Reply} {events : History}
    (h : call operation system past = (.ok reply, events)) :
    system.reply past operation = reply := by
  rw [call_apply] at h
  exact Except.ok.inj (Prod.mk.inj h).1

/-- What a call leaves is the call with its answer. -/
theorem events_of_call {operation : Call} {reply : operation.Reply} {events : History}
    (h : call operation system past = (.ok reply, events)) :
    events = [.called operation reply] := by
  rw [← reply_of_call h]
  rw [call_apply] at h
  exact (Prod.mk.inj h).2.symm

/-- A joined session comes to the same in two systems if each part does, the second one after what
the first one left. -/
theorem bind_eq_of_parts {first : Session α} {next : α → Session β}
    (hfirst : first other past = first system past)
    (hnext : ∀ a events, first system past = (.ok a, events) →
      next a other (past ++ events) = next a system (past ++ events)) :
    (first >>= next) other past = (first >>= next) system past := by
  rcases bind_cases first next system past with
    ⟨failure, events, heq, hbind⟩ | ⟨a, events, heq, hbind⟩
  · rw [hbind, bind_of_error (hfirst.trans heq)]
  · rw [hbind, bind_of_ok (hfirst.trans heq), hnext a events heq]

end Session

/-- What happens when the kernel refuses a namespace for lack of privilege. -/
def Event.refusal (kind : Kind) (file : Descriptor) : Event :=
  .called (.enterNamespace file kind.flag) (.error (.kernel .notPermitted))

namespace Request

/-- Whether two systems answer alike where a request looks: about the handles of the selected kinds
and the entry of their namespaces, about the shell, and, if the environment of the target is to be
imported, to opening its file and to the reads of the file after that. -/
structure AnsweredAlike (request : Request) (system other : System) : Prop where
  namespaces : ∀ history, ∀ kind ∈ request.selection.kinds, ∀ call : Call,
    call.Concerns request.target kind → other.reply history call = system.reply history call
  shell : ∀ history image,
    other.reply history (.spawn image) = system.reply history (.spawn image)
  block : request.importsEnvironment = true → ∀ history,
    other.reply history (.openFile request.target.environmentPath) =
      system.reply history (.openFile request.target.environmentPath)
  readings : request.importsEnvironment = true → ∀ past file,
    system.reply past (.openFile request.target.environmentPath) = .ok file →
    ∀ reads : History, (∀ event ∈ reads, IsRead file event) → ∀ most,
      other.reply (historyOnceOpen past request.target.environmentPath file ++ reads)
          (.read file most) =
        system.reply (historyOnceOpen past request.target.environmentPath file ++ reads)
          (.read file most)

/-- Whether two systems serve the launcher itself alike: they let it have the capability to enter
namespaces after a namespace of a selected kind was refused for lack of privilege, the memory for
the decoded command and, if the environment of the target is to be imported, for a block of any
length, and the environment that it inherits. -/
structure ServedAlike (request : Request) (system other : System) : Prop where
  capability : ∀ history, ∀ kind ∈ request.selection.kinds, ∀ file,
    other.reply (history ++ [.refusal kind file]) .holdsCapability =
      system.reply (history ++ [.refusal kind file]) .holdsCapability
  memory : ∀ history size,
    (request.importsEnvironment = true ∧ ∃ length, size = capacityFor length) ∨
        size = Base64.capacity request.encodedCommand.length →
      other.reserves history size = system.reserves history size
  inherited : other.environment = system.environment

end Request

namespace Namespace

variable {target : Target} {kind : Kind} {system other : System}

/-- The inode number of a file is the same wherever the answer is. -/
theorem inode_eq_of_reply {path : Bytes} {past : History}
    (h : other.reply past (.inode path) = system.reply past (.inode path)) :
    inode path other past = inode path system past :=
  bind_eq_of_parts (call_eq_of_reply h) fun reply _ _ => by cases reply <;> rfl

/-- The explanation of a refusal is the same wherever the capability is. -/
theorem explainRefusal_eq_of_reply {past : History}
    (h : other.reply past .holdsCapability = system.reply past .holdsCapability) :
    explainRefusal kind other past = explainRefusal kind system past := by
  rw [explainRefusal_apply, explainRefusal_apply, h]

/-- Handling a kind comes to the same in two systems that answer alike about the kind and explain
its refusal alike. -/
theorem enter_eq
    (hanswers : ∀ history (call : Call), call.Concerns target kind →
      other.reply history call = system.reply history call)
    (hcapability : ∀ history file,
      other.reply (history ++ [.refusal kind file]) .holdsCapability =
        system.reply (history ++ [.refusal kind file]) .holdsCapability) (past : History) :
    enter target kind other past = enter target kind system past := by
  refine bind_eq_of_parts (inode_eq_of_reply (hanswers _ _ (Or.inl rfl))) fun own _ _ => ?_
  refine bind_eq_of_parts (inode_eq_of_reply (hanswers _ _ (Or.inr rfl))) fun theirs _ _ => ?_
  split
  · rfl
  · refine bind_eq_of_parts (call_eq_of_reply (hanswers _ _ rfl)) fun opened _ _ => ?_
    cases opened with
    | error error => rfl
    | ok file =>
      refine bind_eq_of_parts (call_eq_of_reply (hanswers _ _ rfl)) fun entered events hcall => ?_
      cases entered with
      | ok => rfl
      | error error =>
        dsimp only
        split
        · next hprivilege =>
          -- The capability is asked for right after the refusal.
          subst hprivilege
          obtain rfl := events_of_call hcall
          exact bind_eq_of_parts (explainRefusal_eq_of_reply (hcapability _ file)) fun _ _ _ => rfl
        · rfl

end Namespace

namespace Environment

variable {system other : System}

/-- A file is read alike in systems that answer alike to its reads. -/
theorem readUpTo_eq_of_replies {opened reads : History} {file : Descriptor}
    (hread : ∀ reads : History, (∀ event ∈ reads, IsRead file event) → ∀ most,
      other.reply (opened ++ reads) (.read file most) =
        system.reply (opened ++ reads) (.read file most))
    (hreads : ∀ event ∈ reads, IsRead file event) (limit : Nat) :
    readUpTo file limit other (opened ++ reads) = readUpTo file limit system (opened ++ reads) := by
  induction limit using Nat.strongRecOn generalizing reads with
  | ind limit ih =>
    rw [readUpTo]
    split
    · rfl
    · refine bind_eq_of_parts (call_eq_of_reply (hread reads hreads limit))
        fun reading events hcall => ?_
      obtain rfl := events_of_call hcall
      cases reading.piece with
      | ended => rfl
      | failed errno herrno => rfl
      | data bytes hbytes hlength =>
        have hpositive := List.length_pos_iff.mpr hbytes
        refine bind_eq_of_parts ?_ fun _ _ _ => rfl
        rw [List.append_assoc]
        refine ih (limit - bytes.length) (by omega) ?_
        simpa [or_imp, forall_and, IsRead] using hreads

/-- The memory with which a file is read is enough to fill it. -/
theorem capacityFor_initialCapacity : capacityFor initialCapacity = initialCapacity := rfl

/-- An environment block is read alike in systems that answer alike and have memory alike. -/
theorem readBlock_eq_of_replies {path : Bytes}
    (hopen : ∀ history,
      other.reply history (.openFile path) = system.reply history (.openFile path))
    (hread : ∀ past file, system.reply past (.openFile path) = .ok file →
      ∀ reads : History, (∀ event ∈ reads, IsRead file event) → ∀ most,
      other.reply (historyOnceOpen past path file ++ reads) (.read file most) =
        system.reply (historyOnceOpen past path file ++ reads) (.read file most))
    (hmemory : ∀ history length,
      other.reserves history (capacityFor length) = system.reserves history (capacityFor length))
    (past : History) : readBlock path other past = readBlock path system past := by
  refine bind_eq_of_parts (call_eq_of_reply (hopen _)) fun opened events hcall => ?_
  cases opened with
  | error error => rfl
  | ok file =>
    have hopened := reply_of_call hcall
    obtain rfl := events_of_call hcall
    have haccept : acceptBlock path (other.reserves (historyOnceOpen past path file)) =
        acceptBlock path (system.reserves (historyOnceOpen past path file)) := by
      funext block
      rw [acceptBlock, acceptBlock, hmemory]
    dsimp only
    rw [← historyOnceOpen, bind_of_ok reserves_apply, bind_of_ok reserves_apply,
      ← capacityFor_initialCapacity, hmemory, haccept]
    split
    · refine congrArg (Prod.map id ([] ++ ·)) (bind_eq_of_parts ?_ fun drained _ _ => ?_)
      · exact readUpTo_eq_of_replies (hread past file hopened) (by simp) _
      · cases drained <;> rfl
    · rfl

/-- The environment of a target is imported alike wherever its block is read alike. -/
theorem importFrom_eq_of_readBlock {target : Target} {past : History}
    (h : readBlock target.environmentPath other past =
      readBlock target.environmentPath system past) :
    importFrom target other past = importFrom target system past :=
  bind_eq_of_parts h fun block _ _ => by cases parseBlock block <;> rfl

end Environment

/-- Entering several namespaces comes to the same in systems in which each of them does. -/
theorem enterAll_eq_of_enter {target : Target} {kinds : List Kind} {system other : System}
    (h : ∀ kind ∈ kinds, ∀ past, enter target kind other past = enter target kind system past)
    (past : History) : enterAll target kinds other past = enterAll target kinds system past := by
  induction kinds generalizing past with
  | nil => rfl
  | cons kind rest ih =>
    refine bind_eq_of_parts (h kind List.mem_cons_self past) fun _ events _ => ?_
    exact ih (fun next hnext => h next (List.mem_cons_of_mem _ hnext)) (past ++ events)

namespace Request

variable {request : Request} {system other : System}

/-- The first phase is the same in systems that answer and serve alike. -/
theorem AnsweredAlike.importEnvironment_eq (hanswered : request.AnsweredAlike system other)
    (hserved : request.ServedAlike system other) (past : History) :
    importEnvironment request other past = importEnvironment request system past := by
  rw [importEnvironment]
  split
  · next hon =>
    have hmemory (history : History) (length : Nat) :
        other.reserves history (capacityFor length) =
          system.reserves history (capacityFor length) :=
      hserved.memory history _ (Or.inl ⟨hon, length, rfl⟩)
    have hread :=
      readBlock_eq_of_replies (hanswered.block hon) (hanswered.readings hon) hmemory past
    refine bind_eq_of_parts (importFrom_eq_of_readBlock hread) fun overlay _ _ => ?_
    dsimp only
    split <;> rfl
  · rfl

/-- The second phase is the same in systems that answer and serve alike. -/
theorem AnsweredAlike.enterAll_eq (hanswered : request.AnsweredAlike system other)
    (hserved : request.ServedAlike system other) (past : History) :
    enterAll request.target request.selection.kinds other past =
      enterAll request.target request.selection.kinds system past :=
  enterAll_eq_of_enter (fun kind hkind => enter_eq
    (fun history call => hanswered.namespaces history kind hkind call)
    (fun history => hserved.capability history kind hkind)) past

/-- The command is the same in systems that have the memory for it alike. -/
theorem ServedAlike.commandOf_eq (h : request.ServedAlike system other) (past : History) :
    commandOf request other past = commandOf request system past := by
  have hdecode : decodeCommand (other.reserves past) request.encodedCommand =
      decodeCommand (system.reserves past) request.encodedCommand := by
    simp only [decodeCommand, h.memory past _ (Or.inr rfl)]
  cases hresult : decodeCommand (system.reserves past) request.encodedCommand with
  | error failure =>
    rw [commandOf_of_error hresult, commandOf_of_error (hdecode.trans hresult)]
  | ok command => rw [commandOf_of_ok hresult, commandOf_of_ok (hdecode.trans hresult)]

/-- The shell runs alike in systems that answer and serve alike. -/
theorem AnsweredAlike.execute_eq (hanswered : request.AnsweredAlike system other)
    (hserved : request.ServedAlike system other) (command : Bytes) (overlay : Overlay)
    (past : History) :
    execute command overlay other past = execute command overlay system past := by
  refine bind_eq_of_parts (by rw [environment_apply, environment_apply, hserved.inherited])
    fun inherited _ _ => ?_
  refine bind_eq_of_parts (call_eq_of_reply (hanswered.shell _ _)) fun reply _ _ => ?_
  cases reply <;> rfl

/-- A launch is the same in systems that answer and serve alike. -/
theorem AnsweredAlike.launch_eq (hanswered : request.AnsweredAlike system other)
    (hserved : request.ServedAlike system other) (past : History) :
    launch request other past = launch request system past := by
  refine bind_eq_of_parts (hanswered.importEnvironment_eq hserved past) fun overlay _ _ => ?_
  refine bind_eq_of_parts (hanswered.enterAll_eq hserved _) fun _ _ _ => ?_
  refine bind_eq_of_parts rfl fun _ _ _ => ?_
  refine bind_eq_of_parts (hserved.commandOf_eq _) fun command _ _ => ?_
  refine bind_eq_of_parts rfl fun _ _ _ => ?_
  exact bind_eq_of_parts (hanswered.execute_eq hserved command overlay _) fun _ _ _ => rfl

end Request

namespace History

/-- The calls of a history with their answers, but for the start of processes. -/
def lookups (history : History) : History :=
  history.filter fun
    | .called (.spawn _) _ => false
    | .called _ _ => true
    | _ => false

/-- The lookups of two histories that follow one another. -/
@[simp] theorem lookups_append (first second : History) :
    lookups (first ++ second) = lookups first ++ lookups second :=
  List.filter_append ..

end History

namespace Request

variable {request : Request} {system : System} {past : History}
  {result : Except Failure WaitStatus} {events : History}

/-- The same request with another encoded command. -/
def withCommand (request : Request) (encoded : Bytes) : Request :=
  { request with encodedCommand := encoded }

/-- What has happened in a launch when its command is to be decoded, or when it failed before. -/
def prepared (request : Request) (system : System) (past : History) : History :=
  match (request.importing system past).1, (request.entering system past).1 with
  | .error _, _ => (request.importing system past).2
  | .ok _, .error _ => (request.importing system past).2 ++ (request.entering system past).2
  | .ok _, .ok _ => request.joinedEvents system past

/-- What happens before the command is decoded does not depend on the command. -/
theorem prepared_withCommand (request : Request) (encoded : Bytes) (system : System)
    (past : History) :
    (request.withCommand encoded).prepared system past = request.prepared system past := rfl

/-- What has happened when the command is decoded, if nothing failed before. -/
theorem prepared_of_entered {overlay : Overlay}
    (himport : (request.importing system past).1 = .ok overlay)
    (henter : (request.entering system past).1 = .ok ()) :
    request.prepared system past = request.joinedEvents system past := by
  rw [prepared, himport, henter]

/-- A launch begins with what it does before the command is decoded. After that it looks up nothing
more, and its first record says that the command was decoded. -/
theorem Course.exists_prepared (h : request.Course system past result events) :
    ∃ tail, events = request.prepared system past ++ tail ∧ tail.lookups = [] ∧
      (tail.records = [] ∨ ∃ length rest, tail.records = .commandDecoded length :: rest) := by
  cases h with
  | importFailed himport => exact ⟨[], by simp [prepared, himport], rfl, Or.inl rfl⟩
  | entryFailed himport henter => exact ⟨[], by simp [prepared, himport, henter], rfl, Or.inl rfl⟩
  | decodingFailed himport henter _ =>
    exact ⟨[], by simp [prepared_of_entered himport henter], rfl, Or.inl rfl⟩
  | nulFound himport henter _ _ =>
    exact ⟨[], by simp [prepared_of_entered himport henter], rfl, Or.inl rfl⟩
  | spawnFailed himport henter _ _ _ =>
    rw [decodedEvents, List.append_assoc, ← prepared_of_entered himport henter]
    exact ⟨_, rfl, rfl, Or.inr ⟨_, _, rfl⟩⟩
  | finished himport henter _ _ _ =>
    rw [decodedEvents, List.append_assoc, ← prepared_of_entered himport henter]
    exact ⟨_, rfl, rfl, Or.inr ⟨_, _, rfl⟩⟩

/-- A launch looks up what it looks up before the command is decoded. -/
theorem lookups_launch (request : Request) (system : System) (past : History) :
    (launch request system past).2.lookups = (request.prepared system past).lookups := by
  obtain ⟨tail, hevents, htail, _⟩ := (launch_course request system past).exists_prepared
  rw [hevents, History.lookups_append, htail, List.append_nil]

end Request

/-- A system in which some files cannot be found. -/
def System.hiding (system : System) (hidden : Bytes → Bool) : System where
  reply history call :=
    match call with
    | .inode path =>
      if hidden path then .error (.kernel .noEntry) else system.reply history (.inode path)
    | .openFile path =>
      if hidden path then .error (.kernel .noEntry) else system.reply history (.openFile path)
    | call => system.reply history call
  reserves := system.reserves
  environment := system.environment

namespace Request

variable {request : Request} {hidden : Bytes → Bool}

/-- A system answers alike when files are hidden that the request does not name: the handles of
kinds that are not selected, and the environment of the target if it is not to be imported. -/
theorem answeredAlike_hiding (system : System)
    (hkinds : ∀ kind ∈ request.selection.kinds,
      hidden kind.ownPath = false ∧ hidden (kind.targetPath request.target) = false)
    (hblock : request.importsEnvironment = true →
      hidden request.target.environmentPath = false) :
    request.AnsweredAlike system (system.hiding hidden) where
  namespaces history kind hkind call hconcerns := by
    obtain ⟨hown, htarget⟩ := hkinds kind hkind
    cases call with
    | inode path => rcases hconcerns with rfl | rfl <;> simp [System.hiding, hown, htarget]
    | openFile path =>
      obtain rfl := hconcerns
      simp [System.hiding, htarget]
    | pause | read _ _ | enterNamespace _ _ | holdsCapability | setVariable _ _ | spawn _ => rfl
  shell _ _ := rfl
  block hon _ := by simp [System.hiding, hblock hon]
  readings _ _ _ _ _ _ _ := rfl

/-- Hiding files leaves the launcher itself as it was. -/
theorem servedAlike_hiding (request : Request) (system : System) (hidden : Bytes → Bool) :
    request.ServedAlike system (system.hiding hidden) :=
  ⟨fun _ _ _ _ => rfl, fun _ _ _ => rfl, rfl⟩

end Request

/-- A launch uses only what its request asks for. Two systems that answer alike about the selected
kinds, the shell, and the environment of the target if it is to be imported, and that serve the
launcher itself alike, see the same launch: the same calls, answers and records in the same order,
and the same result. And requests that differ in their commands alone make the same calls for the
environment and the namespaces, with the same answers. -/
theorem launch_uses_only_request (request : Request) (past : History) :
    (∀ system other : System, request.AnsweredAlike system other →
      request.ServedAlike system other →
      launch request other past = launch request system past) ∧
    ∀ (system : System) (encoded : Bytes),
      (launch { request with encodedCommand := encoded } system past).2.lookups =
        (launch request system past).2.lookups := by
  refine ⟨fun system other hanswered hserved => hanswered.launch_eq hserved past,
    fun system encoded => ?_⟩
  rw [Request.lookups_launch, Request.lookups_launch]
  exact congrArg History.lookups (request.prepared_withCommand encoded system past)

/-- An obliging system in which the environment and the mount namespace of a process are hidden. -/
def System.veiled : System :=
  (System.obliging [65, 61, 49, 0] .empty).hiding fun path =>
    path = Bytes.ofString "/proc/7/environ" || path = Bytes.ofString "/proc/7/ns/mnt"

/-- A launch that is asked for the network namespace alone is the same if the environment of the
target and its mount namespace are hidden. -/
theorem launch_uses_only_request_veiled :
    (Request.forNetwork [79, 103, 61, 61]).AnsweredAlike
        (System.obliging [65, 61, 49, 0] .empty) .veiled ∧
      (Request.forNetwork [79, 103, 61, 61]).ServedAlike
        (System.obliging [65, 61, 49, 0] .empty) .veiled ∧
      launch (.forNetwork [79, 103, 61, 61]) .veiled [] =
        launch (.forNetwork [79, 103, 61, 61]) (System.obliging [65, 61, 49, 0] .empty) [] := by
  have hkinds : (Request.forNetwork [79, 103, 61, 61]).selection.kinds = [.net] := rfl
  have hanswered : (Request.forNetwork [79, 103, 61, 61]).AnsweredAlike
      (System.obliging [65, 61, 49, 0] .empty) .veiled := by
    refine Request.answeredAlike_hiding _ ?_ nofun
    simp only [hkinds, List.forall_mem_singleton]
    decide +kernel
  have hserved := Request.servedAlike_hiding (.forNetwork [79, 103, 61, 61])
    (System.obliging [65, 61, 49, 0] .empty) fun path =>
      path = Bytes.ofString "/proc/7/environ" || path = Bytes.ofString "/proc/7/ns/mnt"
  exact ⟨hanswered, hserved, (launch_uses_only_request _ []).1 _ _ hanswered hserved⟩

/-- A system that refuses every namespace for lack of privilege, to a launcher that has the
capability to enter namespaces or lacks it, or cannot find out. -/
def System.refusing (holds : Except String Bool) : System where
  reply history call :=
    match call with
    | .inode path => .ok path.length
    | .enterNamespace _ _ => .error (.kernel .notPermitted)
    | .holdsCapability => holds
    | call => (System.obliging [] .empty).reply history call
  reserves _ _ := true
  environment := .empty

/-- Systems that answer everything alike except whether the launcher has the capability to enter
namespaces do not see the same records. Nor do those see the same result that give it other memory,
nor those the same calls that give it another environment. -/
theorem launch_tells_launcher :
    (∃ request : Request,
      (∀ history call, call ≠ .holdsCapability →
        (System.refusing (.ok false)).reply history call =
          (System.refusing (.ok true)).reply history call) ∧
      (System.refusing (.ok false)).reserves = (System.refusing (.ok true)).reserves ∧
      (System.refusing (.ok false)).environment = (System.refusing (.ok true)).environment ∧
      (launch request (System.refusing (.ok false)) []).2.records ≠
        (launch request (System.refusing (.ok true)) []).2.records) ∧
    (∃ (request : Request) (system other : System), other.reply = system.reply ∧
      other.environment = system.environment ∧
      (launch request other []).1 ≠ (launch request system []).1) ∧
    ∃ (request : Request) (system other : System), other.reply = system.reply ∧
      other.reserves = system.reserves ∧
      (launch request other []).2.calls ≠ (launch request system []).2.calls := by
  refine ⟨⟨.forNetwork [79, 103, 61, 61], fun history call hcall => ?_, rfl, rfl,
      by decide +kernel⟩,
    ⟨.forNetwork [79, 103, 61, 61], System.obliging [] .empty,
      { System.obliging [] .empty with reserves := fun _ _ => false }, rfl, rfl,
      by decide +kernel⟩,
    ⟨.forNetwork [79, 103, 61, 61], System.obliging [] .empty,
      System.obliging [] (.ofEntries [([65], [48])]), rfl, rfl, by decide +kernel⟩⟩
  cases call with
  | holdsCapability => exact absurd rfl hcall
  | _ => rfl

end Relocation
