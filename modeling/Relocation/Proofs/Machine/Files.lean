import Mathlib.Data.List.Induction
import Relocation.Machine.Host
import Relocation.Proofs.Environment.Block
import Relocation.Proofs.Environment.Reading

/-!
# The files of a machine

What is written to a file is read from it afterwards. A launcher on a host writes nothing: it
opens files and enters namespaces, neither of which changes what is in a file, and what
it has read so far of a file decides where the next read goes on. So a host serves the
content of a file piece by piece, and a launcher that reads the environment of another
process reads the block with which that process was started.
-/

namespace Relocation.Machine

open Environment

/-! ### What is at a place -/

namespace Kernel

variable {kernel : Kernel}

/-- Whether there is some content at a place: a read at any position gives the bytes that follow, up
to its limit. -/
def Holds (kernel : Kernel) (place : Place) (content : Bytes) : Prop :=
  ∀ position limit, kernel.bytesAt place position limit = .ok ((content.drop position).take limit)

/-- The bytes of an array as a list are as many as in the array. -/
theorem length_toList_data (bytes : ByteArray) : bytes.data.toList.length = bytes.size := by
  rw [Array.length_toList, ByteArray.size_data]

/-- A part of some bytes is what follows its start, up to its length. -/
theorem slice_eq (bytes : ByteArray) (start count : Nat) :
    slice bytes start count = (bytes.data.toList.drop start).take count := by
  rw [slice, ByteArray.data_extract, Array.toList_extract, List.extract_eq_take_drop,
    Nat.add_sub_cancel_left]

/-- A regular file holds its bytes. -/
theorem holds_regular {number : Nat} {bytes : ByteArray}
    (h : (kernel.inodes[number]?.getD default).content = .regular bytes) :
    kernel.Holds (.inode number) bytes.data.toList := by
  intro position limit
  rw [bytesAt, h]
  exact congrArg Except.ok (slice_eq bytes position limit)

/-- A text with others put in its place from a position on, and zero bytes up to there if it is too
short. -/
def replaced (old : Bytes) (position : Nat) (bytes : Bytes) : Bytes :=
  (old ++ List.replicate (position - old.length) 0).take position ++ bytes ++
    old.drop (position + bytes.length)

/-- To overwrite a part of some bytes is to replace it. -/
theorem toList_overwrite (old : ByteArray) (position : Nat) (bytes : Bytes) :
    (overwrite old position bytes).data.toList = replaced old.data.toList position bytes := by
  rw [overwrite, replaced, ← length_toList_data]
  split
  · next hend =>
    rw [hend, List.drop_of_length_le (Nat.le_add_right _ _), Nat.sub_self, List.replicate_zero,
      List.append_nil, List.append_nil, List.take_length]
    simp
  · split
    · next hgap =>
      have hlong : (old.data.toList ++
          List.replicate (position - old.data.toList.length) 0).length ≤ position := by
        rw [List.length_append, List.length_replicate]
        omega
      rw [List.take_of_length_le hlong, List.drop_of_length_le (by omega), List.append_nil]
      simp
    · next hinside =>
      have hnone : position - old.data.toList.length = 0 := by omega
      rw [hnone, List.replicate_zero, List.append_nil]
      simp only [ByteArray.data_append, ByteArray.data_extract, Array.toList_append,
        Array.toList_extract, List.extract_eq_take_drop, List.drop_zero, Nat.sub_zero]
      rw [← List.length_drop, List.take_length]

/-- What is written to a regular file is in its place afterwards. -/
theorem holds_writeAt {number : Nat} {inode : Inode} {old : ByteArray} {bytes : Bytes}
    (hinode : kernel.inodes[number]? = some inode) (hregular : inode.content = .regular old)
    (hbytes : bytes ≠ []) (position : Nat) :
    (kernel.writeAt (.inode number) (some position) bytes).2.Holds (.inode number)
      (replaced old.data.toList position bytes) := by
  obtain ⟨content, mode, changed⟩ := inode
  obtain rfl : content = .regular old := hregular
  rw [← toList_overwrite]
  apply holds_regular
  rw [writeAt, hinode]
  simp [hbytes, mapInode, Array.getElem?_modify, hinode]

/-- The name of the file that shows the environment of a process. -/
def environName : Bytes := Bytes.ofString "environ"

/-- The environment file of a process holds the lines of its environment, each with a zero byte
behind it. -/
theorem holds_environ {id : Nat} {process : Process} (h : kernel.process? id = some process) :
    kernel.Holds (.processFile id environName) (process.environment.flatMap (· ++ [0])) := by
  intro position limit
  have htext : kernel.processText id environName = process.environment.flatMap (· ++ [0]) := by
    rw [processText, h]
    rfl
  rw [bytesAt, htext]
  rfl

/-- What is looked up among processes of which one was changed. -/
theorem lookup_map_change (processes : List (Nat × Process)) (id other : Nat)
    (change : Process → Process) :
    (processes.map fun entry => if entry.1 = id then (id, change entry.2) else entry).lookup other =
      (processes.lookup other).map fun process =>
        if other = id then change process else process := by
  induction processes with
  | nil => rfl
  | cons entry rest ih =>
    obtain ⟨number, process⟩ := entry
    by_cases hother : other = number
    · subst hother
      by_cases hid : other = id <;> simp [hid]
    · have hskips : (other == number) = false := by simpa using hother
      by_cases hid : number = id
      · subst hid
        simp [List.lookup_cons, hskips, ih, hother]
      · simp [List.lookup_cons, hid, hskips, ih]

/-- A change of one process that keeps what its files show changes nothing that is read anywhere. -/
theorem bytesAt_mapProcess {id : Nat} {change : Process → Process}
    (hparent : ∀ process, (change process).parent = process.parent)
    (hgroup : ∀ process, (change process).group = process.group)
    (harguments : ∀ process, (change process).arguments = process.arguments)
    (henvironment : ∀ process, (change process).environment = process.environment)
    (place : Place) (position limit : Nat) :
    (kernel.mapProcess id change).bytesAt place position limit =
      kernel.bytesAt place position limit := by
  have htext (other : Nat) (name : Bytes) :
      (kernel.mapProcess id change).processText other name = kernel.processText other name := by
    rw [processText, processText, process?, process?, mapProcess, lookup_map_change]
    cases kernel.processes.lookup other with
    | none => rfl
    | some process =>
      by_cases hother : other = id
      · simp [hother, shortName, hparent, hgroup, harguments, henvironment]
      · simp [hother]
  cases place with
  | processFile other name => rw [bytesAt, bytesAt, htext]
  | _ => rfl

/-- A file that is not made when it is missing is opened only if it is there. -/
theorem openFile_cases (kernel : Kernel) (id : Nat) (path : Bytes) (mode : Mode) (bits : Nat)
    (hcreates : mode.creates = false) :
    (∃ errno, kernel.openFile id path mode bits = some (.error errno, kernel)) ∨
      ∃ place, kernel.find id path = .ok place := by
  rw [openFile, find, hcreates]
  cases hspot : kernel.spotOf id path with
  | error errno => exact Or.inl ⟨errno, by simp [hspot]⟩
  | ok spot =>
    cases hplace : spot.place? with
    | none => exact Or.inl ⟨.noEntry, by simp [hspot, hplace]⟩
    | some place => exact Or.inr ⟨place, by simp [hplace, bind, Except.bind]⟩

end Kernel

/-! ### Where a launcher stands -/

namespace Host

variable {host : Host} {past events reads : History} {file : Descriptor} {path content : Bytes}
  {place : Place}

/-- What happens later changes where the launcher stands by then. -/
theorem situation_append (host : Host) (past events : History) :
    host.situation (past ++ events) = events.foldl host.step (host.situation past) :=
  List.foldl_append

/-- All that an event can change: one more file is open, or the launcher is in another namespace. -/
theorem step_cases (host : Host) (situation : Situation) (event : Event) :
    host.step situation event = situation ∨
      (∃ place, host.step situation event =
        { situation with opened := situation.opened ++ [place] }) ∨
      ∃ place, host.step situation event =
        { situation with kernel := host.enterThrough situation.kernel place } := by
  cases event with
  | called call reply =>
    cases call with
    | openFile path =>
      cases reply with
      | error error => exact Or.inl rfl
      | ok file =>
        rw [step]
        cases situation.kernel.find launcherProcess path with
        | error errno => exact Or.inl rfl
        | ok place => exact Or.inr (Or.inl ⟨place, rfl⟩)
    | enterNamespace file flag =>
      cases reply with
      | error error => exact Or.inl rfl
      | ok =>
        rw [step]
        cases situation.place? file with
        | none => exact Or.inl rfl
        | some place => exact Or.inr (Or.inr ⟨place, rfl⟩)
    | _ => exact Or.inl rfl
  | _ => exact Or.inl rfl

/-- To enter a namespace changes nothing that is read at any place. -/
theorem bytesAt_enterThrough (host : Host) (kernel : Kernel) (behind place : Place)
    (position limit : Nat) :
    (host.enterThrough kernel behind).bytesAt place position limit =
      kernel.bytesAt place position limit := by
  cases behind with
  | «namespace» kind inode =>
    rw [enterThrough]
    refine Kernel.bytesAt_mapProcess ?_ ?_ ?_ ?_ place position limit <;> exact fun _ => rfl
  | _ => rfl

/-- What is read at any place is the same as at the start, whatever the launcher did. -/
theorem bytesAt_situation (host : Host) (history : History) (place : Place) (position limit : Nat) :
    (host.situation history).kernel.bytesAt place position limit =
      host.start.kernel.bytesAt place position limit := by
  induction history using List.reverseRecOn with
  | nil => rfl
  | append_singleton earlier event ih =>
    rw [situation_append, List.foldl_cons, List.foldl_nil, ← ih]
    rcases step_cases host (host.situation earlier) event with h | ⟨_, h⟩ | ⟨behind, h⟩
    · rw [h]
    · rw [h]
    · rw [h, bytesAt_enterThrough]

/-- Reads do not change where a launcher stands. -/
theorem situation_append_reads (hreads : ∀ event ∈ reads, IsRead file event) :
    host.situation (past ++ reads) = host.situation past := by
  rw [situation_append]
  induction reads with
  | nil => rfl
  | cons event rest ih =>
    obtain ⟨most, reading, rfl⟩ := hreads event List.mem_cons_self
    exact ih fun event hevent => hreads event (List.mem_cons_of_mem _ hevent)

/-- A file that is opened is there, and its handle is the next one. -/
theorem find_of_openFile {situation : Situation}
    (h : host.openFile situation path = .ok file) :
    file = ⟨situation.opened.length⟩ ∧
      ∃ place, situation.kernel.find launcherProcess path = .ok place := by
  rw [openFile] at h
  split at h
  · cases h
  split at h
  · cases h
  split at h
  · cases h
  split at h
  · cases h
  split at h
  · cases h
  · next hopened =>
    obtain rfl := Except.ok.inj h
    refine ⟨rfl, ?_⟩
    rcases situation.kernel.openFile_cases launcherProcess path { reads := true } 0o666 rfl with
      ⟨errno, hfailed⟩ | hfound
    · exact absurd hfailed (hopened errno _)
    · exact hfound

/-- Behind the handle of a file that was just opened is what its path leads to. -/
theorem place?_once_open (hopen : host.system.reply past (.openFile path) = .ok file)
    (hfind : (host.situation past).kernel.find launcherProcess path = .ok place) :
    (host.situation (historyOnceOpen past path file)).place? file = some place := by
  obtain ⟨rfl, _⟩ := find_of_openFile hopen
  rw [historyOnceOpen, situation_append, List.foldl_cons, List.foldl_nil, step, hfind]
  simp [Situation.place?]

/-- No file is forgotten that was opened before. -/
theorem length_opened_step (host : Host) (situation : Situation) (event : Event) :
    situation.opened.length ≤ (host.step situation event).opened.length := by
  rcases step_cases host situation event with h | ⟨_, h⟩ | ⟨_, h⟩ <;> simp [h]

/-- Nothing was read of a file that was not opened before. -/
theorem bytesRead_of_unopened (hanswered : History.Answered host.system [] past)
    (hunopened : (host.situation past).opened.length ≤ file.number) :
    past.bytesRead file = [] := by
  induction past using List.reverseRecOn with
  | nil => rfl
  | append_singleton earlier event ih =>
    obtain ⟨hearlier, hevent, _⟩ := History.answered_append.mp hanswered
    rw [situation_append, List.foldl_cons, List.foldl_nil] at hunopened
    -- Files stay open, so one that is not open now was not open for any read before.
    have hstill : (host.situation earlier).opened.length ≤ file.number :=
      Nat.le_trans (length_opened_step host _ event) hunopened
    rw [History.bytesRead_append, ih hearlier hstill, List.nil_append]
    cases event with
    | called call reply =>
      cases call with
      | read other most =>
        by_cases hother : other = file
        · subst hother
          have hnone : (host.situation earlier).place? other = none :=
            List.getElem?_eq_none hstill
          have hfailed : reply = ⟨0, .failed .badDescriptor (by decide)⟩ := by
            rw [show reply = _ from hevent]
            simp [system, Host.reply, pieceOf, hnone]
          simp [hfailed, Piece.bytes]
        · simp [History.bytesRead, hother]
      | _ => rfl
    | _ => rfl

/-! ### Reading a file -/

section Open

variable (hanswered : History.Answered host.system [] past)
  (hopen : host.system.reply past (.openFile path) = .ok file)
  (hfind : (host.situation past).kernel.find launcherProcess path = .ok place)
  (hholds : host.start.kernel.Holds place content)

include hanswered hopen hfind hholds

/-- A read of a file that was opened gives the bytes behind those that were read before. -/
theorem reply_read (hreads : ∀ event ∈ reads, IsRead file event) (most : Nat) :
    host.system.reply (historyOnceOpen past path file ++ reads) (.read file most) =
      ⟨0, .ofBytes most ((content.drop (reads.bytesRead file).length).take most)⟩ := by
  have hnew : past.bytesRead file = [] := by
    obtain ⟨rfl, _⟩ := find_of_openFile hopen
    exact bytesRead_of_unopened hanswered (Nat.le_refl _)
  have hbefore : (historyOnceOpen past path file ++ reads).bytesRead file =
      reads.bytesRead file := by
    rw [historyOnceOpen, History.bytesRead_append, History.bytesRead_append, hnew]
    rfl
  have hread := hholds (reads.bytesRead file).length most
  rw [← bytesAt_situation host (historyOnceOpen past path file)] at hread
  simp [system, Host.reply, pieceOf, situation_append_reads hreads, hbefore,
    place?_once_open hopen hfind, hread]

/-- A host serves what a file holds. -/
theorem serves_system : host.system.Serves (historyOnceOpen past path file) file content := by
  intro reads hreads _ hbefore most hmost
  rw [reply_read hanswered hopen hfind hholds hreads]
  refine Piece.continues_ofBytes hbefore (List.take_prefix ..) (fun hnone => ?_) hmost
  exact (List.take_eq_nil_iff.mp hnone).resolve_left (Nat.ne_of_gt hmost)

/-- No read of a file fails that holds something. -/
theorem canRead_system (count : Nat) :
    host.system.CanRead (historyOnceOpen past path file) file count := by
  intro reads hreads _ _ most _
  rw [reply_read hanswered hopen hfind hholds hreads, Piece.ofBytes]
  dsimp only
  split <;> rfl

/-- On a host with enough memory a file is read whole, or refused if it is larger than a block may
be. -/
theorem readBlock_system (hmemory : host.memoryLimit? = none) :
    (readBlock path host.system past).1 =
      if maxBlockLength < content.length then .error (.environmentTooLarge path maxBlockLength)
      else .ok content := by
  have hreserves (history : History) (size : Nat) : host.system.reserves history size = true := by
    simp [system, hmemory]
  have hserves := serves_system hanswered hopen hfind hholds
  obtain ⟨reads, hreads, hresult⟩ := readBlock_of_reserved hopen hserves (hreserves _ _)
  have hnone := hreads.unfailing (canRead_system hanswered hopen hfind hholds _)
  rw [hresult, hnone, Option.elim_none, acceptBlock_of_reserves (hreserves _ _)]
  by_cases hlong : maxBlockLength < content.length
  · rw [if_pos ((hreads.tooLarge_iff hnone).mpr hlong), if_pos hlong]
  · rw [hreads.bytesRead_eq hnone (Nat.not_lt.mp hlong)]

end Open

/-! ### Reading the environment of another process -/

/-- The lines of a block are its pieces between zero bytes, without the last one. -/
theorem recordsOf_eq (block : Bytes) : recordsOf block = (List.splitOn 0 block).dropLast := by
  rw [recordsOf, Bytes.splitOn_nul]
  cases List.splitOn 0 block <;> rfl

/-- The lines of a block, each with a zero byte behind it, are all of it up to its last zero
byte. -/
theorem exists_tail_recordsOf (block : Bytes) :
    ∃ tail, 0 ∉ tail ∧ block = (recordsOf block).flatMap (· ++ [0]) ++ tail := by
  induction block with
  | nil => exact ⟨[], by simp, rfl⟩
  | cons byte rest ih =>
    obtain ⟨tail, htail, hrest⟩ := ih
    obtain ⟨piece, pieces, hpieces⟩ := List.exists_cons_of_ne_nil (List.splitOn_ne_nil 0 rest)
    rw [recordsOf_eq, hpieces] at hrest
    rw [recordsOf_eq, List.splitOn_cons_eq_if_modifyHead, hpieces]
    by_cases hbyte : byte = 0
    · subst hbyte
      exact ⟨tail, htail, by simpa using hrest⟩
    · cases pieces with
      | nil =>
        obtain rfl : rest = tail := by simpa using hrest
        exact ⟨byte :: rest, by simpa [Ne.symm hbyte] using htail, by simp [hbyte]⟩
      | cons next later => exact ⟨tail, htail, by simpa [hbyte] using hrest⟩

/-- A block that ends with a zero byte is what the lines of its process show. -/
theorem flatMap_recordsOf {block : Bytes} (h : block = [] ∨ block.getLast? = some 0) :
    (recordsOf block).flatMap (· ++ [0]) = block := by
  obtain ⟨tail, htail, hblock⟩ := exists_tail_recordsOf block
  have hnone : tail = [] := by
    rcases h with rfl | hlast
    · exact (List.append_eq_nil_iff.mp hblock.symm).2
    · by_contra hsome
      rw [hblock, List.getLast?_append_of_ne_nil _ hsome] at hlast
      exact htail (List.mem_of_getLast? hlast)
  rw [hnone, List.append_nil] at hblock
  exact hblock.symm

/-- Whether the processes of a host are told apart by their IDs. -/
structure DistinctPeers (host : Host) : Prop where
  nodup : (host.peers.map Peer.pid).Nodup
  ne_first : ∀ peer ∈ host.peers, peer.pid ≠ firstProcess

/-- Of processes with different IDs each is found by its own. -/
theorem lookup_peers {peers : List Peer} (hnodup : (peers.map Peer.pid).Nodup) {peer : Peer}
    (hpeer : peer ∈ peers) :
    (peers.map fun other => (other.pid, other.process)).lookup peer.pid = some peer.process := by
  induction peers with
  | nil => cases hpeer
  | cons other rest ih =>
    obtain ⟨hnew, hrest⟩ := List.nodup_cons.mp hnodup
    rcases List.mem_cons.mp hpeer with rfl | hlater
    · simp
    · have hne : peer.pid ≠ other.pid := by
        intro hsame
        exact hnew (hsame ▸ List.mem_map_of_mem hlater)
      rw [List.map_cons, List.lookup_cons, beq_false_of_ne hne]
      exact ih hrest hlater

/-- A peer is the process of its ID. -/
theorem process?_start (hdistinct : host.DistinctPeers) {peer : Peer} (hpeer : peer ∈ host.peers) :
    host.start.kernel.process? peer.pid = some peer.process := by
  rw [Kernel.process?, start]
  dsimp only
  rw [List.cons_append, List.lookup_cons, beq_false_of_ne (hdistinct.ne_first peer hpeer)]
  dsimp only
  rw [List.lookup_append, lookup_peers hdistinct.nodup hpeer, Option.some_or]

/-- On a host with enough memory, what is read of the environment file of a peer is the block with
which the peer was started, if its last variable is whole and it is not too large. -/
theorem readBlock_peer (hanswered : History.Answered host.system [] past)
    (hopen : host.system.reply past (.openFile path) = .ok file)
    (hdistinct : host.DistinctPeers) {peer : Peer} (hpeer : peer ∈ host.peers)
    (hfind : (host.situation past).kernel.find launcherProcess path =
      .ok (.processFile peer.pid Kernel.environName))
    (hends : peer.block = [] ∨ peer.block.getLast? = some 0) (hmemory : host.memoryLimit? = none) :
    (readBlock path host.system past).1 =
      if maxBlockLength < peer.block.length then .error (.environmentTooLarge path maxBlockLength)
      else .ok peer.block := by
  have hholds := Kernel.holds_environ (process?_start hdistinct hpeer)
  rw [Peer.process, flatMap_recordsOf hends] at hholds
  exact readBlock_system hanswered hopen hfind hholds hmemory

end Host

end Relocation.Machine
