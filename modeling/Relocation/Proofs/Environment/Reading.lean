import Relocation.Proofs.Launch.Answers
import Relocation.Proofs.Launch.Environment

/-!
# Reading a block whole or not at all

A file gives its bytes in pieces of any size, and any read may fail. The reads stop at the
end of the file, at a failure, or when one byte more than a block may have is there. So
the reads that are made decide what is read: if they give more bytes than a block may
have it is too large, if one of them fails its error is reported, and otherwise they
found the end of the file and the block is the whole of it. It is never a part of it.
-/

namespace Relocation

open Session Environment

/-- The error of the first read of a file that failed in a history, if one did. -/
def History.failedRead? (file : Descriptor) (history : History) : Option Errno :=
  history.findSome? fun
    | .called (.read other _) reading => if other = file then reading.piece.errno? else none
    | _ => none

namespace History

variable {file : Descriptor} {most : Nat}

/-- The bytes read in histories that follow one another. -/
@[simp] theorem bytesRead_append (first second : History) :
    bytesRead file (first ++ second) = bytesRead file first ++ bytesRead file second :=
  List.flatMap_append ..

/-- Where nothing happens nothing is read. -/
@[simp] theorem bytesRead_nil : bytesRead file [] = [] := rfl

/-- The bytes of a read come before those that are read later. -/
@[simp] theorem bytesRead_cons_read (reading : Reading most) (rest : History) :
    bytesRead file (.called (.read file most) reading :: rest) =
      reading.piece.bytes ++ bytesRead file rest := by
  simp [bytesRead]

/-- Where nothing happens no read fails. -/
@[simp] theorem failedRead?_nil : failedRead? file [] = none := rfl

/-- A read that fails is the first one that does, and otherwise it is a later one. -/
@[simp] theorem failedRead?_cons_read (reading : Reading most) (rest : History) :
    failedRead? file (.called (.read file most) reading :: rest) =
      reading.piece.errno?.or (failedRead? file rest) := by
  cases hpiece : reading.piece.errno? <;> simp [failedRead?, hpiece]

end History

namespace Environment

/-- Whether a read behind some bytes of a file gives what its content calls for: the bytes that come
next, or nothing at the end. It can always fail. -/
def Piece.Continues (content before : Bytes) {most : Nat} : Piece most → Prop
  | .data bytes _ _ => before ++ bytes <+: content
  | .ended => before = content
  | .failed _ _ => True

end Environment

namespace System

variable (system : System) (opened : History) (file : Descriptor)

/-- Whether a file that was opened has a content: each of its reads gives the bytes behind those
that were read before, as many of them as the system likes, or fails. -/
def Serves (content : Bytes) : Prop :=
  ∀ reads : History, (∀ event ∈ reads, IsRead file event) → History.Answered system opened reads →
    reads.bytesRead file <+: content →
    ∀ most, 0 < most →
      (system.reply (opened ++ reads) (.read file most)).piece.Continues content
        (reads.bytesRead file)

/-- Whether so many bytes of a file that was opened can be read before any failure. -/
def CanRead (count : Nat) : Prop :=
  ∀ reads : History, (∀ event ∈ reads, IsRead file event) → History.Answered system opened reads →
    (reads.bytesRead file).length < count →
    ∀ most, 0 < most → (system.reply (opened ++ reads) (.read file most)).piece.errno? = none

end System

namespace Environment

variable {system : System} {opened reads events : History} {file : Descriptor} {limit : Nat}
  {drained : Except Errno Bytes} {content path : Bytes}

namespace Drained

/-- Reading up to a limit gives the bytes of the reads, unless one of them fails. -/
theorem eq_of_reads (h : Drained file limit drained events) :
    drained = (events.failedRead? file).elim (.ok (events.bytesRead file)) .error := by
  induction h with
  | full => rfl
  | ended hlimit hpiece => simp [hpiece, Piece.errno?, Piece.bytes]
  | failed hlimit hpiece => simp [hpiece, Piece.errno?]
  | @more limit reading bytes _ _ drained events hpiece hrest ih =>
    rw [ih]
    cases hfailed : events.failedRead? file <;>
      simp [hpiece, hfailed, Piece.errno?, Piece.bytes, Except.map]

/-- No more bytes are read than the limit, and fewer if a read fails. -/
theorem length_bytesRead (h : Drained file limit drained events) :
    (events.bytesRead file).length ≤ limit ∧
      (events.failedRead? file ≠ none → (events.bytesRead file).length < limit) := by
  induction h with
  | full => simp
  | ended hlimit hpiece => simp [hpiece, Piece.errno?, Piece.bytes]
  | failed hlimit hpiece =>
    simp [hpiece, Piece.errno?, Piece.bytes, Nat.pos_of_ne_zero hlimit]
  | @more limit reading bytes _ hlength drained events hpiece hrest ih =>
    simp only [History.bytesRead_cons_read, History.failedRead?_cons_read, hpiece, Piece.bytes,
      Piece.errno?, Option.none_or, List.length_append]
    exact ⟨by omega, fun hfailed => by have := ih.2 hfailed; omega⟩

/-- The bytes that are read are a beginning of the content, and all of it if no read fails and the
limit is not reached. -/
theorem bytesRead_spec (h : Drained file limit drained events)
    (hserves : system.Serves opened file content) (hreads : ∀ event ∈ reads, IsRead file event)
    (hanswered : History.Answered system opened (reads ++ events))
    (hbefore : reads.bytesRead file <+: content) :
    (reads ++ events).bytesRead file <+: content ∧
      (events.failedRead? file = none → (events.bytesRead file).length < limit →
        (reads ++ events).bytesRead file = content) := by
  induction h generalizing reads with
  | full => simpa using hbefore
  | @ended limit reading hlimit hpiece =>
    obtain ⟨hearlier, hreply, _⟩ := History.answered_append.mp hanswered
    have hcontinues := hserves reads hreads hearlier hbefore limit (Nat.pos_of_ne_zero hlimit)
    rw [← hreply, hpiece] at hcontinues
    have hall : reads.bytesRead file = content := hcontinues
    simp [hpiece, Piece.bytes, hall]
  | failed hlimit hpiece => simp [hpiece, Piece.bytes, Piece.errno?, hbefore]
  | @more limit reading bytes hbytes hlength drained events hpiece hrest ih =>
    obtain ⟨hearlier, hreply, _⟩ := History.answered_append.mp hanswered
    have hlimit : 0 < limit := Nat.lt_of_lt_of_le (List.length_pos_iff.mpr hbytes) hlength
    have hcontinues := hserves reads hreads hearlier hbefore limit hlimit
    rw [← hreply, hpiece] at hcontinues
    have hnext : ∀ event ∈ reads ++ [.called (.read file limit) reading], IsRead file event := by
      simpa [or_imp, forall_and, IsRead] using hreads
    have hspec := ih hnext (by simpa using hanswered)
      (by simpa [hpiece, Piece.bytes, Piece.Continues] using hcontinues)
    refine ⟨by simpa using hspec.1, fun hnone hshort => ?_⟩
    simp only [History.failedRead?_cons_read, hpiece, Piece.errno?, Option.none_or] at hnone
    simp only [History.bytesRead_cons_read, hpiece, Piece.bytes, List.length_append] at hshort
    simpa using hspec.2 hnone (by omega)

/-- No read fails if that many bytes can be read before any failure. -/
theorem failedRead?_eq_none (h : Drained file limit drained events) {count : Nat}
    (hcan : system.CanRead opened file count) (hreads : ∀ event ∈ reads, IsRead file event)
    (hanswered : History.Answered system opened (reads ++ events))
    (hcount : (reads.bytesRead file).length + limit ≤ count) :
    events.failedRead? file = none := by
  induction h generalizing reads with
  | full => rfl
  | ended hlimit hpiece => simp [hpiece, Piece.errno?]
  | @failed limit reading errno herrno hlimit hpiece =>
    obtain ⟨hearlier, hreply, _⟩ := History.answered_append.mp hanswered
    have hnone := hcan reads hreads hearlier (by omega) limit (Nat.pos_of_ne_zero hlimit)
    rw [← hreply, hpiece] at hnone
    cases hnone
  | @more limit reading bytes hbytes hlength drained events hpiece hrest ih =>
    have hnext : ∀ event ∈ reads ++ [.called (.read file limit) reading], IsRead file event := by
      simpa [or_imp, forall_and, IsRead] using hreads
    have hnone := ih hnext (by simpa using hanswered) (by simp [hpiece, Piece.bytes]; omega)
    simp [hpiece, Piece.errno?, hnone]

end Drained

/-- What reading a block comes to if the file is open and all memory is there that is asked for. -/
structure ReadOut (system : System) (opened : History) (path : Bytes) (file : Descriptor)
    (content : Bytes) (result : Except Failure Bytes) (events : History) : Prop where
  /-- A file that is not too large and whose reads succeed is read whole. -/
  whole : content.length ≤ maxBlockLength → events.failedRead? file = none → result = .ok content
  /-- One of which more bytes are read than a block may have is refused. -/
  tooLarge : maxBlockLength < (events.bytesRead file).length →
    result = .error (.environmentTooLarge path maxBlockLength)
  /-- So many bytes are read of a file that has them if they can be read before any failure. -/
  reached : maxBlockLength < content.length → system.CanRead opened file (maxBlockLength + 1) →
    maxBlockLength < (events.bytesRead file).length
  /-- In every other case a read failed, and its error is reported. -/
  unreadable : ¬ (content.length ≤ maxBlockLength ∧ events.failedRead? file = none) →
    (events.bytesRead file).length ≤ maxBlockLength →
    ∃ errno, events.failedRead? file = some errno ∧
      result = .error (.environmentUnreadable path (.kernel errno))

variable {past : History}

/-- Without memory to begin with, a file that was opened is not read. -/
theorem readBlock_of_unreserved (hopen : system.reply past (.openFile path) = .ok file)
    (hmemory : system.reserves (historyOnceOpen past path file) initialCapacity = false) :
    readBlock path system past =
      (.error (.environmentUnreadable path .outOfMemory),
        [.called (.openFile path) (.ok file)]) := by
  rw [readBlock, bind_of_ok (call_of_reply hopen)]
  dsimp only
  rw [← historyOnceOpen, bind_of_ok reserves_apply, hmemory]
  rfl

/-- With memory to begin with, a file that was opened is read up to the limit, and what was read is
accepted or not. -/
theorem readBlock_of_drained (hopen : system.reply past (.openFile path) = .ok file)
    (hmemory : system.reserves (historyOnceOpen past path file) initialCapacity = true)
    (hdrain : readUpTo file (maxBlockLength + 1) system (historyOnceOpen past path file) =
      (.ok drained, reads)) :
    readBlock path system past =
      (drained.mapError (fun errno => .environmentUnreadable path (.kernel errno)) >>=
          acceptBlock path (system.reserves (historyOnceOpen past path file)),
        .called (.openFile path) (.ok file) :: reads) := by
  rw [readBlock, bind_of_ok (call_of_reply hopen)]
  dsimp only
  rw [← historyOnceOpen, bind_of_ok reserves_apply, hmemory, if_pos rfl, List.append_nil,
    bind_of_ok hdrain]
  cases drained <;> simp <;> rfl

/-- What is accepted is the block, and it is not too large. -/
theorem acceptBlock_eq_ok {reserves : Nat → Bool} {block other : Bytes}
    (h : acceptBlock path reserves block = .ok other) :
    block = other ∧ block.length ≤ maxBlockLength := by
  rw [acceptBlock] at h
  split at h
  · cases h
  · split at h
    · cases h
    · next hshort => exact ⟨Except.ok.inj h, Nat.not_lt.mp hshort⟩

/-- With memory for a block, it is accepted unless it is too large. -/
theorem acceptBlock_of_reserves {reserves : Nat → Bool} {block : Bytes}
    (h : reserves (capacityFor block.length) = true) :
    acceptBlock path reserves block =
      if maxBlockLength < block.length then .error (.environmentTooLarge path maxBlockLength)
      else .ok block := by
  rw [acceptBlock, h]
  rfl

/-- What the reads of a block come to. Their bytes are the beginning of the content, at most one
byte beyond the largest block, and the whole of it if none of them fails and it is not too large. If
one fails it is not too large, and none fails if so many bytes can be read before any failure. -/
structure ReadsOf (system : System) (opened : History) (file : Descriptor) (content : Bytes)
    (reads : History) : Prop where
  start : reads.bytesRead file <+: content.take (maxBlockLength + 1)
  whole : reads.failedRead? file = none → (reads.bytesRead file).length ≤ maxBlockLength →
    reads.bytesRead file = content
  short : reads.failedRead? file ≠ none → (reads.bytesRead file).length ≤ maxBlockLength
  unfailing : system.CanRead opened file (maxBlockLength + 1) → reads.failedRead? file = none

namespace ReadsOf

variable {opened : History} (h : ReadsOf system opened file content reads)

include h

/-- Reads of which none fails give a content that is not too large. -/
theorem bytesRead_eq (hnone : reads.failedRead? file = none)
    (hlength : content.length ≤ maxBlockLength) : reads.bytesRead file = content := by
  have hall := h.start.length_le
  rw [List.take_of_length_le (Nat.le_succ_of_le hlength)] at hall
  exact h.whole hnone (Nat.le_trans hall hlength)

/-- Reads of which none fails give too many bytes exactly if the content is too large. -/
theorem tooLarge_iff (hnone : reads.failedRead? file = none) :
    maxBlockLength < (reads.bytesRead file).length ↔ maxBlockLength < content.length := by
  constructor
  · intro hlong
    by_contra hshort
    rw [h.bytesRead_eq hnone (Nat.not_lt.mp hshort)] at hlong
    exact hshort hlong
  · intro hlong
    by_contra hshort
    rw [h.whole hnone (Nat.not_lt.mp hshort)] at hshort
    exact hshort hlong

end ReadsOf

section Open

variable (hopen : system.reply past (.openFile path) = .ok file)
  (hserves : system.Serves (historyOnceOpen past path file) file content)

include hopen hserves

/-- With memory to begin with, reading a block comes to what its reads come to. -/
theorem readBlock_of_reserved
    (hmemory : system.reserves (historyOnceOpen past path file) initialCapacity = true) :
    ∃ reads, ReadsOf system (historyOnceOpen past path file) file content reads ∧
      readBlock path system past =
        ((reads.failedRead? file).elim
          (acceptBlock path (system.reserves (historyOnceOpen past path file))
            (reads.bytesRead file))
          fun errno => .error (.environmentUnreadable path (.kernel errno)),
        .called (.openFile path) (.ok file) :: reads) := by
  obtain ⟨drained, reads, hread, hdrained⟩ :=
    readUpTo_drained file (maxBlockLength + 1) system (historyOnceOpen past path file)
  have hanswered : History.Answered system (historyOnceOpen past path file) ([] ++ reads) := by
    have hfaithful := faithful_readUpTo file (maxBlockLength + 1) system
      (historyOnceOpen past path file)
    rwa [hread] at hfaithful
  have hnone : ∀ event ∈ ([] : History), IsRead file event := by simp
  have hspec := hdrained.bytesRead_spec hserves hnone hanswered List.nil_prefix
  refine ⟨reads, ⟨?_, fun hunfailing hshort => ?_, fun hfailed => ?_, fun hcan => ?_⟩, ?_⟩
  · exact List.prefix_take_iff.mpr ⟨hspec.1, hdrained.length_bytesRead.1⟩
  · exact hspec.2 hunfailing (Nat.lt_succ_of_le hshort)
  · exact Nat.le_of_lt_succ (hdrained.length_bytesRead.2 hfailed)
  · exact hdrained.failedRead?_eq_none hcan hnone hanswered (by simp)
  · rw [readBlock_of_drained hopen hmemory hread, hdrained.eq_of_reads]
    cases reads.failedRead? file <;> rfl

/-- A block that is read is the whole content of its file. -/
theorem eq_content_of_readBlock {block : Bytes}
    (h : (readBlock path system past).1 = .ok block) : block = content := by
  cases hmemory : system.reserves (historyOnceOpen past path file) initialCapacity with
  | false =>
    rw [readBlock_of_unreserved hopen hmemory] at h
    cases h
  | true =>
    obtain ⟨reads, hreads, hresult⟩ := readBlock_of_reserved hopen hserves hmemory
    rw [hresult] at h
    cases hfailed : reads.failedRead? file with
    | some errno =>
      rw [hfailed] at h
      cases h
    | none =>
      rw [hfailed] at h
      -- What was read is not too large, so the end of the file was found.
      obtain ⟨rfl, hshort⟩ := acceptBlock_eq_ok h
      exact hreads.whole hfailed hshort

/-- No more than one byte beyond the largest block is read, and what is read is the beginning of the
content. -/
theorem bytesRead_readBlock :
    (readBlock path system past).2.bytesRead file <+: content.take (maxBlockLength + 1) := by
  cases hmemory : system.reserves (historyOnceOpen past path file) initialCapacity with
  | false =>
    rw [readBlock_of_unreserved hopen hmemory]
    exact List.nil_prefix
  | true =>
    obtain ⟨reads, hreads, hresult⟩ := readBlock_of_reserved hopen hserves hmemory
    rw [hresult]
    exact hreads.start

/-- With the memory that is asked for, reading a block comes to what the content of the file and the
reads that were made call for. -/
theorem readOut_readBlock
    (hfirst : system.reserves (historyOnceOpen past path file) initialCapacity = true)
    (hlast : system.reserves (historyOnceOpen past path file)
      (capacityFor ((readBlock path system past).2.bytesRead file).length) = true) :
    ReadOut system (historyOnceOpen past path file) path file content
      (readBlock path system past).1 (readBlock path system past).2 := by
  obtain ⟨reads, hreads, hresult⟩ := readBlock_of_reserved hopen hserves hfirst
  have hbytes : (readBlock path system past).2.bytesRead file = reads.bytesRead file := by
    rw [hresult]
    rfl
  have hfailure : (readBlock path system past).2.failedRead? file = reads.failedRead? file := by
    rw [hresult]
    rfl
  rw [hbytes] at hlast
  rw [acceptBlock_of_reserves hlast] at hresult
  constructor
  · intro hlength hnone
    rw [hfailure] at hnone
    rw [hresult, hnone, hreads.bytesRead_eq hnone hlength, if_neg (Nat.not_lt.mpr hlength)]
    rfl
  · intro hlong
    rw [hbytes] at hlong
    have hnone : reads.failedRead? file = none := by
      by_contra hfailed
      exact absurd hlong (Nat.not_lt.mpr (hreads.short hfailed))
    rw [hresult, hnone, if_pos hlong]
    rfl
  · intro hlong hcan
    rw [hbytes]
    exact (hreads.tooLarge_iff (hreads.unfailing hcan)).mpr hlong
  · intro hother hshort
    rw [hfailure] at hother ⊢
    rw [hbytes] at hshort
    cases hfailed : reads.failedRead? file with
    | none => exact absurd ⟨hreads.whole hfailed hshort ▸ hshort, hfailed⟩ hother
    | some errno =>
      rw [hresult, hfailed]
      exact ⟨errno, rfl, rfl⟩

end Open

/-- A block is never cut short. A file that cannot be opened is reported with the error of the
open, whatever memory there is. Of a file that is open and has some content, no more than one byte
beyond the largest block is read, and if a block is returned it is the whole content. With the
memory that is asked for, the outcome is the one that the content and the reads that were made call
for. -/
theorem readBlock_whole_or_refused (path : Bytes) (system : System) (past : History) :
    (∀ error, system.reply past (.openFile path) = .error error →
      readBlock path system past =
        (.error (.environmentUnreadable path error),
          [.called (.openFile path) (.error error)])) ∧
    ∀ file content, system.reply past (.openFile path) = .ok file →
      system.Serves (historyOnceOpen past path file) file content →
      (∀ block, (readBlock path system past).1 = .ok block → block = content) ∧
      (readBlock path system past).2.bytesRead file <+: content.take (maxBlockLength + 1) ∧
      (system.reserves (historyOnceOpen past path file) initialCapacity = true →
        system.reserves (historyOnceOpen past path file)
          (capacityFor ((readBlock path system past).2.bytesRead file).length) = true →
        ReadOut system (historyOnceOpen past path file) path file content
          (readBlock path system past).1 (readBlock path system past).2) := by
  refine ⟨fun error hopen => ?_, fun file content hopen hserves => ?_⟩
  · rw [readBlock, bind_of_ok (call_of_reply hopen)]
    rfl
  · exact ⟨fun block => eq_content_of_readBlock hopen hserves, bytesRead_readBlock hopen hserves,
      readOut_readBlock hopen hserves⟩

/-- A read that gives bytes of what comes next continues the content of the file. -/
theorem Piece.continues_ofBytes {before next : Bytes} (hbefore : before <+: content)
    (hnext : next <+: content.drop before.length)
    (hend : next = [] → content.drop before.length = []) {most : Nat} (hmost : 0 < most) :
    (Piece.ofBytes most next).Continues content before := by
  obtain ⟨rest, rfl⟩ := hbefore
  rw [List.drop_left] at hnext hend
  rw [ofBytes]
  split
  · next hnone =>
    have hrest : rest = [] :=
      hend ((List.take_eq_nil_iff.mp hnone).resolve_left (Nat.ne_of_gt hmost))
    change before = before ++ rest
    rw [hrest, List.append_nil]
  · exact (List.prefix_append_right_inj before).mpr ((List.take_prefix most next).trans hnext)

/-- A file that gives so many bytes with each read, until one fails if one does. -/
structure Disk where
  content : Bytes
  pieceLength : Nat
  /-- Behind how many bytes a read fails. -/
  failsBehind? : Option Nat

/-- What a read of a disk gives behind so many bytes. -/
def Disk.piece (disk : Disk) (position most : Nat) : Piece most :=
  if disk.failsBehind? = some position then .failed .inputOutput (by decide)
  else .ofBytes most ((disk.content.drop position).take disk.pieceLength)

/-- A system with one file, in which every read is interrupted once, and which has memory for
everything or for nothing. -/
def systemWithDisk (opened : Except IoError Descriptor) (disk : Disk) (memory : Bool) : System where
  reply history call :=
    match call with
    | .openFile _ => opened
    | .read file most => ⟨1, disk.piece (history.bytesRead file).length most⟩
    | call => (System.obliging [] .empty).reply history call
  reserves _ _ := memory
  environment := .empty

/-- A disk serves its content. -/
theorem serves_systemWithDisk {disk : Disk} (hpiece : 0 < disk.pieceLength)
    (file : Descriptor) (path : Bytes) :
    (systemWithDisk (.ok file) disk true).Serves (historyOnceOpen [] path file) file
      disk.content := by
  intro reads _ _ hbefore most hmost
  change (disk.piece (reads.bytesRead file).length most).Continues _ _
  rw [Disk.piece]
  split
  · trivial
  · refine Piece.continues_ofBytes hbefore (List.take_prefix ..) (fun hnone => ?_) hmost
    exact (List.take_eq_nil_iff.mp hnone).resolve_left (Nat.ne_of_gt hpiece)

/-- All that is in front of the failure of a disk can be read before any failure. -/
theorem canRead_systemWithDisk {content : Bytes} {pieceLength count : Nat} (file : Descriptor)
    (path : Bytes) :
    (systemWithDisk (.ok file) ⟨content, pieceLength, some count⟩ true).CanRead
      (historyOnceOpen [] path file) file count := by
  intro reads _ _ hcount most _
  change (Disk.piece ⟨content, pieceLength, some count⟩ (reads.bytesRead file).length most).errno? =
    none
  rw [Disk.piece, if_neg (by simp; omega), Piece.ofBytes]
  split <;> rfl

/-- Of the file `/e` the block `A=_` is read in two pieces, where `_` is a zero byte. A read that
fails behind the first piece is reported, one that would fail behind too many bytes is not met, and
an open that fails is reported though there is no memory. -/
theorem readBlock_whole_or_refused_in_pieces :
    (readBlock [47, 101] (systemWithDisk (.ok ⟨3⟩) ⟨[65, 61, 0], 2, none⟩ true) []).1 =
        .ok [65, 61, 0] ∧
      (readBlock [47, 101] (systemWithDisk (.ok ⟨3⟩) ⟨[65, 61, 0], 1, some 1⟩ true) []).1 =
        .error (.environmentUnreadable [47, 101] (.kernel .inputOutput)) ∧
      (readBlock [47, 101] (systemWithDisk (.ok ⟨3⟩)
          ⟨List.replicate (maxBlockLength + 2) 65, maxBlockLength, some (maxBlockLength + 1)⟩
          true) []).1 =
        .error (.environmentTooLarge [47, 101] maxBlockLength) ∧
      readBlock [47, 101] (systemWithDisk (.error (.kernel .noEntry)) ⟨[], 1, none⟩ false) [] =
        (.error (.environmentUnreadable [47, 101] (.kernel .noEntry)),
          [.called (.openFile [47, 101]) (.error (.kernel .noEntry))]) := by
  have hout {disk : Disk} (hpiece : 0 < disk.pieceLength) :=
    ((readBlock_whole_or_refused [47, 101] (systemWithDisk (.ok ⟨3⟩) disk true) []).2 ⟨3⟩
      disk.content rfl (serves_systemWithDisk hpiece ⟨3⟩ [47, 101])).2.2 rfl rfl
  refine ⟨?_, ?_, ?_, (readBlock_whole_or_refused _ _ _).1 _ rfl⟩
  · exact (@hout ⟨[65, 61, 0], 2, none⟩ (by decide)).whole (by decide) (by decide +kernel)
  · have hfailed : (readBlock [47, 101]
        (systemWithDisk (.ok ⟨3⟩) ⟨[65, 61, 0], 1, some 1⟩ true) []).2.failedRead? ⟨3⟩ =
        some .inputOutput := by decide +kernel
    obtain ⟨errno, herrno, hresult⟩ := (@hout ⟨[65, 61, 0], 1, some 1⟩ (by decide)).unreadable
      (by simp [hfailed]) (by decide +kernel)
    obtain rfl := Option.some.inj (hfailed.symm.trans herrno)
    exact hresult
  · have hread := @hout ⟨List.replicate (maxBlockLength + 2) 65, maxBlockLength,
      some (maxBlockLength + 1)⟩ (by decide)
    exact hread.tooLarge
      (hread.reached (by simp) (canRead_systemWithDisk ⟨3⟩ [47, 101]))

end Environment

end Relocation
