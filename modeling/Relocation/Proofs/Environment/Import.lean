import Relocation.Launch
import Relocation.Proofs.Session

/-!
# Importing the environment, call by call

The import of an environment opens one file and reads it piece by piece. The relations
of this file list everything that reading the file, importing its variables, and doing
so only on request can come to. In each case the calls are those that open and read the
file, in their order, or as many of them as could be made.
-/

namespace Relocation.Environment

open Session

/-- What happened once a file is open. -/
def historyOnceOpen (past : History) (path : Bytes) (file : Descriptor) : History :=
  past ++ [.called (.openFile path) (.ok file)]

/-- Whether an event is a read of a file. -/
def IsRead (file : Descriptor) (event : Event) : Prop :=
  ∃ most reading, event = .called (.read file most) reading

/-- Everything that reading a file up to a limit can come to: reads that give pieces, until one
finds the end of the file or fails, or the limit is reached. -/
inductive Drained (file : Descriptor) : Nat → Except Errno Bytes → History → Prop where
  | full : Drained file 0 (.ok []) []
  | ended {limit : Nat} {reading : Reading limit} (hlimit : limit ≠ 0)
      (hpiece : reading.piece = .ended) :
      Drained file limit (.ok []) [.called (.read file limit) reading]
  | failed {limit : Nat} {reading : Reading limit} {errno : Errno} {herrno : errno ≠ .interrupted}
      (hlimit : limit ≠ 0) (hpiece : reading.piece = .failed errno herrno) :
      Drained file limit (.error errno) [.called (.read file limit) reading]
  | more {limit : Nat} {reading : Reading limit} {bytes : Bytes} {hbytes : bytes ≠ []}
      {hlength : bytes.length ≤ limit} {result : Except Errno Bytes} {events : History}
      (hpiece : reading.piece = .data bytes hbytes hlength)
      (hrest : Drained file (limit - bytes.length) result events) :
      Drained file limit (result.map (bytes ++ ·)) (.called (.read file limit) reading :: events)

/-- Reading a file up to a limit comes to one of the listed outcomes. -/
theorem readUpTo_drained (file : Descriptor) (limit : Nat) (system : System) (past : History) :
    ∃ result events, readUpTo file limit system past = (.ok result, events) ∧
      Drained file limit result events := by
  induction limit using Nat.strongRecOn generalizing past with
  | ind limit ih =>
    rw [readUpTo]
    split
    · next hlimit =>
      subst hlimit
      exact ⟨_, _, rfl, .full⟩
    · next hlimit =>
      rw [call_bind_apply]
      cases hpiece : (system.reply past (.read file limit)).piece with
      | ended => exact ⟨_, _, rfl, .ended hlimit hpiece⟩
      | failed errno herrno => exact ⟨_, _, rfl, .failed hlimit hpiece⟩
      | data bytes hbytes hlength =>
        have hpositive := List.length_pos_iff.mpr hbytes
        obtain ⟨result, events, heq, hdrained⟩ := ih (limit - bytes.length) (by omega)
          (past ++ [.called (.read file limit) (system.reply past (.read file limit))])
        dsimp only
        rw [bind_of_ok heq]
        exact ⟨_, _, by simp, .more hpiece hdrained⟩

/-- Reading a file takes nothing but reads of it. -/
theorem Drained.isRead {file : Descriptor} {limit : Nat} {result : Except Errno Bytes}
    {events : History} (h : Drained file limit result events) :
    ∀ event ∈ events, IsRead file event := by
  induction h with
  | full => simp
  | ended hlimit hpiece => simp [IsRead]
  | failed hlimit hpiece => simp [IsRead]
  | more hpiece hrest ih => simpa [IsRead] using ih

/-- The calls of reads are those with the sizes for which they ask. -/
theorem calls_of_isRead {file : Descriptor} {events : History}
    (h : ∀ event ∈ events, IsRead file event) :
    ∃ sizes : List Nat, events.calls = sizes.map (.read file) := by
  induction events with
  | nil => exact ⟨[], rfl⟩
  | cons event rest ih =>
    obtain ⟨most, reading, rfl⟩ := h event List.mem_cons_self
    obtain ⟨sizes, hsizes⟩ := ih fun event hevent => h event (List.mem_cons_of_mem _ hevent)
    exact ⟨most :: sizes, by simp [hsizes]⟩

/-- Nothing is recorded in reads. -/
theorem records_of_isRead {events : History}
    (h : ∀ event ∈ events, ∃ file, IsRead file event) : events.records = [] := by
  refine List.filterMap_eq_nil_iff.mpr fun event hevent => ?_
  obtain ⟨file, most, reading, rfl⟩ := h event hevent
  rfl

/-- Everything that reading an environment block from a file can come to. -/
inductive BlockRead (path : Bytes) : Except Failure Bytes → History → Prop where
  | unopened (error : IoError) :
      BlockRead path (.error (.environmentUnreadable path error))
        [.called (.openFile path) (.error error)]
  | unreserved (file : Descriptor) :
      BlockRead path (.error (.environmentUnreadable path .outOfMemory))
        [.called (.openFile path) (.ok file)]
  | unreadable {file : Descriptor} {errno : Errno} {reads : History}
      (hdrained : Drained file (maxBlockLength + 1) (.error errno) reads) :
      BlockRead path (.error (.environmentUnreadable path (.kernel errno)))
        (.called (.openFile path) (.ok file) :: reads)
  | unstored {file : Descriptor} {block : Bytes} {reads : History}
      (hdrained : Drained file (maxBlockLength + 1) (.ok block) reads) :
      BlockRead path (.error (.environmentUnreadable path .outOfMemory))
        (.called (.openFile path) (.ok file) :: reads)
  | tooLarge {file : Descriptor} {block : Bytes} {reads : History}
      (hdrained : Drained file (maxBlockLength + 1) (.ok block) reads)
      (hlength : maxBlockLength < block.length) :
      BlockRead path (.error (.environmentTooLarge path maxBlockLength))
        (.called (.openFile path) (.ok file) :: reads)
  | complete {file : Descriptor} {block : Bytes} {reads : History}
      (hdrained : Drained file (maxBlockLength + 1) (.ok block) reads)
      (hlength : block.length ≤ maxBlockLength) :
      BlockRead path (.ok block) (.called (.openFile path) (.ok file) :: reads)

/-- Reading an environment block takes nothing but opening its file and reads. -/
theorem BlockRead.events_eq {path : Bytes} {result : Except Failure Bytes} {events : History}
    (h : BlockRead path result events) :
    ∃ opened reads, events = .called (.openFile path) opened :: reads ∧
      ∀ event ∈ reads, ∃ file, IsRead file event := by
  cases h with
  | unopened | unreserved => exact ⟨_, [], rfl, by simp⟩
  | unreadable hdrained | unstored hdrained | tooLarge hdrained | complete hdrained =>
    exact ⟨_, _, rfl, fun event hevent => ⟨_, hdrained.isRead event hevent⟩⟩

/-- Reading an environment block comes to one of the listed outcomes. -/
theorem readBlock_blockRead (path : Bytes) (system : System) (past : History) :
    BlockRead path (readBlock path system past).1 (readBlock path system past).2 := by
  rw [readBlock]
  cases hopen : system.reply past (.openFile path) with
  | error error =>
    rw [bind_of_ok (call_of_reply hopen)]
    exact .unopened error
  | ok file =>
    rw [bind_of_ok (call_of_reply hopen)]
    dsimp only
    generalize past ++ [.called (.openFile path) (.ok file)] = before
    rw [bind_of_ok reserves_apply]
    dsimp only
    generalize before ++ [] = before
    split
    · obtain ⟨result, reads, heq, hdrained⟩ :=
        readUpTo_drained file (maxBlockLength + 1) system before
      rw [bind_of_ok heq]
      cases result with
      | error errno => simpa using BlockRead.unreadable hdrained
      | ok block =>
        dsimp only
        rw [ofExcept_apply, List.append_nil, acceptBlock]
        split
        · exact .unstored hdrained
        · split
          · next hlong => exact .tooLarge hdrained hlong
          · next hshort => exact .complete hdrained (Nat.not_lt.mp hshort)
    · exact .unreserved file

/-- Everything that importing the environment of a target can come to. -/
inductive Import (target : Target) : Except Failure Overlay → History → Prop where
  | unread {failure : Failure} {events : History}
      (hread : BlockRead target.environmentPath (.error failure) events) :
      Import target (.error failure) events
  | malformed {block : Bytes} {text : String} {events : History}
      (hread : BlockRead target.environmentPath (.ok block) events)
      (hparse : parseBlock block = .error text) :
      Import target (.error (.malformedVariable text)) events
  | imported {block : Bytes} {overlay : Overlay} {events : History}
      (hread : BlockRead target.environmentPath (.ok block) events)
      (hparse : parseBlock block = .ok overlay) :
      Import target (.ok overlay)
        (events ++
          [.recorded (.environmentRead block.length overlay.length target.environmentPath)])

/-- Importing the environment of a target comes to one of the listed outcomes. -/
theorem importFrom_import (target : Target) (system : System) (past : History) :
    Import target (importFrom target system past).1 (importFrom target system past).2 := by
  have hread := readBlock_blockRead target.environmentPath system past
  rw [importFrom]
  rcases hblock : readBlock target.environmentPath system past with ⟨failure | block, events⟩
  · rw [bind_of_error hblock]
    rw [hblock] at hread
    exact .unread hread
  · rw [bind_of_ok hblock]
    rw [hblock] at hread
    cases hparse : parseBlock block with
    | error text =>
      have himport := Import.malformed hread hparse
      rwa [← List.append_nil events] at himport
    | ok overlay =>
      dsimp only
      rw [bind_of_ok (record_apply _)]
      exact .imported hread hparse

/-- The calls that import the environment of a target, with the sizes for which the reads ask. -/
def importCalls (target : Target) (file : Descriptor) (sizes : List Nat) : List Call :=
  .openFile target.environmentPath :: sizes.map (.read file)

/-- An environment that was read took all calls, and otherwise as many were made as could be. -/
theorem BlockRead.calls {target : Target} {result : Except Failure Bytes} {events : History}
    (h : BlockRead target.environmentPath result events) :
    ∃ file sizes, events.calls <+: importCalls target file sizes ∧
      ∀ block, result = .ok block → events.calls = importCalls target file sizes := by
  have hreads {file : Descriptor} {drained : Except Errno Bytes} {reads : History}
      (hdrained : Drained file (maxBlockLength + 1) drained reads) :
      ∃ sizes, History.calls (.called (.openFile target.environmentPath) (.ok file) :: reads) =
        importCalls target file sizes := by
    obtain ⟨sizes, hsizes⟩ := calls_of_isRead hdrained.isRead
    exact ⟨sizes, by simp [importCalls, hsizes]⟩
  cases h with
  | unopened error => exact ⟨⟨0⟩, [], by simp [importCalls], by simp⟩
  | unreserved file => exact ⟨file, [], by simp [importCalls], by simp⟩
  | unreadable hdrained | unstored hdrained | tooLarge hdrained _ | complete hdrained _ =>
    obtain ⟨sizes, hcalls⟩ := hreads hdrained
    exact ⟨_, sizes, hcalls ▸ List.prefix_rfl, fun _ _ => hcalls⟩

/-- An import that succeeded took all calls, and otherwise as many were made as could be. -/
theorem Import.calls {target : Target} {result : Except Failure Overlay} {events : History}
    (h : Import target result events) :
    ∃ file sizes, events.calls <+: importCalls target file sizes ∧
      ∀ overlay, result = .ok overlay → events.calls = importCalls target file sizes := by
  cases h with
  | unread hread =>
    obtain ⟨file, sizes, hcalls, _⟩ := hread.calls
    exact ⟨file, sizes, hcalls, by simp⟩
  | malformed hread hparse =>
    obtain ⟨file, sizes, hcalls, _⟩ := hread.calls
    exact ⟨file, sizes, hcalls, by simp⟩
  | imported hread hparse =>
    obtain ⟨file, sizes, _, hall⟩ := hread.calls
    exact ⟨file, sizes, by simp [hall _ rfl], fun _ _ => by simp [hall _ rfl]⟩

/-- A failure of an import is about the environment. -/
theorem Import.failure_cases {target : Target} {failure : Failure} {events : History}
    (h : Import target (.error failure) events) :
    (∃ path error, failure = .environmentUnreadable path error) ∨
    (∃ path limit, failure = .environmentTooLarge path limit) ∨
    (∃ text, failure = .malformedVariable text) := by
  cases h with
  | unread hread =>
    cases hread with
    | unopened error => exact Or.inl ⟨_, _, rfl⟩
    | unreserved file => exact Or.inl ⟨_, _, rfl⟩
    | unreadable hdrained => exact Or.inl ⟨_, _, rfl⟩
    | unstored hdrained => exact Or.inl ⟨_, _, rfl⟩
    | tooLarge hdrained hlength => exact Or.inr (Or.inl ⟨_, _, rfl⟩)
  | malformed hread hparse => exact Or.inr (Or.inr ⟨_, rfl⟩)

end Relocation.Environment

namespace Relocation

open Session Environment

/-- Everything that the first phase of a launch can come to: nothing happens unless the environment
is to be imported, and an import that succeeds is recorded. -/
inductive RequestImport (request : Request) : Except Failure Overlay → History → Prop where
  | skipped (hoff : request.importsEnvironment = false) : RequestImport request (.ok .empty) []
  | failed {failure : Failure} {events : History} (hon : request.importsEnvironment = true)
      (himport : Import request.target (.error failure) events) :
      RequestImport request (.error failure) events
  | imported {overlay : Overlay} {events : History} (hon : request.importsEnvironment = true)
      (himport : Import request.target (.ok overlay) events) :
      RequestImport request (.ok overlay)
        (events ++
          (if overlay.isEmpty then [.recorded (.emptyEnvironment request.target)] else []) ++
          [.recorded (.environmentImported overlay.length)])

/-- The first phase of a launch comes to one of the listed outcomes. -/
theorem importEnvironment_requestImport (request : Request) (system : System) (past : History) :
    RequestImport request (importEnvironment request system past).1
      (importEnvironment request system past).2 := by
  rw [importEnvironment]
  cases hflag : request.importsEnvironment with
  | false => exact .skipped hflag
  | true =>
    have himport := importFrom_import request.target system past
    rcases hfrom : importFrom request.target system past with ⟨failure | overlay, events⟩
    · rw [if_pos rfl, bind_of_error hfrom]
      rw [hfrom] at himport
      exact .failed hflag himport
    · rw [if_pos rfl, bind_of_ok hfrom]
      rw [hfrom] at himport
      have hrequest := RequestImport.imported hflag himport
      dsimp only
      cases hempty : overlay.isEmpty with
      | true =>
        rw [if_pos rfl, bind_of_ok (record_apply _), bind_of_ok (record_apply _)]
        simpa [hempty] using hrequest
      | false =>
        rw [if_neg Bool.false_ne_true, bind_of_ok (record_apply _)]
        simpa [hempty] using hrequest

/-- The calls of the first phase of a launch if none of them fails. -/
def Request.environmentCalls (request : Request) (file : Descriptor) (sizes : List Nat) :
    List Call :=
  if request.importsEnvironment then importCalls request.target file sizes else []

/-- A first phase that succeeded took all its calls, and otherwise as many were made as could be. -/
theorem RequestImport.calls {request : Request} {result : Except Failure Overlay}
    {events : History} (h : RequestImport request result events) :
    ∃ file sizes, events.calls <+: request.environmentCalls file sizes ∧
      ∀ overlay, result = .ok overlay → events.calls = request.environmentCalls file sizes := by
  cases h with
  | skipped hoff =>
    have hnone : request.environmentCalls ⟨0⟩ [] = [] := by
      simp [Request.environmentCalls, hoff]
    exact ⟨⟨0⟩, [], by simp [hnone], by simp [hnone]⟩
  | failed hon himport =>
    obtain ⟨file, sizes, hcalls, _⟩ := himport.calls
    exact ⟨file, sizes, by simpa [Request.environmentCalls, hon] using hcalls, by simp⟩
  | @imported overlay events hon himport =>
    obtain ⟨file, sizes, _, hall⟩ := himport.calls
    have hrecord : History.calls
        (if overlay.isEmpty then [.recorded (.emptyEnvironment request.target)] else []) = [] := by
      split <;> rfl
    have hplan : request.environmentCalls file sizes = events.calls := by
      simp [Request.environmentCalls, hon, hall overlay rfl]
    exact ⟨file, sizes, by simp [hplan, hrecord], by simp [hplan, hrecord]⟩

/-- For the environment a file is opened and read. Nothing else is done. -/
theorem Request.mem_environmentCalls {request : Request} {file : Descriptor} {sizes : List Nat}
    {call : Call} (h : call ∈ request.environmentCalls file sizes) :
    call = .openFile request.target.environmentPath ∨ ∃ most, call = .read file most := by
  rw [environmentCalls] at h
  split at h
  · rw [importCalls, List.mem_cons, List.mem_map] at h
    refine h.imp_right ?_
    rintro ⟨most, _, rfl⟩
    exact ⟨most, rfl⟩
  · simp at h

end Relocation
