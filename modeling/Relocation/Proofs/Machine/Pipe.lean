import Relocation.Proofs.Machine.Files

/-!
# Pipes

What is written to a pipe is read from it once, in the same order. A write takes as many
bytes as there is room for, all or none of them if they are few, and a read that gives
nothing from a pipe has found its end. So whatever the processes at the two ends of a pipe
do, what was read and what is still in the pipe are together what was written.
-/

namespace Relocation.Machine

namespace Pipe

variable {pipe : Pipe}

/-- The bytes in a pipe that were not read yet. -/
def unread (pipe : Pipe) : Bytes := pipe.bytes.data.toList.drop pipe.start

/-- Whether no more was read from a pipe than was written to it, and it holds no more than it
can. -/
structure Sound (pipe : Pipe) : Prop where
  start_le : pipe.start ≤ pipe.bytes.size
  size_le : pipe.size ≤ pipeCapacity

/-- The size of a pipe is the number of bytes in it. -/
theorem length_unread (pipe : Pipe) : pipe.unread.length = pipe.size := by
  rw [unread, List.length_drop, Kernel.length_toList_data, size]

/-- A new pipe is empty. -/
theorem sound_empty : Sound {} := ⟨Nat.le_refl _, Nat.zero_le _⟩

/-- What is written comes behind what is there. -/
theorem unread_append (h : pipe.Sound) (bytes : Bytes) :
    (pipe.append bytes).unread = pipe.unread ++ bytes := by
  have hstart := h.start_le
  rw [← Kernel.length_toList_data] at hstart
  simp [unread, append, List.drop_append_of_le_length hstart]

/-- A pipe is sound after a write for which there was room. -/
theorem Sound.append (h : pipe.Sound) {bytes : Bytes}
    (hroom : bytes.length ≤ pipeCapacity - pipe.size) : (pipe.append bytes).Sound where
  start_le := by
    have hstart := h.start_le
    simp only [Pipe.append, ByteArray.size_append]
    omega
  size_le := by
    have hsize := h.size_le
    rw [← length_unread, unread_append h, List.length_append, length_unread]
    omega

/-- What is read is no longer there. -/
theorem unread_drop (pipe : Pipe) (count : Nat) :
    (pipe.drop count).unread = pipe.unread.drop count := by
  have hlength := Kernel.length_toList_data pipe.bytes
  rw [drop]
  split
  · next hall =>
    rw [← hlength] at hall
    simp [unread, List.drop_of_length_le hall]
  · split
    · rw [unread, unread, ByteArray.data_extract, Array.toList_extract, List.extract_eq_take_drop,
        ← hlength, ← List.length_drop, List.take_length, List.drop_zero, List.drop_drop]
    · simp [unread]

/-- A pipe is sound after a read. -/
theorem Sound.drop (h : pipe.Sound) (count : Nat) : (pipe.drop count).Sound where
  start_le := by
    rw [Pipe.drop]
    split
    · exact Nat.zero_le _
    · split
      · exact Nat.zero_le _
      · next hleft _ => exact Nat.le_of_not_le hleft
  size_le := by
    have hsize := h.size_le
    rw [← length_unread, unread_drop, List.length_drop, length_unread]
    omega

end Pipe

namespace Kernel

variable {kernel next : Kernel} {number count limit : Nat} {bytes : Bytes} {pipe : Pipe}

/-- A pipe that was changed is found changed. -/
theorem pipes_mapPipe (h : kernel.pipes[number]? = some pipe) (change : Pipe → Pipe) :
    (kernel.mapPipe number change).pipes[number]? = some (change pipe) := by
  simp [mapPipe, Array.getElem?_modify, h]

/-- What a write to a pipe does: there is a reader, and as many bytes are taken as there is room
for, of which there is some. Few bytes are all taken. -/
theorem writePipe_eq_ok (h : kernel.writePipe number bytes = some (.ok count, next)) :
    ∃ pipe, kernel.pipes[number]? = some pipe ∧ pipe.readers ≠ 0 ∧ pipe.size < pipeCapacity ∧
      (bytes.length ≤ pipeUnit → bytes.length ≤ pipeCapacity - pipe.size) ∧
      count = min (pipeCapacity - pipe.size) bytes.length ∧
      next = kernel.mapPipe number (·.append (bytes.take (pipeCapacity - pipe.size))) := by
  rw [writePipe] at h
  split at h
  · cases h
  · next pipe hpipe =>
    dsimp only at h
    split at h
    · cases h
    · next hreaders =>
      split at h
      · cases h
      · next hroom =>
        simp only [Bool.or_eq_true, Bool.and_eq_true, decide_eq_true_eq, not_or, not_and,
          Nat.not_lt] at hroom
        obtain ⟨hcount, rfl⟩ := Prod.mk.inj (Option.some.inj h)
        refine ⟨pipe, hpipe, hreaders, by omega, hroom.2, ?_, rfl⟩
        rw [← Except.ok.inj hcount, List.length_take]

/-- What a read from a pipe does: it gives what comes next, up to the limit, or nothing if the pipe
is empty and has no writer. -/
theorem readPipe_eq_ok (h : kernel.readPipe number limit = some (.ok bytes, next)) :
    ∃ pipe, kernel.pipes[number]? = some pipe ∧ bytes = pipe.unread.take limit ∧
      (pipe.size = 0 ∧ pipe.writers = 0 ∧ next = kernel ∨
        pipe.size ≠ 0 ∧ next = kernel.mapPipe number (·.drop bytes.length)) := by
  rw [readPipe] at h
  split at h
  · cases h
  · next pipe hpipe =>
    split at h
    · next hempty =>
      split at h
      · next hwriters =>
        obtain ⟨hbytes, rfl⟩ := Prod.mk.inj (Option.some.inj h)
        rw [← Pipe.length_unread, List.length_eq_zero_iff] at hempty
        refine ⟨pipe, hpipe, ?_, Or.inl ⟨?_, hwriters, rfl⟩⟩
        · rw [← Except.ok.inj hbytes, hempty, List.take_nil]
        · rw [← Pipe.length_unread, hempty, List.length_nil]
      · cases h
    · next hsome =>
      obtain ⟨hbytes, rfl⟩ := Prod.mk.inj (Option.some.inj h)
      obtain rfl := Except.ok.inj hbytes
      exact ⟨pipe, hpipe, slice_eq .., Or.inr ⟨hsome, rfl⟩⟩

/-- A read that asks for something and gets nothing has found the end: the pipe is empty and nobody
writes to it. -/
theorem eq_end_of_readPipe (h : kernel.readPipe number limit = some (.ok [], next))
    (hlimit : 0 < limit) :
    ∃ pipe, kernel.pipes[number]? = some pipe ∧ pipe.unread = [] ∧ pipe.writers = 0 := by
  obtain ⟨pipe, hpipe, hbytes, ⟨hempty, hwriters, _⟩ | ⟨hsome, _⟩⟩ := readPipe_eq_ok h
  · rw [← Pipe.length_unread, List.length_eq_zero_iff] at hempty
    exact ⟨pipe, hpipe, hempty, hwriters⟩
  · rw [← Pipe.length_unread] at hsome
    rcases List.take_eq_nil_iff.mp hbytes.symm with hzero | hnone
    · exact absurd hzero (Nat.ne_of_gt hlimit)
    · exact absurd (List.length_eq_zero_iff.mpr hnone) hsome

section

variable (hpipe : kernel.pipes[number]? = some pipe) (hsound : pipe.Sound)

include hpipe hsound

/-- What a write takes is put behind what is in the pipe. -/
theorem unread_writePipe (h : kernel.writePipe number bytes = some (.ok count, next)) :
    ∃ after, next.pipes[number]? = some after ∧ after.Sound ∧
      after.unread = pipe.unread ++ bytes.take count := by
  obtain ⟨found, hfound, _, _, _, rfl, rfl⟩ := writePipe_eq_ok h
  obtain rfl := Option.some.inj (hpipe.symm.trans hfound)
  refine ⟨_, pipes_mapPipe hpipe _, hsound.append (List.length_take_le _ _), ?_⟩
  rw [Pipe.unread_append hsound, ← List.take_eq_take_min]

/-- What a read gives is taken from the front of what is in the pipe. -/
theorem unread_readPipe (h : kernel.readPipe number limit = some (.ok bytes, next)) :
    ∃ after, next.pipes[number]? = some after ∧ after.Sound ∧
      pipe.unread = bytes ++ after.unread := by
  obtain ⟨found, hfound, hbytes, hnext⟩ := readPipe_eq_ok h
  obtain rfl := Option.some.inj (hpipe.symm.trans hfound)
  rcases hnext with ⟨hempty, _, rfl⟩ | ⟨_, rfl⟩
  · refine ⟨pipe, hpipe, hsound, ?_⟩
    rw [← Pipe.length_unread, List.length_eq_zero_iff] at hempty
    rw [hbytes, hempty, List.take_nil, List.nil_append]
  · refine ⟨_, pipes_mapPipe hpipe _, hsound.drop _, ?_⟩
    rw [Pipe.unread_drop, hbytes, List.length_take, ← List.drop_eq_drop_min]
    exact (List.take_append_drop limit pipe.unread).symm

end

/-- What happens to a pipe: bytes are written to it and read from it, in any order. -/
inductive Transfers (number : Nat) : Kernel → (written read : Bytes) → Kernel → Prop where
  | nil (kernel : Kernel) : Transfers number kernel [] [] kernel
  | write {kernel next final : Kernel} {bytes written read : Bytes} {count : Nat}
      (hwrite : kernel.writePipe number bytes = some (.ok count, next))
      (hrest : Transfers number next written read final) :
      Transfers number kernel (bytes.take count ++ written) read final
  | read {kernel next final : Kernel} {bytes written read : Bytes} {limit : Nat}
      (hread : kernel.readPipe number limit = some (.ok bytes, next))
      (hrest : Transfers number next written read final) :
      Transfers number kernel written (bytes ++ read) final

/-- What was read from a pipe and what is in it at the end is what was in it at first and what was
written to it, in the same order. -/
theorem Transfers.conserved {final : Kernel} {written read : Bytes}
    (h : Transfers number kernel written read final) (hpipe : kernel.pipes[number]? = some pipe)
    (hsound : pipe.Sound) :
    ∃ last, final.pipes[number]? = some last ∧ last.Sound ∧
      pipe.unread ++ written = read ++ last.unread := by
  -- The soundness of the pipe is carried along, as a write relies on it.
  induction h generalizing pipe with
  | nil => exact ⟨pipe, hpipe, hsound, by simp⟩
  | write hwrite hrest ih =>
    obtain ⟨after, hafter, hstill, hunread⟩ := unread_writePipe hpipe hsound hwrite
    obtain ⟨last, hlast, hfinal, hsame⟩ := ih hafter hstill
    refine ⟨last, hlast, hfinal, ?_⟩
    rw [← List.append_assoc, ← hunread, hsame]
  | read hread hrest ih =>
    obtain ⟨after, hafter, hstill, hunread⟩ := unread_readPipe hpipe hsound hread
    obtain ⟨last, hlast, hfinal, hsame⟩ := ih hafter hstill
    refine ⟨last, hlast, hfinal, ?_⟩
    rw [hunread, List.append_assoc, hsame, List.append_assoc]

/-- What was read from a new pipe is the beginning of what was written to it, and the pipe holds the
rest. -/
theorem Transfers.read_of_new {final : Kernel} {written read : Bytes}
    (h : Transfers kernel.addPipe.1 kernel.addPipe.2 written read final) :
    ∃ last, final.pipes[kernel.addPipe.1]? = some last ∧ last.size ≤ pipeCapacity ∧
      written = read ++ last.unread := by
  have hnew : kernel.addPipe.2.pipes[kernel.addPipe.1]? = some {} := by simp [addPipe]
  obtain ⟨last, hlast, hsound, hsame⟩ := h.conserved hnew Pipe.sound_empty
  exact ⟨last, hlast, hsound.size_le, by simpa [Pipe.unread] using hsame⟩

end Kernel

end Relocation.Machine
