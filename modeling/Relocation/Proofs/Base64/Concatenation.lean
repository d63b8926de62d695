import Relocation.Proofs.Base64.Blanks
import Relocation.Proofs.Base64.Hopeless

/-!
# Decoding one text behind another

A text that is accepted leaves nothing of its last block behind: between two blocks the
bits, the symbols and the pads of the decoder are as they were at the beginning. All
that it hands on is the bytes it wrote and whether its last block was padded. So a text
behind one without pads is decoded as if it stood alone, with its offsets moved, and
behind one with pads nothing but blanks can be read.
-/

namespace Relocation.Base64

namespace State

variable {state next final : State} {text : Bytes} {byte : UInt8}

/-- A decoder that has written more bytes before all others, given with the last one first. -/
def behind (state : State) (earlier : Bytes) : State :=
  { state with written := state.written ++ earlier }

/-- A symbol does the same behind bytes that were written before. -/
theorem push_behind (state : State) (earlier : Bytes) (value : UInt8) :
    (state.behind earlier).push value = (state.push value).behind earlier := by
  unfold push behind
  split <;> simp

/-- A byte does the same behind bytes that were written before. -/
theorem step?_behind (state : State) (earlier : Bytes) (byte : UInt8) :
    (state.behind earlier).step? byte = (state.step? byte).map fun next => next.behind earlier := by
  unfold step?
  cases Symbol.ofByte byte with
  | blank => rfl
  | foreign => rfl
  | pad =>
    have hpush := push_behind { state with pads := state.pads + 1 } earlier 0
    by_cases hplace : state.symbols < 2
    · simp [behind, hplace]
    · simpa [behind, hplace] using hpush
  | letter value =>
    have hpush := push_behind state earlier value
    by_cases hclosed : 0 < state.pads ∨ state.finished
    · simp [behind, hclosed]
    · simpa [behind, hclosed] using hpush

/-- The loop does the same behind bytes that were written before, and a refused byte has the
offset that it has behind the bytes that were read before. -/
theorem scan_behind (state : State) (earlier : Bytes) (shift base : Nat) (text : Bytes) :
    (state.behind earlier).scan (shift + base) text =
      ((state.scan base text).1.behind earlier,
        (state.scan base text).2.map fun (offset, byte) => (shift + offset, byte)) := by
  induction text generalizing state base with
  | nil => rfl
  | cons byte rest ih =>
    rw [scan, scan, step?_behind]
    cases state.step? byte with
    | none => rfl
    | some next => exact ih next (base + 1)

/-- Between two blocks nothing is left of the block before, but for its bytes and its being
padded. -/
def Clean (state : State) : Prop :=
  state.symbols = 0 → state.block = 0 ∧ state.pads = 0

/-- A symbol leaves the decoder clean: it begins a new block or stands inside one. -/
theorem clean_push (state : State) (value : UInt8) : (state.push value).Clean := by
  unfold push Clean
  split <;> simp

/-- Every byte that is read keeps the decoder clean. -/
theorem Clean.step? (h : state.Clean) (hstep : state.step? byte = some next) : next.Clean := by
  rcases step?_cases hstep with ⟨_, rfl⟩ | ⟨value, _, _, _, rfl⟩ | ⟨_, _, rfl⟩
  · exact h
  · exact clean_push state value
  · exact clean_push { state with pads := state.pads + 1 } 0

/-- Whatever is read keeps the decoder clean. -/
theorem Clean.read? (h : state.Clean) (hread : state.read? text = some final) : final.Clean := by
  induction text generalizing state with
  | nil =>
    obtain rfl := Option.some.inj hread
    exact h
  | cons byte rest ih =>
    obtain ⟨next, hstep, hrest⟩ := Option.bind_eq_some_iff.mp hread
    exact ih (h.step? hstep) hrest

/-- A pad was read, in the current block or in one before. -/
def HasPad (state : State) : Prop :=
  state.finished = true ∨ 0 < state.pads

/-- A decoder keeps account of the pads that it reads. -/
theorem hasPad_of_step? (hstep : state.step? byte = some next) :
    next.HasPad ↔ state.HasPad ∨ byte = padByte := by
  rcases step?_cases hstep with ⟨hblank, rfl⟩ | ⟨value, hvalue, hpads, hopen, rfl⟩ | ⟨hpad, _, rfl⟩
  · have hne : byte ≠ padByte := by
      rintro rfl
      cases hblank
    simp [hne]
  · have hne := ne_padByte_of_value? hvalue
    have hnone : ¬ state.HasPad := by simp [HasPad, hpads, hopen]
    have hpush : ¬ (state.push value).HasPad := by
      unfold push HasPad
      split <;> simp [hpads, hopen]
    exact iff_of_false hpush (by simp [hnone, hne])
  · refine iff_of_true ?_ (Or.inr hpad)
    unfold push HasPad
    split <;> simp

/-- A text that is read has a pad in it exactly if the decoder has one of it, or had one before. -/
theorem hasPad_of_read? (hread : state.read? text = some final) :
    final.HasPad ↔ state.HasPad ∨ padByte ∈ text := by
  induction text generalizing state with
  | nil =>
    obtain rfl := Option.some.inj hread
    simp
  | cons byte rest ih =>
    obtain ⟨next, hstep, hrest⟩ := Option.bind_eq_some_iff.mp hread
    rw [ih hrest, hasPad_of_step? hstep, List.mem_cons, or_assoc, eq_comm (a := byte)]

/-- A text that is read and ends between two blocks hands on the bytes that it wrote, and whether
it has a pad. -/
theorem eq_of_read?_between (hread : ({} : State).read? text = some final)
    (hbetween : final.symbols = 0) :
    final = { finished := decide (padByte ∈ text), written := final.written } := by
  have hclean : ({} : State).Clean := fun _ => ⟨rfl, rfl⟩
  obtain ⟨hblock, hpads⟩ := hclean.read? hread hbetween
  have hpad : final.finished = true ↔ padByte ∈ text := by
    simpa [HasPad, hpads] using hasPad_of_read? hread
  have hfinished : final.finished = decide (padByte ∈ text) := by
    rw [Bool.eq_iff_iff, hpad, decide_eq_true_iff]
  cases final
  simp_all

/-- Behind a padded block no symbol can be read. -/
theorem step?_finished (written : Bytes) (hbyte : isBlank byte = false) :
    ({ finished := true, written } : State).step? byte = none := by
  cases hstep : ({ finished := true, written } : State).step? byte with
  | none => rfl
  | some next =>
    have hread : ({ finished := true, written } : State).read? [byte] = some next := by
      rw [read?_cons, hstep, Option.bind_some, read?_nil]
    have hnil := eq_nil_of_read?_finished (by simpa using hbyte) hread
    cases hnil

end State

/-- An error of a text as it is reported when a text of some length stands before it. -/
def Error.behind (length : Nat) : Error → Error
  | .invalidByte offset byte => .invalidByte (length + offset) byte
  | error => error

variable {front back decoded : Bytes}

/-- What a text comes to when bytes stand before those that it writes, and its errors are reported
with a text before it. -/
theorem Outcome.result_behind (outcome : Outcome) (decoded : Bytes) (length : Nat) :
    (⟨decoded ++ outcome.committed, outcome.error?.map (Error.behind length)⟩ : Outcome).result =
      (outcome.result.map (decoded.length + ·)).mapError (Error.behind length) := by
  rcases outcome with ⟨committed, _ | error⟩
  · exact congrArg Except.ok List.length_append
  · rfl

/-- A text that decodes is read, writes what it decodes to, and leaves the decoder between two
blocks. -/
theorem read?_of_decode (h : decode front = .ok decoded) :
    ({} : State).read? front =
      some { finished := decide (padByte ∈ front), written := decoded.reverse } := by
  have houtcome := (decode_eq_ok_iff.mp h).2
  obtain ⟨final, hread, hbetween⟩ := outcome_error?_eq_none_iff.mp (by rw [houtcome])
  rw [outcome_of_read? hread hbetween] at houtcome
  obtain rfl : final.written.reverse = decoded := congrArg Outcome.committed houtcome
  rw [hread, List.reverse_reverse]
  exact congrArg some (State.eq_of_read?_between hread hbetween)

/-- Behind a text without pads a text comes to what it comes to alone, after the bytes of the first
one and with its offsets moved. -/
theorem outcome_append_of_no_pad (h : decode front = .ok decoded) (hpad : padByte ∉ front)
    (back : Bytes) :
    outcome (front ++ back) =
      ⟨decoded ++ (outcome back).committed,
        (outcome back).error?.map (Error.behind front.length)⟩ := by
  have hread : ({} : State).read? front = some (({} : State).behind decoded.reverse) := by
    simpa [hpad, State.behind] using read?_of_decode h
  have hscan := State.scan_append_of_read? hread 0 back
  rw [Nat.zero_add, ← Nat.add_zero front.length, State.scan_behind] at hscan
  rw [outcome, hscan, outcome]
  rcases ({} : State).scan 0 back with ⟨final, _ | ⟨offset, byte⟩⟩
  · by_cases hbetween : final.symbols = 0 <;> simp [State.behind, Error.behind, hbetween]
  · simp [State.behind, Error.behind]

/-- Blanks behind a text are read without effect. -/
theorem read?_append_blanks (h : decode front = .ok decoded)
    (hblanks : ∀ byte ∈ back, isBlank byte = true) :
    ({} : State).read? (front ++ back) =
      some { finished := decide (padByte ∈ front), written := decoded.reverse } := by
  have hsymbols : symbolsOf back = [] := by simpa [symbolsOf] using hblanks
  rw [State.read?_append, read?_of_decode h, Option.bind_some, ← State.read?_symbolsOf, hsymbols,
    State.read?_nil]

/-- A text with blanks behind it comes to what it comes to alone. -/
theorem outcome_append_blanks (h : decode front = .ok decoded)
    (hblanks : ∀ byte ∈ back, isBlank byte = true) :
    outcome (front ++ back) = ⟨decoded, none⟩ := by
  rw [outcome_of_read? (read?_append_blanks h hblanks) rfl, List.reverse_reverse]

/-- Behind a text with pads the first byte that is no blank is refused, whatever it is. -/
theorem outcome_append_of_pad {blanks rest : Bytes} {byte : UInt8}
    (h : decode front = .ok decoded) (hpad : padByte ∈ front)
    (hblanks : ∀ byte ∈ blanks, isBlank byte = true) (hbyte : isBlank byte = false) :
    outcome (front ++ (blanks ++ byte :: rest)) =
      ⟨decoded, some (.invalidByte (front.length + blanks.length) byte)⟩ := by
  have hread := read?_append_blanks h hblanks
  rw [decide_eq_true hpad] at hread
  have hscan := State.scan_append_of_read? hread 0 (byte :: rest)
  rw [List.append_assoc, State.scan, State.step?_finished _ hbyte] at hscan
  rw [outcome, hscan]
  simp

/-- A text is blank, or it has a first byte that is no blank. -/
theorem blank_or_exists_symbol (text : Bytes) :
    (∀ byte ∈ text, isBlank byte = true) ∨
      ∃ blanks byte rest, text = blanks ++ byte :: rest ∧
        (∀ blank ∈ blanks, isBlank blank = true) ∧ isBlank byte = false := by
  induction text with
  | nil => exact Or.inl (by simp)
  | cons head tail ih =>
    cases hhead : isBlank head with
    | false => exact Or.inr ⟨[], head, tail, rfl, by simp, hhead⟩
    | true =>
      rcases ih with htail | ⟨blanks, byte, rest, rfl, hblanks, hbyte⟩
      · exact Or.inl (by simpa [hhead] using htail)
      · exact Or.inr ⟨head :: blanks, byte, rest, rfl, by simpa [hhead] using hblanks, hbyte⟩

/-- Behind a text with pads nothing is committed, and there is no error exactly if there are blanks
only. -/
theorem outcome_append_of_pad_cases (h : decode front = .ok decoded) (hpad : padByte ∈ front)
    (back : Bytes) :
    (outcome (front ++ back)).committed = decoded ∧
      ((outcome (front ++ back)).error? = none ↔ ∀ byte ∈ back, isBlank byte = true) := by
  rcases blank_or_exists_symbol back with hblank | ⟨blanks, byte, rest, rfl, hblanks, hbyte⟩
  · rw [outcome_append_blanks h hblank]
    exact ⟨rfl, iff_of_true rfl hblank⟩
  · rw [outcome_append_of_pad h hpad hblanks hbyte]
    refine ⟨rfl, iff_of_false (by simp) fun hblank => ?_⟩
    simp [hblank byte (by simp)] at hbyte

/-- Decoding splits where one text that decodes ends. If it has no pad, the text behind it is
decoded as if it stood alone: both succeed or fail together, the bytes of the first text come before
those that the other one commits, and an offset counts the first text too. If it has a pad, the
whole decodes exactly if nothing but blanks stands behind it, and otherwise is refused for the first
byte there that is no blank. Whatever stands there, the bytes of the first text are committed and
no others. -/
theorem decodeInto_append (front back decoded : Bytes) (hfront : decode front = .ok decoded)
    (hlength : back.length % 4 = 0) :
    (padByte ∉ front →
      decode (front ++ back) =
        ((decode back).map (decoded ++ ·)).mapError (Error.behind front.length) ∧
      ∃ committed : Bytes, ∀ buffer spare : Bytes,
        capacity (front ++ back).length ≤ buffer.length → capacity back.length ≤ spare.length →
        (decodeInto back spare).2 = committed ++ spare.drop committed.length ∧
        decodeInto (front ++ back) buffer =
          (((decodeInto back spare).1.map (decoded.length + ·)).mapError
              (Error.behind front.length),
            decoded ++ committed ++ buffer.drop (decoded.length + committed.length))) ∧
    (padByte ∈ front → ∀ buffer : Bytes, capacity (front ++ back).length ≤ buffer.length →
      (decodeInto (front ++ back) buffer).2 = decoded ++ buffer.drop decoded.length ∧
      ((∃ count, (decodeInto (front ++ back) buffer).1 = .ok count) ↔
        ∀ byte ∈ back, isBlank byte = true) ∧
      (∀ count, (decodeInto (front ++ back) buffer).1 = .ok count → count = decoded.length) ∧
      ∀ blanks byte rest, back = blanks ++ byte :: rest →
        (∀ blank ∈ blanks, isBlank blank = true) → isBlank byte = false →
        (decodeInto (front ++ back) buffer).1 =
          .error (.invalidByte (front.length + blanks.length) byte)) := by
  have hwhole : (front ++ back).length % 4 = 0 := by
    have hfrontLength := (decode_eq_ok_iff.mp hfront).1
    rw [List.length_append]
    omega
  refine ⟨fun hpad => ?_, fun hpad buffer hroom => ?_⟩
  · have houtcome := outcome_append_of_no_pad hfront hpad back
    refine ⟨?_, (outcome back).committed, fun buffer spare hroom hspare => ⟨?_, ?_⟩⟩
    · rw [decode_of_length hwhole, decode_of_length hlength, houtcome]
      rcases outcome back with ⟨committed, _ | error⟩ <;> rfl
    · rw [decodeInto_of_room hlength hspare]
    · rw [decodeInto_of_room hwhole hroom, decodeInto_of_room hlength hspare, houtcome,
        List.length_append, Outcome.result_behind]
  · obtain ⟨hcommitted, herror⟩ := outcome_append_of_pad_cases hfront hpad back
    rw [decodeInto_of_room hwhole hroom]
    refine ⟨by rw [hcommitted], ?_, fun count hcount => ?_, ?_⟩
    · simp [herror]
    · rw [← (Outcome.result_eq_ok_iff.mp hcount).2, hcommitted]
    · rintro blanks byte rest rfl hblanks hbyte
      rw [outcome_append_of_pad hfront hpad hblanks hbyte]
      rfl

/-- The text `TW=u`, which is refused for its last byte, behind a text without pads, where the byte
stands four bytes further on, and the text `=TWu` with three blanks before it behind a text with
pads, where its first byte is refused. -/
theorem decodeInto_append_refused :
    decode (Bytes.ofString "TWFu") = .ok [77, 97, 110] ∧
      padByte ∉ Bytes.ofString "TWFu" ∧
      decode (Bytes.ofString "TW=u") = .error (.invalidByte 3 117) ∧
      decode (Bytes.ofString "TWFu" ++ Bytes.ofString "TW=u") = .error (.invalidByte 7 117) ∧
      decode (Bytes.ofString "TQ==") = .ok [77] ∧
      padByte ∈ Bytes.ofString "TQ==" ∧
      (decodeInto (Bytes.ofString "TQ==" ++ Bytes.ofString "\n\r =TWu ")
          (List.replicate 9 0xaa)).1 =
        .error (.invalidByte 7 61) := by
  have hopen : decode (Bytes.ofString "TWFu") = .ok [77, 97, 110] := rfl
  have hback : decode (Bytes.ofString "TW=u") = .error (.invalidByte 3 117) := rfl
  have hpadded : decode (Bytes.ofString "TQ==") = .ok [77] := rfl
  refine ⟨hopen, by decide, hback, ?_, hpadded, by decide, ?_⟩
  · have hsplit := (decodeInto_append _ (Bytes.ofString "TW=u") _ hopen rfl).1 (by decide)
    rw [hsplit.1, hback]
    rfl
  · have hsplit := (decodeInto_append _ (Bytes.ofString "\n\r =TWu ") _ hpadded rfl).2 (by decide)
      (List.replicate 9 0xaa) (by decide)
    exact hsplit.2.2.2 [10, 13, 32] 61 [84, 87, 117, 32] rfl (by simp [isBlank]) rfl

end Relocation.Base64
