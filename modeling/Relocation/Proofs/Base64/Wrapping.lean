import Relocation.Proofs.Base64.Endings
import Relocation.Proofs.Base64.RoundTrip

/-!
# Encodings in lines

An encoder may break what it writes into lines. The ends of the lines are blanks, so the
symbols of the text are still those of the encoding, and reading them gives the encoded
bytes. But blanks count towards the length of a text, and the encoding by itself has the
right length already. So a text in lines decodes exactly if the ends of its lines take a
multiple of four bytes.
-/

namespace Relocation.Base64

/-- What stands at the end of a line. -/
inductive LineEnd where
  | lineFeed
  | returnAndFeed
  deriving DecidableEq

/-- The bytes at the end of a line. -/
def LineEnd.bytes : LineEnd → Bytes
  | .lineFeed => [10]
  | .returnAndFeed => [13, 10]

/-- The lines into which a text is broken. All of them have the same number of bytes, but for the
last one, which may have fewer. -/
def lines (width : Nat) : Bytes → List Bytes
  | [] => []
  | byte :: rest => (byte :: rest.take (width - 1)) :: lines width (rest.drop (width - 1))
termination_by text => text.length
decreasing_by
  rw [List.length_drop, List.length_cons]
  omega

/-- Lines written one after the other, each with an end behind it. The last line goes without one
unless it is `ended` as well. -/
def joinLines (lineEnd : LineEnd) (ended : Bool) : List Bytes → Bytes
  | [] => []
  | [line] => if ended then line ++ lineEnd.bytes else line
  | line :: next :: rest => line ++ lineEnd.bytes ++ joinLines lineEnd ended (next :: rest)

/-- A text in lines. -/
def wrap (width : Nat) (lineEnd : LineEnd) (ended : Bool) (text : Bytes) : Bytes :=
  joinLines lineEnd ended (lines width text)

/-- The number of line ends in a text of so many symbols. -/
def lineEnds (width : Nat) (ended : Bool) (symbols : Nat) : Nat :=
  if ended then (symbols + width - 1) / width else (symbols - 1) / width

variable {width : Nat} {text bytes : Bytes}

/-- There are only blanks at the end of a line. -/
@[simp] theorem symbolsOf_bytes (lineEnd : LineEnd) : symbolsOf lineEnd.bytes = [] := by
  cases lineEnd <;> rfl

/-- The lines of a text hold the text. -/
theorem flatten_lines (width : Nat) (text : Bytes) : (lines width text).flatten = text := by
  fun_induction lines width text with
  | case1 => rfl
  | case2 byte rest ih => rw [List.flatten_cons, ih, List.cons_append, List.take_append_drop]

/-- There is one line end more if the last line is ended as well. -/
theorem lineEnds_true (hwidth : 0 < width) (symbols : Nat) :
    lineEnds width true (symbols + 1) = lineEnds width false (symbols + 1) + 1 := by
  have hsplit : symbols + 1 + width - 1 = symbols + width := by omega
  rw [lineEnds, lineEnds, if_pos rfl, if_neg Bool.false_ne_true, hsplit,
    Nat.add_div_right _ hwidth, Nat.add_sub_cancel]

/-- A text in which every line is ended has as many lines as line ends. -/
theorem length_lines (hwidth : 0 < width) (text : Bytes) :
    (lines width text).length = lineEnds width true text.length := by
  fun_induction lines width text with
  | case1 => simp [lineEnds, Nat.div_eq_of_lt (by omega : width - 1 < width)]
  | case2 byte rest ih =>
    -- Behind a line that is not full there is nothing left.
    have hrest : rest.length - (width - 1) + width - 1 = max rest.length (width - 1) := by omega
    rw [List.length_cons, ih, List.length_cons, lineEnds_true hwidth, List.length_drop]
    simp only [lineEnds, if_true, Bool.false_eq_true, if_false, hrest, Nat.add_sub_cancel]
    rcases Nat.le_total (width - 1) rest.length with hlong | hshort
    · rw [Nat.max_eq_left hlong]
    · rw [Nat.max_eq_right hshort, Nat.div_eq_of_lt (by omega), Nat.div_eq_of_lt (by omega)]

/-- Line ends add no symbols. -/
theorem symbolsOf_joinLines (lineEnd : LineEnd) (ended : Bool) (lines : List Bytes) :
    symbolsOf (joinLines lineEnd ended lines) = symbolsOf lines.flatten := by
  fun_induction joinLines lineEnd ended lines with
  | case1 => rfl
  | case2 line hended => simp [symbolsOf_append]
  | case3 line hended => simp
  | case4 line next rest ih =>
    rw [List.flatten_cons, symbolsOf_append, symbolsOf_append, symbolsOf_append, symbolsOf_bytes,
      List.append_nil, ih]

/-- Lines that are written one after the other take the bytes of the lines and of their ends. -/
theorem length_joinLines (lineEnd : LineEnd) (ended : Bool) (lines : List Bytes) :
    (joinLines lineEnd ended lines).length =
      lines.flatten.length +
        (if ended then lines.length else lines.length - 1) * lineEnd.bytes.length := by
  fun_induction joinLines lineEnd ended lines with
  | case1 => simp
  | case2 line hended => simp [hended]
  | case3 line hended => simp [hended]
  | case4 line next rest ih =>
    have hends : (if ended then (line :: next :: rest).length
          else (line :: next :: rest).length - 1) =
        (if ended then (next :: rest).length else (next :: rest).length - 1) + 1 := by
      cases ended <;> rfl
    rw [hends, Nat.succ_mul, List.flatten_cons, List.length_append, List.length_append,
      List.length_append, ih]
    omega

/-- A text in lines has the symbols of the text. -/
theorem symbolsOf_wrap (width : Nat) (lineEnd : LineEnd) (ended : Bool) (text : Bytes) :
    symbolsOf (wrap width lineEnd ended text) = symbolsOf text := by
  rw [wrap, symbolsOf_joinLines, flatten_lines]

/-- A text in lines is longer than the text by its line ends. -/
theorem length_wrap (hwidth : 0 < width) (lineEnd : LineEnd) (ended : Bool) (text : Bytes) :
    (wrap width lineEnd ended text).length =
      text.length + lineEnds width ended text.length * lineEnd.bytes.length := by
  rw [wrap, length_joinLines, flatten_lines, length_lines hwidth]
  cases ended with
  | true => rfl
  | false =>
    cases text with
    | nil => simp [lineEnds, Nat.div_eq_of_lt (by omega : width - 1 < width)]
    | cons byte rest => rw [List.length_cons, lineEnds_true hwidth]; rfl

/-- A text with the symbols of an encoding decodes to the encoded bytes if its length is right. -/
theorem decode_of_symbolsOf_eq_encode (h : symbolsOf text = symbolsOf (encode bytes)) :
    decode text =
      if text.length % 4 = 0 then .ok bytes else .error (.invalidLength text.length) := by
  split
  · next hlength =>
    obtain ⟨finished, hread⟩ := State.read?_encode bytes []
    -- Blanks do not change what is read, so the text is read as the encoding is.
    rw [← State.read?_symbolsOf, ← h, State.read?_symbolsOf] at hread
    rw [decode_of_length hlength, outcome_of_read? hread rfl]
    simp [Outcome.result, Except.map]
  · next hlength => exact decode_of_length_ne hlength

/-- An encoding that is broken into lines decodes to the encoded bytes, given the memory, exactly if
the ends of its lines take a multiple of four bytes. Otherwise it is refused for its length. -/
theorem decodeCommand_wrap (bytes : Bytes) (lineEnd : LineEnd) (ended : Bool) (width : Nat)
    (hwidth : 0 < width) (reserves : Nat → Bool) :
    decodeCommand reserves (wrap width lineEnd ended (encode bytes)) =
      if reserves (capacity (wrap width lineEnd ended (encode bytes)).length) then
        if lineEnds width ended (encode bytes).length * lineEnd.bytes.length % 4 = 0 then .ok bytes
        else .error (.encoding (.invalidLength (wrap width lineEnd ended (encode bytes)).length))
      else .error (.allocation (capacity (wrap width lineEnd ended (encode bytes)).length)) := by
  have hlength : (wrap width lineEnd ended (encode bytes)).length % 4 = 0 ↔
      lineEnds width ended (encode bytes).length * lineEnd.bytes.length % 4 = 0 := by
    rw [length_wrap hwidth, length_encode]
    omega
  rw [decodeCommand, decode_of_symbolsOf_eq_encode (symbolsOf_wrap ..)]
  simp only [hlength]
  split
  · split <;> rfl
  · rfl

/-- The encoding `YWJj` of `abc`, in two lines that both end with a carriage return and a line
feed. -/
theorem decodeCommand_wrap_halves :
    wrap 2 .returnAndFeed true (encode [97, 98, 99]) = [89, 87, 13, 10, 74, 106, 13, 10] ∧
      decodeCommand (fun _ => true) (wrap 2 .returnAndFeed true (encode [97, 98, 99])) =
        .ok [97, 98, 99] :=
  ⟨by decide +kernel,
    decodeCommand_wrap [97, 98, 99] .returnAndFeed true 2 (by decide) fun _ => true⟩

/-- The encoding `YQ==` of `a` in a line with a line feed behind it is refused. So not every
encoding that is broken into lines decodes to the encoded bytes. -/
theorem decodeCommand_line_feed :
    decodeCommand (fun _ => true) (wrap 76 .lineFeed true (encode [97])) =
        .error (.encoding (.invalidLength 5)) ∧
      ¬ ∀ (bytes : Bytes) (width : Nat) (lineEnd : LineEnd) (ended : Bool), bytes ≠ [] →
        0 < width →
        decodeCommand (fun _ => true) (wrap width lineEnd ended (encode bytes)) = .ok bytes := by
  have hrefused : decodeCommand (fun _ => true) (wrap 76 .lineFeed true (encode [97])) =
      .error (.encoding (.invalidLength 5)) := by
    have htext : wrap 76 .lineFeed true (encode [97]) = [89, 81, 61, 61, 10] := by decide +kernel
    rw [htext]
    rfl
  refine ⟨hrefused, fun h => ?_⟩
  have haccepted := h [97] 76 .lineFeed true (by decide) (by decide)
  rw [hrefused] at haccepted
  cases haccepted

end Relocation.Base64
