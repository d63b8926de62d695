import Relocation.Base64.Symbol

/-!
# Decoding Base64

Four symbols make a block, and a block makes three bytes less one for each pad. The
decoder reads one byte at a time and writes a block's bytes as soon as the block is
complete, so a failure leaves the bytes of the blocks before it in the buffer. Only
the last two symbols of a block may be pads, and only blanks may follow a padded
block. Blanks may stand anywhere, but they count towards the length of the text,
which has to be a multiple of four.
-/

namespace Relocation.Base64

/-- Why a text cannot be decoded. -/
inductive Error where
  /-- The length of the text is not a multiple of four. -/
  | invalidLength (length : Nat)
  /-- The buffer is smaller than the text may need. -/
  | bufferTooSmall (needed capacity : Nat)
  /-- A byte stands where it may not. -/
  | invalidByte (offset : Nat) (byte : UInt8)
  /-- The text ends inside a block. -/
  | incompleteBlock (symbols : Nat)
  deriving DecidableEq, Repr

/-- The most bytes that an encoded text of a given length can stand for. -/
def capacity (length : Nat) : Nat :=
  length / 4 * 3

/-- Where the decoder stands: the bits, symbols and pads of the current block, whether the block
before it was padded, and the bytes written so far, the last one first. -/
structure State where
  block : UInt32 := 0
  symbols : Nat := 0
  pads : Nat := 0
  finished : Bool := false
  written : Bytes := []
  deriving DecidableEq, Repr

namespace State

/-- Put six bits at the end of the current block, and write the block if it is complete. -/
def push (state : State) (value : UInt8) : State :=
  let block := state.block <<< 6 ||| value.toUInt32
  if state.symbols = 3 then
    let bytes := [(block >>> 16).toUInt8, (block >>> 8).toUInt8, block.toUInt8]
    { finished := decide (0 < state.pads)
      written := (bytes.take (3 - state.pads)).reverse ++ state.written }
  else
    { state with block := block, symbols := state.symbols + 1 }

/-- Read one byte, unless it may not stand here: a pad needs two symbols before it in its block,
and a letter may follow neither a pad nor a padded block. -/
def step? (state : State) (byte : UInt8) : Option State :=
  match Symbol.ofByte byte with
  | .blank => some state
  | .foreign => none
  | .pad => if state.symbols < 2 then none else some ({ state with pads := state.pads + 1 }.push 0)
  | .letter value => if 0 < state.pads ∨ state.finished then none else some (state.push value)

/-- Read bytes up to the first that may not stand where it does, and tell that byte with its
offset, counted from `offset`. -/
def scan (state : State) (offset : Nat) : Bytes → State × Option (Nat × UInt8)
  | [] => (state, none)
  | byte :: rest =>
    match state.step? byte with
    | some next => next.scan (offset + 1) rest
    | none => (state, some (offset, byte))

end State

/-- What decoding a text wrote and why it stopped short, if it did. -/
structure Outcome where
  committed : Bytes
  error? : Option Error
  deriving DecidableEq, Repr

/-- Decode a text whose length is a multiple of four. -/
def outcome (text : Bytes) : Outcome :=
  let (state, refused) := ({} : State).scan 0 text
  { committed := state.written.reverse
    error? :=
      match refused with
      | some (offset, byte) => some (.invalidByte offset byte)
      | none => if state.symbols = 0 then none else some (.incompleteBlock state.symbols) }

/-- Decode a text into a buffer: the number of bytes written, or the error, and the buffer
afterwards. The length of the text and the size of the buffer are checked before anything is
written. -/
def decodeInto (text buffer : Bytes) : Except Error Nat × Bytes :=
  if text.length % 4 ≠ 0 then
    (.error (.invalidLength text.length), buffer)
  else if buffer.length < capacity text.length then
    (.error (.bufferTooSmall (capacity text.length) buffer.length), buffer)
  else
    let outcome := outcome text
    let result := match outcome.error? with
      | some error => .error error
      | none => .ok outcome.committed.length
    (result, outcome.committed ++ buffer.drop outcome.committed.length)

/-- Decode a text into a buffer of its own. -/
def decode (text : Bytes) : Except Error Bytes :=
  match decodeInto text (List.replicate (capacity text.length) 0) with
  | (.ok count, buffer) => .ok (buffer.take count)
  | (.error error, _) => .error error

end Relocation.Base64
