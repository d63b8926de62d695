import Relocation.Bytes

/-!
# Reading bytes as UTF-8 text

Diagnostics show paths and environment records, which need not be UTF-8. The reader
keeps every well-formed character and writes one replacement character for each
maximal run of bytes that begins a character but cannot be continued to one.
-/

namespace Relocation.Utf8

/-- The character written in place of bytes that are not UTF-8. -/
def replacement : Char := '\uFFFD'

/-- Where the reader stands: between characters, or inside one. Inside, the next byte has to lie
in `low..high`, `owed` more bytes have to follow it, and `value` holds the bits read so far. -/
inductive State where
  | between
  | inside (owed : Nat) (low high : UInt8) (value : Nat)
  deriving DecidableEq, Repr

/-- What the first byte of a character writes and where it leaves the reader. A byte that begins
no character is replaced. -/
def first (byte : UInt8) : List Char × State :=
  if byte < 0x80 then ([Char.ofNat byte.toNat], .between)
  else if 0xC2 ≤ byte ∧ byte ≤ 0xDF then ([], .inside 0 0x80 0xBF (byte.toNat - 0xC0))
  else if byte = 0xE0 then ([], .inside 1 0xA0 0xBF 0)
  else if byte = 0xED then ([], .inside 1 0x80 0x9F 0xD)
  else if 0xE1 ≤ byte ∧ byte ≤ 0xEF then ([], .inside 1 0x80 0xBF (byte.toNat - 0xE0))
  else if byte = 0xF0 then ([], .inside 2 0x90 0xBF 0)
  else if byte = 0xF4 then ([], .inside 2 0x80 0x8F 4)
  else if 0xF1 ≤ byte ∧ byte ≤ 0xF3 then ([], .inside 2 0x80 0xBF (byte.toNat - 0xF0))
  else ([replacement], .between)

/-- What one byte writes and where it leaves the reader. A byte that cannot continue the
character it stands in has that character replaced, and is read again as a first byte. -/
def step : State → UInt8 → List Char × State
  | .between, byte => first byte
  | .inside owed low high value, byte =>
    if low ≤ byte ∧ byte ≤ high then
      let value := value * 64 + (byte.toNat - 0x80)
      match owed with
      | 0 => ([Char.ofNat value], .between)
      | owed + 1 => ([], .inside owed 0x80 0xBF value)
    else
      let (written, state) := first byte
      (replacement :: written, state)

/-- What the end of the bytes writes: a character left unfinished is replaced. -/
def State.finish : State → List Char
  | .between => []
  | .inside .. => [replacement]

/-- The characters of a byte string, malformed parts replaced. The fold keeps what was written
so far in reverse. -/
def decodeLossy (bytes : Bytes) : List Char :=
  let (written, state) := bytes.foldl (fun (written, state) byte =>
    let (more, state) := step state byte
    (more.reverse ++ written, state)) ([], State.between)
  written.reverse ++ state.finish

/-- The text of a byte string, malformed parts replaced. -/
def textLossy (bytes : Bytes) : String :=
  String.ofList (decodeLossy bytes)

end Relocation.Utf8
