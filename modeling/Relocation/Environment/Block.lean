import Relocation.Environment.Overlay
import Relocation.Text.Utf8

/-!
# Environment blocks

The kernel shows the environment with which a process was started as a block of
records, each ended by a zero byte. A record is a key, an equals sign and a value;
the value may hold further equals signs, the key may not be empty. Empty records are
skipped, and a record of any other form makes the whole block unusable.
-/

namespace Relocation.Environment

/-- The byte between a key and its value, `=`. -/
def equalsByte : UInt8 := 61

/-- The key and the value of a record, if it has both. -/
def entry? (record : Bytes) : Option Entry :=
  match record.cut? (· = equalsByte) with
  | some (key, value) => if key.isEmpty then none else some (key, value)
  | none => none

/-- The records of a block that are not empty. -/
def blockRecords (block : Bytes) : List Bytes :=
  (block.splitOn (· = 0)).filter (fun record => !record.isEmpty)

/-- The variables of a block in order, or the text of the first record that is none. -/
def parseBlock (block : Bytes) : Except String Overlay := do
  let records ← (blockRecords block).mapM fun record =>
    match entry? record with
    | some entry => .ok entry
    | none => .error (Utf8.textLossy record)
  return ⟨records⟩

/-- The block that lists entries in order. -/
def renderBlock (entries : List Entry) : Bytes :=
  entries.flatMap fun (key, value) => key ++ equalsByte :: value ++ [0]

end Relocation.Environment
