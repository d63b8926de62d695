import Relocation.Shell.Pattern

/-!
# Fields

The text of an expanded word is split into fields only in its regions, which are the parts
that came out of expansions. In a region, blanks among the separators end a field
together with those around them, and any other separator ends a field by itself. A zero
byte keeps positional parameters apart and always ends a field.
-/

namespace Relocation.Shell

/-- A part of an expanded text that can be split. -/
structure Region where
  start : Nat
  stop : Nat
  /-- Whether only zero bytes end fields. -/
  isList : Bool := false
  deriving DecidableEq, Repr

/-- A word as far as it is expanded. -/
structure Expanded where
  marks : Array Mark := #[]
  regions : List Region := []

namespace Expanded

/-- The number of marks. -/
def size (text : Expanded) : Nat := text.marks.size

/-- The bytes of a text. -/
def bytes (text : Expanded) : Bytes := Mark.bytes text.marks.toList

/-- The bytes of a text up to the first zero byte. -/
def string (text : Expanded) : Bytes := text.bytes.takeWhile (· ≠ 0)

/-- The text with marks added. -/
def push (text : Expanded) (marks : List Mark) : Expanded :=
  { text with marks := text.marks ++ marks }

/-- The text with a region that reaches from a place to the end. -/
def record (text : Expanded) (start : Nat) (isList : Bool := false) : Expanded :=
  { text with regions := text.regions ++ [{ start, stop := text.size, isList }] }

/-- The regions without what lies behind a place. -/
def regionsTo (stop : Nat) : List Region → List Region
  | [] => []
  | first :: rest =>
    if stop < first.stop then
      if stop < first.start then [] else [{ first with stop := stop }]
    else first :: (rest.takeWhile fun region => decide (region.start < stop)).map fun region =>
      { region with stop := min region.stop stop }

/-- The text without what was added behind a place. -/
def cut (text : Expanded) (stop : Nat) : Expanded :=
  { marks := text.marks.extract 0 stop, regions := regionsTo stop text.regions }

end Expanded

/-- Where the splitting of a text stands. -/
structure Splitter where
  /-- The fields that are complete, the last one first. -/
  fields : List (Nat × Nat) := []
  /-- Where the current field starts. -/
  start : Nat := 0
  /-- Whether the last field was ended by a blank, to which a separator behind it belongs. -/
  afterBlank : Bool := false
  /-- Whether the last region is a list. -/
  isList : Bool := false
  /-- How many more fields may be ended, if there is a limit. -/
  left? : Option Nat := none
  /-- Where the separators behind the last field begin. -/
  tail? : Option Nat := none

namespace Splitter

/-- The bytes that are blanks if they are separators. Zero bytes count too. -/
def blanks : Bytes := [32, 9, 10, 0]

/-- Go on behind a byte of a region. -/
def step (separators : Bytes) (afterList isList : Bool) (splitter : Splitter) (place : Nat)
    (byte : UInt8) : Splitter :=
  let isSeparator := byte = 0 || (!isList && separators.contains byte)
  let isBlank := isSeparator && blanks.contains byte
  if splitter.left? = some 0 then
    if isBlank then { splitter with tail? := some (splitter.tail?.getD place) }
    else if isSeparator && splitter.afterBlank then { splitter with afterBlank := false }
    else { splitter with tail? := none, afterBlank := false }
  else if splitter.afterBlank then
    let splitter := { splitter with start := if isSeparator then place + 1 else place }
    if isBlank then splitter else { splitter with afterBlank := false }
  else if !isSeparator then splitter
  else
    let endsBlank := isBlank && !(afterList || isList)
    if place = splitter.start && endsBlank then { splitter with start := place + 1 }
    else
      let splitter := { splitter with afterBlank := endsBlank }
      match splitter.left? with
      | some 1 => { splitter with left? := some 0, tail? := some place }
      | left? => { splitter with
          left? := left?.map (· - 1)
          fields := (splitter.start, place) :: splitter.fields
          start := place + 1 }

/-- Go on behind a region. -/
def region (separators : Bytes) (marks : Array Mark) (splitter : Splitter) (region : Region) :
    Splitter :=
  let afterList := splitter.isList
  let splitter := { splitter with isList := region.isList, afterBlank := false }
  (List.range' region.start (region.stop - region.start)).foldl (fun splitter place =>
    match (marks[place]?.getD .quote).byte? with
    | some byte => splitter.step separators afterList region.isList place byte
    | none => splitter) splitter

/-- The marks of a field, which ends at a zero byte if there is one. -/
def field (marks : Array Mark) (start stop : Nat) : List Mark :=
  (marks.extract start stop).toList.takeWhile (· ≠ .plain 0)

end Splitter

/-- The fields of a text. If there is a limit to their number, the last one holds all that is left
but the separators at its end. -/
def Expanded.fields (text : Expanded) (separators : Bytes) (limit? : Option Nat := none) :
    List (List Mark) :=
  let splitter := text.regions.foldl (Splitter.region separators text.marks)
    { left? := limit? }
  let complete := splitter.fields.reverse.map fun (start, stop) =>
    Splitter.field text.marks start stop
  let last := Splitter.field text.marks splitter.start (splitter.tail?.getD text.size)
  if last.isEmpty && !splitter.isList then complete else complete ++ [last]

end Relocation.Shell
