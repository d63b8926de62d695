import Relocation.Log
import Relocation.Text.Regex.Reading

/-!
# Directives of the log

A filter of the log is given by directives and perhaps an expression. A directive sets
the least grave level that is written for the sources whose names begin in some way, and
of those that fit a source the longest counts. The expression has to match the text of
a record.
-/

namespace Relocation

/-- The least grave level that is written, or none if nothing is. -/
structure Threshold where
  level? : Option Level
  deriving DecidableEq, Repr

namespace Threshold

/-- Nothing is written. -/
def off : Threshold := ⟨none⟩

/-- Records of a level and of graver ones are written. -/
def upTo (level : Level) : Threshold := ⟨some level⟩

/-- Whether records of a level are written. -/
def admits (threshold : Threshold) (level : Level) : Bool :=
  match threshold.level? with
  | some least => decide (level.rank ≤ least.rank)
  | none => false

/-- The threshold that a word names, in any case of letters. -/
def ofWord? (word : List Char) : Option Threshold :=
  let name := String.ofList (word.map Char.toUpper)
  if name = "OFF" then some off
  else (Level.all.find? (·.name = name)).map upTo

end Threshold

/-- A threshold for the sources whose names begin in some way, or for those that no other directive
fits. -/
structure Directive where
  start? : Option String
  threshold : Threshold
  deriving DecidableEq, Repr

namespace Directive

/-- How much of a name a directive fixes. -/
def length (directive : Directive) : Nat :=
  match directive.start? with
  | some start => start.utf8ByteSize
  | none => 0

/-- Whether a directive fits a source. -/
def fits (directive : Directive) (source : Source) : Bool :=
  match directive.start? with
  | some start => start.toList.isPrefixOf source.name.toList
  | none => true

/-- The parts of a text between separators. -/
def parts (separator : Char) : List Char → List (List Char)
  | [] => [[]]
  | c :: rest =>
    if c = separator then [] :: parts separator rest
    else match parts separator rest with
      | part :: others => (c :: part) :: others
      | [] => [[c]]

/-- The directive that a text stands for: a level, the start of a name, or both with an equals sign
in between. A name without a level admits everything. -/
def parse? (text : List Char) : Option Directive :=
  match parts '=' text with
  | [word] => match Threshold.ofWord? word with
    | some threshold => some ⟨none, threshold⟩
    | none => some ⟨some (String.ofList word), .upTo .trace⟩
  | [start, level] =>
    let start := String.ofList start
    let level := Blank.trim level
    if level.isEmpty then some ⟨some start, .upTo .trace⟩
    else (Threshold.ofWord? level).map fun threshold => ⟨some start, threshold⟩
  | _ => none

/-- Directives with one more, which takes the place of one for the same names. -/
def insert (directive : Directive) : List Directive → List Directive
  | [] => [directive]
  | other :: rest =>
    if other.start? = directive.start? then directive :: rest
    else other :: insert directive rest

end Directive

/-- What a text says about the records that are written. -/
structure Directives where
  list : List Directive
  /-- What the text of a record has to match. -/
  pattern? : Option Regex
  deriving DecidableEq, Repr

namespace Directives

/-- The longest of the directives that fit a source. Of two that are as long the later one
counts. -/
def directive? (directives : Directives) (source : Source) : Option Directive :=
  (directives.list.filter (·.fits source)).foldl (fun best? directive => match best? with
    | some best => if directive.length < best.length then some best else some directive
    | none => some directive) none

/-- The records that directives admit, with their texts in some wording. -/
def filter (directives : Directives) (words : Wording) : Filter where
  admits record :=
    (directives.directive? record.source).any (·.threshold.admits record.level) &&
      directives.pattern?.all (·.matchesIn (record.textIn words).toList)

/-- The directives that a text stands for: they have commas in between, and perhaps an expression
follows behind a slash. What cannot be read is left out, everything if there are more slashes, and
without a directive errors are admitted. -/
def ofText (text : String) : Directives :=
  let (directives, pattern?) := match Directive.parts '/' text.toList with
    | [directives] => (directives, none)
    | [directives, pattern] => (directives, Regex.parse? (String.ofList pattern))
    | _ => ([], none)
  let texts := (Directive.parts ',' directives).map Blank.trim
  let parsed := (texts.filter (!·.isEmpty)).filterMap Directive.parse?
  let list := parsed.foldl (fun directives directive => directive.insert directives) []
  { list := if list.isEmpty then [⟨none, .upTo .error⟩] else list
    pattern? := pattern? }

end Directives

end Relocation
