/-!
# Regular expressions

A regular expression matches a part of a text. A match is found by following the places
that can be reached from its start: every expression takes a place in the text to the
places at which a match of it can end.
-/

namespace Relocation

/-- A class of characters. -/
inductive CharClass where
  /-- The characters from one to another. -/
  | range (low high : Char)
  | either (first second : CharClass)
  | both (first second : CharClass)
  | complement (other : CharClass)
  /-- The characters that differ from one of a class at most in case. -/
  | folded (other : CharClass)
  deriving DecidableEq, Repr

namespace CharClass

/-- A letter in the other case. -/
def otherCase (c : Char) : Char :=
  if c.isUpper then c.toLower else c.toUpper

/-- Whether a character belongs to a class. -/
def contains : CharClass → Char → Bool
  | .range low high, c => decide (low ≤ c) && decide (c ≤ high)
  | .either first second, c => first.contains c || second.contains c
  | .both first second, c => first.contains c && second.contains c
  | .complement other, c => !other.contains c
  | .folded other, c => other.contains c || other.contains (otherCase c)

/-- The class of one character. -/
def one (c : Char) : CharClass := .range c c

/-- The class of no character. -/
def none : CharClass := .range 'b' 'a'

/-- The class of every character. -/
def any : CharClass := .complement none

/-- The characters of some ranges. -/
def ofRanges (ranges : List (Char × Char)) : CharClass :=
  ranges.foldr (fun (low, high) others => .either (.range low high) others) none

/-- The decimal digits. -/
def digit : CharClass := .range '0' '9'

/-- The letters of ASCII. -/
def letter : CharClass := ofRanges [('a', 'z'), ('A', 'Z')]

/-- The characters of words: letters, digits and the underscore. -/
def word : CharClass := ofRanges [('a', 'z'), ('A', 'Z'), ('0', '9'), ('_', '_')]

/-- The blank characters of ASCII. -/
def space : CharClass := ofRanges [('\t', '\r'), (' ', ' ')]

/-- The visible characters of ASCII that are neither letters nor digits. -/
def punctuation : CharClass := ofRanges [('!', '/'), (':', '@'), ('[', '\x60'), ('\x7b', '~')]

/-- The classes of ASCII that have names. -/
def named : List (String × CharClass) :=
  [("alnum", .either letter digit), ("alpha", letter), ("ascii", .range '\x00' '\x7f'),
    ("blank", ofRanges [('\t', '\t'), (' ', ' ')]),
    ("cntrl", ofRanges [('\x00', '\x1f'), ('\x7f', '\x7f')]), ("digit", digit),
    ("graph", .range '!' '~'), ("lower", .range 'a' 'z'), ("print", .range ' ' '~'),
    ("punct", punctuation), ("space", space), ("upper", .range 'A' 'Z'), ("word", word),
    ("xdigit", ofRanges [('0', '9'), ('a', 'f'), ('A', 'F')])]

end CharClass

/-- A condition on the place between two characters. -/
inductive Boundary where
  | textStart
  | textEnd
  /-- The start of a line, where lines end with any of some characters. -/
  | lineStart (ends : List Char)
  | lineEnd (ends : List Char)
  | wordEdge
  | noWordEdge
  | wordStart
  | wordEnd
  /-- A place that no character of a word precedes. -/
  | noWordBefore
  /-- A place that no character of a word follows. -/
  | noWordAfter
  deriving DecidableEq, Repr

/-- A regular expression. -/
inductive Regex where
  | empty
  | one (set : CharClass)
  | at (boundary : Boundary)
  | sequence (first second : Regex)
  | either (first second : Regex)
  /-- A number of matches one after the other, with a largest number if one is given. -/
  | repeated (body : Regex) (least : Nat) (most? : Option Nat)
  /-- A part whose match is kept under a number. -/
  | kept (number : Nat) (body : Regex)
  /-- The text that was kept under a number. -/
  | recall (number : Nat)
  deriving DecidableEq, Repr

namespace Regex

/-- A place in a text: the character before it, the text behind it, how many characters are before
it, and the texts kept so far. -/
structure Place where
  before? : Option Char := none
  rest : List Char
  position : Nat := 0
  kept : List (Nat × List Char) := []

/-- The place behind so many characters. -/
def Place.skip (place : Place) (count : Nat) : Place :=
  match place.rest.take count with
  | [] => place
  | skipped => { place with
      before? := skipped.getLast?
      rest := place.rest.drop count
      position := place.position + skipped.length }

/-- Whether a place satisfies a condition. -/
def Boundary.holdsAt (boundary : Boundary) (place : Place) : Bool :=
  let isWord (c? : Option Char) : Bool := c?.any CharClass.word.contains
  let before := isWord place.before?
  let behind := isWord place.rest.head?
  match boundary with
  | .textStart => place.before?.isNone
  | .textEnd => place.rest.isEmpty
  | .lineStart ends => place.before?.all fun c =>
      ends.contains c && !(c = '\r' && place.rest.head? = some '\n' && ends.contains '\n')
  | .lineEnd ends => place.rest.head?.all fun c =>
      ends.contains c && !(c = '\n' && place.before? = some '\r' && ends.contains '\r')
  | .wordEdge => before != behind
  | .noWordEdge => before == behind
  | .wordStart => !before && behind
  | .wordEnd => before && !behind
  | .noWordBefore => !before
  | .noWordAfter => !behind

/-- Places without those whose position occurs before. -/
def distinct (places : List Place) : List Place :=
  (places.foldl (fun (found, seen) place =>
    if seen.contains place.position then (found, seen)
    else (place :: found, place.position :: seen)) (([] : List Place), ([] : List Nat))).1.reverse

/-- The places that are reached from others by steps, of which there are at least `least` more to be
made. Steps are made as long as they lead to places that were not reached before, and at most
`fuel` times. -/
def repeatStep (step : Place → List Place) : (fuel least : Nat) → (reached current : List Place) →
    List Place
  | 0, _, reached, current => reached ++ current
  | fuel + 1, 0, reached, current =>
    let seen := reached ++ current
    let isNew (place : Place) : Bool := seen.all fun other => other.position ≠ place.position
    match distinct ((current.flatMap step).filter isNew) with
    | [] => seen
    | next => repeatStep step fuel 0 seen next
  | fuel + 1, least + 1, reached, current =>
    match distinct (current.flatMap step) with
    | [] => reached
    | next => repeatStep step fuel least reached next

/-- The places at which a match that starts at a place can end. -/
def ends : Regex → Place → List Place
  | .empty, place => [place]
  | .one set, place => if place.rest.head?.any set.contains then [place.skip 1] else []
  | .at boundary, place => if Boundary.holdsAt boundary place then [place] else []
  | .sequence first second, place => distinct ((first.ends place).flatMap second.ends)
  | .either first second, place => distinct (first.ends place ++ second.ends place)
  | .repeated body least most?, place =>
    let fuel := match most? with
      | some most => most
      | none => least + place.rest.length + 1
    if fuel < least then [] else repeatStep body.ends fuel least [] [place]
  | .kept number body, place => (body.ends place).map fun behind =>
    let text := place.rest.take (behind.position - place.position)
    { behind with kept := (number, text) :: behind.kept.filter (·.1 ≠ number) }
  | .recall number, place =>
    match place.kept.lookup number with
    | some text => if text.isPrefixOf place.rest then [place.skip text.length] else []
    | none => []

/-- The longest match that starts at a place, by the place at which it ends. -/
def longest? (regex : Regex) (place : Place) : Option Place :=
  (regex.ends place).foldl (fun best? behind => match best? with
    | some best => if best.position < behind.position then some behind else some best
    | none => some behind) none

/-- The first place from which on there is a match, and the end of the longest one from there. -/
def search? (regex : Regex) : Nat → Place → Option (Place × Place)
  | 0, place => (regex.longest? place).map fun behind => (place, behind)
  | fuel + 1, place =>
    match regex.longest? place with
    | some behind => some (place, behind)
    | none => if place.rest.isEmpty then none else search? regex fuel (place.skip 1)

/-- Whether there is a match anywhere in a text. -/
def matchesIn (regex : Regex) (text : List Char) : Bool :=
  (regex.search? text.length { rest := text }).isSome

/-- Expressions one after the other. -/
def all (parts : List Regex) : Regex :=
  parts.foldr (fun part rest => match rest with
    | .empty => part
    | rest => .sequence part rest) .empty

end Regex

end Relocation
