import Relocation.Machine.Naming
import Relocation.Shell.Pattern

/-!
# Names of files

A pattern of paths is taken apart at its slashes. A part without pattern characters is a
name, and any other part is compared with all names in the directory that the parts
before it lead to. A name that begins with a dot has to be matched by a dot.
-/

namespace Relocation.Shell.Glob

open Machine (Kernel)

/-- Whether a bracket at the start of a text, of which what follows is given, is closed before the
next slash. -/
def closesWithin : Nat → Bytes → Bool
  | 0, _ => false
  | fuel + 1, text =>
    let text := if text.head? = some 92 then text.drop 1 else text
    match text with
    | [] => false
    | byte :: rest =>
      if byte = Machine.slashByte then false
      else if rest.head? = some 93 then true
      else closesWithin fuel rest

/-- Whether a bracket opens a set. -/
def opensSet (rest : Bytes) : Bool :=
  let rest := if rest.head? = some 33 then rest.drop 1 else rest
  closesWithin (rest.length + 1) rest

/-- How a pattern of paths begins: with names, up to a part that is matched, and what follows that
behind its slash. -/
structure Beginning where
  /-- The names, with their slashes. -/
  names : Bytes
  part : Bytes
  rest? : Option Bytes

/-- Look for the first part of a pattern that is matched. What was passed is kept in reverse, the
names apart from the part that was begun. -/
def beginning? : Nat → (isMatched : Bool) → (names part : Bytes) → Bytes → Option Beginning
  | 0, _, _, _, _ => none
  | _, isMatched, names, part, [] =>
    if isMatched then some ⟨names.reverse, part.reverse, none⟩ else none
  | fuel + 1, isMatched, names, part, byte :: rest =>
    if byte = 42 || byte = 63 then beginning? fuel true names (byte :: part) rest
    else if byte = 91 then beginning? fuel (isMatched || opensSet rest) names (byte :: part) rest
    else
      let (escape, byte, rest) : Bytes × UInt8 × Bytes := match rest with
        | next :: after => if byte = 92 then ([92], next, after) else ([], byte, rest)
        | [] => ([], byte, rest)
      if byte ≠ Machine.slashByte then beginning? fuel isMatched names (byte :: escape ++ part) rest
      else if isMatched then some ⟨names.reverse, part.reverse, some rest⟩
      else beginning? fuel false (byte :: escape ++ part ++ names) [] rest

/-- A pattern without its backslashes. -/
def unescaped : Bytes → Bytes
  | 92 :: byte :: rest => byte :: unescaped rest
  | byte :: rest => byte :: unescaped rest
  | [] => []

/-- The names in a directory that a pattern matches. -/
def matchingNames (kernel : Kernel) (process : Nat) (directory part : Bytes) : List Bytes :=
  match kernel.find process (if directory.isEmpty then Machine.dotName else directory) with
  | .error _ => []
  | .ok place =>
    if !kernel.isDirectory place then []
    else
      let pattern := Pattern.ofBytes part
      let first := if part.head? = some 92 then (part.drop 1).head? else part.head?
      let names := Machine.dotName :: Machine.dotDotName :: kernel.namesIn place
      names.filter fun name =>
        (name.head? ≠ some 46 || first = some 46) && Pattern.matchesAll pattern name

/-- The paths that a pattern matches behind a path, which is empty or ends in a slash. -/
def pathsFrom (kernel : Kernel) (process : Nat) : Nat → (before pattern : Bytes) → List Bytes
  | 0, _, _ => []
  | fuel + 1, before, pattern =>
    match beginning? (pattern.length + 1) false [] [] pattern with
    | none =>
      let path := before ++ unescaped pattern
      if before.isEmpty then []
      else match kernel.find process path false with
        | .ok _ => [path]
        | .error _ => []
    | some start =>
      let directory := before ++ unescaped start.names
      (matchingNames kernel process directory start.part).flatMap fun name =>
        match start.rest? with
        | none => [directory ++ name]
        | some rest =>
          pathsFrom kernel process fuel (directory ++ name ++ [Machine.slashByte]) rest

/-- Whether a text holds a byte with a meaning in patterns. -/
def holdsMeta (text : Bytes) : Bool := text.any fun byte => [42, 63, 91].contains byte

/-- The paths that the text of a field matches, in their order. -/
def paths (kernel : Kernel) (process : Nat) (field : List Mark) : List Bytes :=
  if !holdsMeta (Mark.bytes field) then []
  else
    let pattern := Mark.toPattern field
    (pathsFrom kernel process (pattern.length + 1) [] pattern).mergeSort fun a b => decide (a ≤ b)

end Relocation.Shell.Glob
