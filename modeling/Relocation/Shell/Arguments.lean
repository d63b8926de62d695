import Relocation.Shell.Search
import Relocation.Shell.Expansion

/-!
# The words of a command

The first words of a command tell what it is: a function, a builtin or a program. The word
`command` in front of another one makes functions invisible. The words behind are
expanded when that is known, as some builtins take assignments for arguments, in which
nothing is split.
-/

namespace Relocation.Shell

/-- The words of a command as far as they are expanded. -/
structure Arguments where
  words : List Bytes := []
  rest : List Word

namespace Arguments

/-- Expand words until there is one more. It gives whether there is. -/
def more (evaluator : Evaluator) (words : List Bytes) : List Word → Run (Arguments × Bool)
  | [] => return ({ words, rest := [] }, false)
  | word :: rest => do
    let fields ← Expansion.fields evaluator word
    if fields.isEmpty then more evaluator words rest
    else return ({ words := words ++ fields, rest }, true)

/-- The arguments with at least so many words and one more, if there are. It gives whether there
are. -/
def reach (evaluator : Evaluator) (arguments : Arguments) (count : Nat) : Run (Arguments × Bool) :=
  if count < arguments.words.length then return (arguments, true)
  else more evaluator arguments.words arguments.rest

/-- What follows the word `command`. -/
inductive Prefixed where
  /-- The word is a command of its own. -/
  | alone
  /-- Another command behind so many words. -/
  | other (count : Nat) (usesUsualPath : Bool)

/-- Pass the options of `command` behind so many words. -/
def passOptions (evaluator : Evaluator) : Nat → Arguments → Nat → Bool → Run (Arguments × Prefixed)
  | 0, arguments, _, _ => return (arguments, .alone)
  | fuel + 1, arguments, count, usesUsualPath => do
    let (arguments, isThere) ← arguments.reach evaluator count
    if !isThere then return (arguments, .alone)
    match arguments.words[count]?.getD [] with
    | [45, 45] =>
      let (arguments, isThere) ← arguments.reach evaluator (count + 1)
      return (arguments, if isThere then .other (count + 1) usesUsualPath else .alone)
    | 45 :: letter :: letters =>
      if (letter :: letters).all (· = 112) then
        passOptions evaluator fuel arguments (count + 1) true
      else return (arguments, .alone)
    | _ => return (arguments, .other count usesUsualPath)

/-- The builtins whose arguments can be assignments. -/
def declarations : List String := ["export", "readonly", "local"]

/-- What the first words of a command tell. -/
structure Call where
  arguments : Arguments
  /-- The words that were passed. -/
  passed : List Bytes := []
  meaning : Meaning
  /-- Whether the first word is a special builtin, if it is a builtin at all. -/
  isSpecial? : Option Bool := none
  skipsFunctions : Bool := false
  path? : Option Bytes := none
  /-- Whether an argument can be an assignment. -/
  takesAssignments : Bool := false
  isExec : Bool := false

/-- Whether the variables that are set for a command are local to it. -/
def Call.isLocal (call : Call) : Bool :=
  match call.meaning with
  | .builtin => call.isSpecial? = some false
  | _ => true

/-- Find out what the first words tell, passing the word `command` at most so often. -/
def findCall (evaluator : Evaluator) : Nat → Call → Run Call
  | 0, call => return call
  | fuel + 1, call => do
    let name := call.arguments.words.headD []
    let isNamed (text : String) : Bool := Bytes.ofString text = name
    match ← Search.knownMeaning name call.skipsFunctions with
    | .builtin =>
      let call := { call with
        meaning := .builtin
        isSpecial? := some (call.isSpecial?.getD (isSpecialBuiltin name))
        takesAssignments := declarations.any isNamed
        isExec := isNamed "exec" }
      if !isNamed "command" then return call
      else
        let words := call.arguments.rest.length + call.arguments.words.length + 1
        match ← passOptions evaluator words call.arguments 1 false with
        | (arguments, .alone) => return { call with arguments := arguments }
        | (arguments, .other count usesUsualPath) =>
          findCall evaluator fuel { call with
            arguments := { arguments with words := arguments.words.drop count }
            passed := call.passed ++ arguments.words.take count
            skipsFunctions := true
            path? := if usesUsualPath then some Search.usualPath else call.path? }
    | meaning => return { call with meaning := meaning, takesAssignments := false, isExec := false }

/-- Expand the words that are left. -/
def expandRest (evaluator : Evaluator) (takesAssignments : Bool) : List Word → Run (List Bytes)
  | [] => return []
  | word :: rest => do
    let fields ← if takesAssignments && (assignedName? word).isSome then
        do pure [← Expansion.assignment evaluator word]
      else Expansion.fields evaluator word
    return fields ++ (← expandRest evaluator takesAssignments rest)

/-- Expand the words of a command. -/
def expandAll (evaluator : Evaluator) (words : List Word) : Run Call := do
  let (arguments, isThere) ← more evaluator [] words
  if !isThere then return { arguments, meaning := .builtin }
  let call ← findCall evaluator (words.length + arguments.words.length + 1)
    { arguments, meaning := .nothing }
  let rest ← expandRest evaluator call.takesAssignments call.arguments.rest
  return { call with arguments := { words := call.arguments.words ++ rest, rest := [] } }

end Arguments

end Relocation.Shell
