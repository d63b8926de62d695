import Relocation.System

/-!
# Entering a namespace

Two processes share a namespace if the handles under `/proc/<pid>/ns` have the same
inode number. The launcher compares its own handle with the target's and enters the
target's namespace only if they differ, naming the kind so that the kernel checks the
handle. A refusal for lack of privilege is explained in the log.
-/

namespace Relocation.Namespace

/-- How the launcher came to be in a namespace. -/
inductive Membership where
  /-- It was a member already. -/
  | already
  /-- It has entered the namespace. -/
  | entered
  deriving DecidableEq, Repr

/-- The inode number of a namespace's handle. -/
def inode (path : Bytes) : Session Nat := do
  match ← Session.call (.inode path) with
  | .ok number => return number
  | .error error => Session.fail (.namespaceLookup path error)

/-- The record that explains a refusal for lack of privilege: whether the launcher has the
capability, or that this could not be found out. -/
def explanationRecord (kind : Kind) : Except String Bool → Record
  | .ok true => .refusedDespiteCapability kind
  | .ok false => .lacksCapability kind
  | .error reason => .capabilitiesUnknown reason

/-- Explain in the log why the kernel refused a namespace for lack of privilege. -/
def explainRefusal (kind : Kind) : Session Unit := do
  Session.record (explanationRecord kind (← Session.call .holdsCapability))

/-- Make the launcher a member of the target's namespace of a kind. -/
def enter (target : Target) (kind : Kind) : Session Membership := do
  let path := kind.targetPath target
  let ownNumber ← inode kind.ownPath
  let targetNumber ← inode path
  if ownNumber = targetNumber then
    Session.record (.alreadyMember kind targetNumber path)
    return .already
  else
    match ← Session.call (.openFile path) with
    | .error error => Session.fail (.namespaceOpen path error)
    | .ok file =>
      match ← Session.call (.enterNamespace file kind.flag) with
      | .error error =>
        if error = .kernel .notPermitted then explainRefusal kind
        Session.fail (.namespaceEntry kind path error)
      | .ok () =>
        Session.record (.entered kind targetNumber path)
        return .entered

end Relocation.Namespace
