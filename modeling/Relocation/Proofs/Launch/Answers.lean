import Relocation.Launch
import Relocation.Proofs.Session

/-!
# The answers in a launch

A launch is made of calls and records that are joined. So every answer in its history
is the one that the system gave at that moment, knowing everything that happened
before.
-/

namespace Relocation

open Session

namespace Namespace

/-- The answers of looking up an inode number are those of the system. -/
theorem faithful_inode (path : Bytes) : Faithful (inode path) := by
  refine (faithful_call _).bind fun reply => ?_
  cases reply with
  | ok number => exact faithful_pure number
  | error error => exact faithful_fail _

/-- The answers of explaining a refusal are those of the system. -/
theorem faithful_explainRefusal (kind : Kind) : Faithful (explainRefusal kind) :=
  (faithful_call .holdsCapability).bind fun _ => faithful_record _

/-- The answers of entering a namespace are those of the system. -/
theorem faithful_enter (target : Target) (kind : Kind) : Faithful (enter target kind) := by
  refine (faithful_inode _).bind fun own => (faithful_inode _).bind fun theirs => ?_
  split
  · exact (faithful_record _).bind fun _ => faithful_pure _
  · refine (faithful_call _).bind fun opened => ?_
    cases opened with
    | error error => exact faithful_fail _
    | ok file =>
      refine (faithful_call _).bind fun entered => ?_
      cases entered with
      | ok => exact (faithful_record _).bind fun _ => faithful_pure _
      | error error =>
        dsimp only
        split
        · exact (faithful_explainRefusal kind).bind fun _ => faithful_fail _
        · exact faithful_fail _

end Namespace

namespace Environment

/-- The answers of reading a file up to a limit are those of the system. -/
theorem faithful_readUpTo (file : Descriptor) (limit : Nat) : Faithful (readUpTo file limit) := by
  induction limit using Nat.strongRecOn with
  | ind limit ih =>
    rw [readUpTo]
    split
    · exact faithful_pure _
    · refine (faithful_call _).bind fun reading => ?_
      split
      · exact faithful_pure _
      · exact faithful_pure _
      · next bytes hbytes _ _ =>
        have hpositive := List.length_pos_iff.mpr hbytes
        exact (ih (limit - bytes.length) (by omega)).bind fun rest => faithful_pure _

/-- The answers of reading an environment block are those of the system. -/
theorem faithful_readBlock (path : Bytes) : Faithful (readBlock path) := by
  refine (faithful_call _).bind fun opened => ?_
  cases opened with
  | error error => exact faithful_fail _
  | ok file =>
    refine faithful_reserves.bind fun reserves => ?_
    split
    · refine (faithful_readUpTo _ _).bind fun result => ?_
      split
      · exact faithful_fail _
      · exact faithful_ofExcept _
    · exact faithful_fail _

/-- The answers of importing an environment are those of the system. -/
theorem faithful_importFrom (target : Target) : Faithful (importFrom target) := by
  refine (faithful_readBlock _).bind fun block => ?_
  split
  · exact faithful_fail _
  · exact (faithful_record _).bind fun _ => faithful_pure _

end Environment

/-- The answers of the import for a request are those of the system. -/
theorem faithful_importEnvironment (request : Request) : Faithful (importEnvironment request) := by
  rw [importEnvironment]
  split
  · refine (Environment.faithful_importFrom _).bind fun overlay => ?_
    have hrest : Faithful (do record (.environmentImported overlay.length); return overlay) :=
      (faithful_record _).bind fun _ => faithful_pure overlay
    dsimp only
    split
    · exact (faithful_record _).bind fun _ => hrest
    · exact hrest
  · exact faithful_pure _

/-- The answers of entering several namespaces are those of the system. -/
theorem faithful_enterAll (target : Target) (kinds : List Namespace.Kind) :
    Faithful (enterAll target kinds) := by
  induction kinds with
  | nil => exact faithful_pure ()
  | cons kind rest ih => exact (Namespace.faithful_enter target kind).bind fun _ => ih

/-- Decoding a command makes no call. -/
theorem faithful_commandOf (request : Request) : Faithful (commandOf request) := by
  refine faithful_reserves.bind fun reserves => (faithful_ofExcept _).bind fun command => ?_
  split
  · exact faithful_fail _
  · exact faithful_pure _

/-- The answer of the shell is that of the system. -/
theorem faithful_execute (command : Bytes) (overlay : Environment.Overlay) :
    Faithful (execute command overlay) := by
  refine faithful_environment.bind fun inherited => (faithful_call _).bind fun reply => ?_
  cases reply with
  | ok status => exact faithful_pure status
  | error error => exact faithful_fail _

/-- The answers of a launch are those of the system. -/
theorem faithful_launch (request : Request) : Faithful (launch request) :=
  (faithful_importEnvironment request).bind fun overlay =>
    (faithful_enterAll _ _).bind fun _ =>
      (faithful_record _).bind fun _ =>
        (faithful_commandOf request).bind fun command =>
          (faithful_record _).bind fun _ =>
            (faithful_execute command overlay).bind fun status =>
              (faithful_record _).bind fun _ => faithful_pure status

end Relocation
