import Relocation.Namespace.Selection
import Relocation.Text.Utf8

/-!
# The log

Every step of a launch leaves a record. A record has a level, a source, which is the part
of the program that it comes from, and a text. A filter tells which records are written.
-/

namespace Relocation

/-- The weight of a record, the gravest first. -/
inductive Level where
  | error
  | warn
  | info
  | debug
  | trace
  deriving DecidableEq, Repr

namespace Level

/-- All levels, the gravest first. -/
def all : List Level := [.error, .warn, .info, .debug, .trace]

/-- The position of a level among all of them. -/
def rank : Level → Nat
  | .error => 1
  | .warn => 2
  | .info => 3
  | .debug => 4
  | .trace => 5

/-- The name of a level. -/
def name : Level → String
  | .error => "ERROR"
  | .warn => "WARN"
  | .info => "INFO"
  | .debug => "DEBUG"
  | .trace => "TRACE"

end Level

/-- The stages that a launch goes through, in order. -/
inductive Stage where
  | selfPaused
  | environmentImported
  | namespacesJoined
  | commandDecoded
  | executed
  | exited
  deriving DecidableEq, Repr

namespace Stage

/-- All stages, in order. -/
def all : List Stage :=
  [.selfPaused, .environmentImported, .namespacesJoined, .commandDecoded, .executed, .exited]

/-- The name of a stage. -/
def name : Stage → String
  | .selfPaused => "SelfPaused"
  | .environmentImported => "EnvImported"
  | .namespacesJoined => "NamespacesJoined"
  | .commandDecoded => "CommandDecoded"
  | .executed => "Executed"
  | .exited => "Exited"

end Stage

/-- A part of the program that leaves records. -/
inductive Source where
  | program
  | environment
  | namespaces
  | launcher
  deriving DecidableEq, Repr

/-- The name under which filters know a part of the program. -/
def Source.name : Source → String
  | .program => "ns_relocate"
  | .environment => "ns_relocate::environ"
  | .namespaces => "ns_relocate::namespace"
  | .launcher => "ns_relocate::launcher"

/-- What a launch reports about itself. -/
inductive Record where
  /-- The launcher has stopped and was continued. -/
  | paused
  /-- No namespace is selected. -/
  | staying
  /-- Namespaces of a target are selected. -/
  | relocating (selection : Namespace.Selection) (target : Target)
  /-- The target's environment was read. -/
  | environmentRead (bytes vars : Nat) (path : Bytes)
  /-- The target's environment has no variables. -/
  | emptyEnvironment (target : Target)
  /-- The target's environment is imported. -/
  | environmentImported (vars : Nat)
  /-- The launcher is in the target's namespace already. -/
  | alreadyMember (kind : Namespace.Kind) (inode : Nat) (path : Bytes)
  /-- The launcher has entered the target's namespace. -/
  | entered (kind : Namespace.Kind) (inode : Nat) (path : Bytes)
  /-- The launcher lacks the capability to enter namespaces. -/
  | lacksCapability (kind : Namespace.Kind)
  /-- The launcher was refused a namespace although it has the capability. -/
  | refusedDespiteCapability (kind : Namespace.Kind)
  /-- Whether the launcher has the capability could not be found out. -/
  | capabilitiesUnknown (reason : String)
  /-- Every selected namespace was dealt with. -/
  | namespacesJoined
  /-- The command was decoded. -/
  | commandDecoded (bytes : Nat)
  /-- The shell has ended. -/
  | executed (status : WaitStatus)
  /-- The launcher is about to exit. -/
  | exited (code : UInt8)
  deriving DecidableEq

namespace Record

/-- The level of a record. -/
def level : Record → Level
  | .emptyEnvironment _ => .warn
  | .lacksCapability _ => .warn
  | _ => .debug

/-- The part of the program that a record comes from. -/
def source : Record → Source
  | .staying => .program
  | .relocating _ _ => .program
  | .exited _ => .program
  | .environmentRead _ _ _ => .environment
  | .alreadyMember _ _ _ => .namespaces
  | .entered _ _ _ => .namespaces
  | .lacksCapability _ => .namespaces
  | .refusedDespiteCapability _ => .namespaces
  | .capabilitiesUnknown _ => .namespaces
  | _ => .launcher

/-- The stage that a record says was reached, if it says so. -/
def stage? : Record → Option Stage
  | .paused => some .selfPaused
  | .environmentImported _ => some .environmentImported
  | .namespacesJoined => some .namespacesJoined
  | .commandDecoded _ => some .commandDecoded
  | .executed _ => some .executed
  | .exited _ => some .exited
  | _ => none

/-- What is said when a stage is reached. -/
def stageText (stage : Stage) (detail : String) : String :=
  "entered " ++ stage.name ++ detail

/-- A record in words. -/
def textIn (words : Wording) : Record → String
  | .paused => stageText .selfPaused ""
  | .staying => "no namespaces selected, staying in our own"
  | .relocating selection target =>
    "relocating into " ++ selection.textIn words ++ " of " ++ target.text
  | .environmentRead bytes vars path =>
    "read " ++ Decimal.ofNat bytes ++ " bytes, " ++ Decimal.ofNat vars ++
      " variables from " ++ Utf8.textLossy path
  | .emptyEnvironment target => "process " ++ target.text ++ " has an empty environment"
  | .environmentImported vars =>
    stageText .environmentImported (" (" ++ Decimal.ofNat vars ++ " variables)")
  | .alreadyMember kind inode path =>
    "already in " ++ kind.name ++ " namespace " ++ Decimal.ofNat inode ++ " of " ++
      Utf8.textLossy path
  | .entered kind inode path =>
    "joined " ++ kind.name ++ " namespace " ++ Decimal.ofNat inode ++ " via " ++
      Utf8.textLossy path
  | .lacksCapability kind =>
    "CAP_SYS_ADMIN is not in the effective set, needed to join the " ++ kind.name ++ " namespace"
  | .refusedDespiteCapability kind =>
    "setns(" ++ kind.name ++ ") refused despite CAP_SYS_ADMIN"
  | .capabilitiesUnknown reason => "cannot read capabilities: " ++ reason
  | .namespacesJoined => stageText .namespacesJoined ""
  | .commandDecoded bytes => stageText .commandDecoded (" (" ++ Decimal.ofNat bytes ++ " bytes)")
  | .executed status => stageText .executed (" with " ++ words.status status)
  | .exited code => stageText .exited (" with code " ++ Decimal.ofNat code.toNat)

/-- A record as one line of the log. -/
def lineIn (words : Wording) (record : Record) : String :=
  record.level.name ++ ": " ++ record.textIn words

end Record

/-- Which records are written. -/
structure Filter where
  admits : Record → Bool

namespace Filter

/-- Nothing is written. -/
def off : Filter := ⟨fun _ => false⟩

/-- Records of a level and of graver ones are written. -/
def upTo (level : Level) : Filter := ⟨fun record => record.level.rank ≤ level.rank⟩

end Filter

end Relocation
