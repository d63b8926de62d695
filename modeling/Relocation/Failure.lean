import Relocation.Base64.Decoding
import Relocation.Namespace.Kind
import Relocation.Text.Utf8
import Relocation.Wording

/-!
# Failures

Every failure ends a launch. It names the resource that caused it, never the decoded
command, and it has a message and an exit status. An error of the caller's own usage
exits with 1, an encoded command of the wrong length with 254 and anything else with
255.
-/

namespace Relocation

/-- The shell that commands are handed to. -/
def shellPath : String := "/bin/sh"

/-- Why a launch failed. -/
inductive Failure where
  /-- The launcher could not stop itself. -/
  | pause (error : CallError)
  /-- The argument names no process. -/
  | invalidTarget (text : String)
  /-- There is no command, or it is empty. -/
  | missingCommand
  /-- The target's environment could not be read. -/
  | environmentUnreadable (path : Bytes) (error : IoError)
  /-- The target's environment is larger than `limit` bytes. -/
  | environmentTooLarge (path : Bytes) (limit : Nat)
  /-- A record of the target's environment is no variable. -/
  | malformedVariable (text : String)
  /-- The identity of a namespace could not be found. -/
  | namespaceLookup (path : Bytes) (error : IoError)
  /-- The handle of a namespace could not be opened. -/
  | namespaceOpen (path : Bytes) (error : IoError)
  /-- A namespace could not be entered. -/
  | namespaceEntry (kind : Namespace.Kind) (path : Bytes) (error : CallError)
  /-- The encoded command could not be decoded. -/
  | encoding (error : Base64.Error)
  /-- The decoded command holds a zero byte. -/
  | embeddedNul
  /-- There was no memory for the decoded command. -/
  | allocation (size : Nat)
  /-- The shell could not be started. -/
  | spawn (error : IoError)
  deriving DecidableEq

namespace Failure

/-- A path as diagnostics show it. -/
def bracketed (path : Bytes) : String :=
  "[" ++ Utf8.textLossy path ++ "]"

/-- A failure in words. -/
def messageIn (words : Wording) : Failure → String
  | .pause error => "stop process error: " ++ words.call error
  | .invalidTarget text => text ++ " is not a valid process ID"
  | .missingCommand => "cmd args is empty"
  | .environmentUnreadable path error =>
    "cannot read environment of target " ++ bracketed path ++ ": " ++ words.io error
  | .environmentTooLarge path limit =>
    "environment of target " ++ bracketed path ++ " exceeds " ++ Decimal.ofNat limit ++ " bytes"
  | .malformedVariable text => "failed to set environment variable [" ++ text ++ "]"
  | .namespaceLookup path error =>
    "stat namespace file " ++ bracketed path ++ " error: " ++ words.io error
  | .namespaceOpen path error =>
    "open target namespace file " ++ bracketed path ++ " error: " ++ words.io error
  | .namespaceEntry kind path error =>
    "setns(" ++ kind.name ++ ") via " ++ bracketed path ++ " error: " ++ words.call error
  | .encoding (.invalidLength length) =>
    "encoded command length " ++ Decimal.ofNat length ++ " is not a multiple of 4"
  | .encoding (.bufferTooSmall needed capacity) =>
    "decode buffer holds " ++ Decimal.ofNat capacity ++ " bytes, " ++ Decimal.ofNat needed ++
      " required"
  | .encoding (.invalidByte offset byte) =>
    "encoded command has invalid byte 0x" ++ Decimal.hexByte byte ++ " at offset " ++
      Decimal.ofNat offset
  | .encoding (.incompleteBlock symbols) =>
    "encoded command ends with an incomplete block of " ++ Decimal.ofNat symbols ++ " symbols"
  | .embeddedNul => "decoded command contains a NUL byte"
  | .allocation size => "cannot allocate " ++ Decimal.ofNat size ++ " bytes for decoding"
  | .spawn error => "failed to run " ++ shellPath ++ ": " ++ words.io error

/-- The text of the error below a failure, if there is one. -/
def causeIn? (words : Wording) : Failure → Option String
  | .pause error => some (words.call error)
  | .environmentUnreadable _ error => some (words.io error)
  | .namespaceLookup _ error => some (words.io error)
  | .namespaceOpen _ error => some (words.io error)
  | .namespaceEntry _ _ error => some (words.call error)
  | .spawn error => some (words.io error)
  | _ => none

/-- The exit status with which a failure is reported. -/
def exitStatus : Failure → UInt8
  | .invalidTarget _ => 1
  | .missingCommand => 1
  | .encoding (.invalidLength _) => 254
  | _ => 255

end Failure

end Relocation
