/-!
# Error numbers of the kernel

A failed system call reports a number. The numbers that matter here have names.
-/

namespace Relocation

/-- The number with which a system call reports its failure. -/
structure Errno where
  number : Int
  deriving DecidableEq, Repr

namespace Errno

/-- The number that stands for an error the kernel's headers do not name. -/
def unknown : Errno := ⟨0⟩

/-- The caller lacks a privilege. -/
def notPermitted : Errno := ⟨1⟩

/-- A name on the path does not exist. -/
def noEntry : Errno := ⟨2⟩

/-- There is no such process. -/
def noProcess : Errno := ⟨3⟩

/-- A signal arrived during the call. -/
def interrupted : Errno := ⟨4⟩

/-- The device failed. -/
def inputOutput : Errno := ⟨5⟩

/-- The device is not there. -/
def noDevice : Errno := ⟨6⟩

/-- An argument or environment entry is too long for a new process. -/
def argumentsTooLong : Errno := ⟨7⟩

/-- The descriptor is not open, or not for this. -/
def badDescriptor : Errno := ⟨9⟩

/-- The permissions of the file forbid the access. -/
def accessDenied : Errno := ⟨13⟩

/-- There is something under the name already. -/
def fileExists : Errno := ⟨17⟩

/-- The places are not on the same volume. -/
def crossDevice : Errno := ⟨18⟩

/-- A name on the path that is not its last is no directory. -/
def notDirectory : Errno := ⟨20⟩

/-- The file is a directory. -/
def isDirectory : Errno := ⟨21⟩

/-- An argument is not valid for the file. -/
def invalidArgument : Errno := ⟨22⟩

/-- The file is no program. -/
def noExecutable : Errno := ⟨8⟩

/-- The file is busy. -/
def busy : Errno := ⟨16⟩

/-- The program in the file is running. -/
def programBusy : Errno := ⟨26⟩

/-- There is no room on the device. -/
def noSpace : Errno := ⟨28⟩

/-- There is nobody at the other end of the pipe. -/
def brokenPipe : Errno := ⟨32⟩

/-- The directory has names in it. -/
def notEmpty : Errno := ⟨39⟩

/-- The process has no free descriptor. -/
def tooManyFiles : Errno := ⟨24⟩

/-- A name, or the whole path, is too long. -/
def nameTooLong : Errno := ⟨36⟩

/-- The path leads through too many symbolic links. -/
def tooManyLinks : Errno := ⟨40⟩

end Errno

end Relocation
