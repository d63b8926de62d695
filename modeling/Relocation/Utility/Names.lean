import Relocation.Utility.Options

/-!
# Utilities for names

The programs that take paths apart, and tell what the system, its user and its
directories are called.
-/

namespace Relocation.Utility

open Machine (Kernel Process Program)

/-! ### Paths -/

/-- A path without the slashes at its end. -/
def withoutSlashes (path : Bytes) : Bytes :=
  (path.reverse.dropWhile (· = Machine.slashByte)).reverse

/-- The last name of a path. -/
def lastName (path : Bytes) : Bytes :=
  match ((withoutSlashes path).splitOn (· = Machine.slashByte)).getLast? with
  | some [] => if path.isEmpty then [] else [Machine.slashByte]
  | some name => name
  | none => path

/-- A name without an ending, unless it is nothing else. -/
def withoutEnding (ending name : Bytes) : Bytes :=
  if name ≠ ending && ending.isSuffixOf name then name.take (name.length - ending.length) else name

/-- A path without its last name. -/
def parentPath (path : Bytes) : Bytes :=
  let isSlash (byte : UInt8) : Bool := byte = Machine.slashByte
  let before := (withoutSlashes path).reverse.dropWhile fun byte => !isSlash byte
  let parent := (before.dropWhile isSlash).reverse
  if !parent.isEmpty then parent
  else if path.head? = some Machine.slashByte then [Machine.slashByte]
  else [46]

/-- What ends a line of output, or a name after the option for that. -/
def lineEnd (options : List Given) : Bytes := if has 'z' options then [0] else [10]

/-- Write the last names of paths, without an ending. -/
def basename : Work := fun task => do
  let (options, operands) ← task.read {
    letters := "as:z", stopsEarly := true,
    names := [("multiple", 'a'), ("suffix", 's'), ("zero", 'z')] }
  let ending? := argumentOf? 's' options
  let isMultiple := has 'a' options || ending?.isSome
  match operands with
  | [] => task.misuse (Bytes.ofString "missing operand")
  | path :: rest =>
    if isMultiple then
      for path in operands do
        task.put (withoutEnding (ending?.getD []) (lastName path) ++ lineEnd options)
    else
      match rest with
      | _ :: extra :: _ => task.misuse (Bytes.ofString "extra operand " ++ quoted extra)
      | _ => task.put (withoutEnding (rest.headD []) (lastName path) ++ lineEnd options)
    return 0

/-- Write paths without their last names. -/
def dirname : Work := fun task => do
  let (options, operands) ← task.read { letters := "z", names := [("zero", 'z')] }
  if operands.isEmpty then task.misuse (Bytes.ofString "missing operand")
  for path in operands do
    task.put (parentPath path ++ lineEnd options)
  return 0

/-! ### Names of the system -/

/-- The name of the machine in the namespace of the process. -/
def hostnameOf : Program Bytes :=
  Program.look fun process kernel => ((kernel.process? process).map (·.hostname)).getD []

/-- The name of the kind of processor. -/
def processorName : String := "x86_64"

/-- The version of the system. -/
def systemRelease : String := "6.8.0"

/-- The parts of the name of the system, by the letters that ask for them. -/
def systemParts (hostname : Bytes) : List (Char × Bytes) :=
  [('s', Bytes.ofString "Linux"), ('n', hostname), ('r', Bytes.ofString systemRelease),
    ('v', Bytes.ofString "#1 SMP"), ('m', Bytes.ofString processorName),
    ('p', Bytes.ofString processorName), ('i', Bytes.ofString processorName),
    ('o', Bytes.ofString "GNU/Linux")]

/-- Write the name of the system. -/
def uname : Work := fun task => do
  let (options, operands) ← task.read {
    letters := "asnrvmpio",
    names := [("all", 'a'), ("kernel-name", 's'), ("nodename", 'n'), ("kernel-release", 'r'),
      ("kernel-version", 'v'), ("machine", 'm'), ("processor", 'p'), ("hardware-platform", 'i'),
      ("operating-system", 'o')] }
  match operands with
  | extra :: _ => task.misuse (Bytes.ofString "extra operand " ++ quoted extra)
  | [] =>
    let isWanted (letter : Char) : Bool :=
      has letter options || has 'a' options || (options.isEmpty && letter = 's')
    let parts := (systemParts (← hostnameOf)).filter fun part => isWanted part.1
    task.putLine ([32].intercalate (parts.map (·.2)))
    return 0

/-- Write the kind of processor. -/
def arch : Work := fun task => do
  task.putText processorName
  return 0

/-- Write the name of the machine. -/
def hostname : Work := fun task => do
  task.putLine (← hostnameOf)
  return 0

/-- Write who the user is. -/
def whoami : Work := fun task => do
  task.putText "root"
  return 0

/-- Write the name or the number of the user or of the group, or both. -/
def identity : Work := fun task => do
  let (options, _) ← task.read {
    letters := "ugGnr",
    names := [("user", 'u'), ("group", 'g'), ("groups", 'G'), ("name", 'n'), ("real", 'r')] }
  let isPart := ['u', 'g', 'G'].any fun letter => has letter options
  task.putText (if !isPart then "uid=0(root) gid=0(root) groups=0(root)"
    else if has 'n' options then "root" else "0")
  return 0

/-- Write the groups of the user. -/
def groups : Work := fun task => do
  task.putText "root"
  return 0

/-- Tell that there is no terminal. -/
def tty : Work := fun task => do
  let (options, _) ← task.read { letters := "s", names := [("silent", 's'), ("quiet", 's')] }
  if !has 's' options then task.putText "not a tty"
  return 1

/-- Write the directory of the process. -/
def pwd : Work := fun task => do
  let (options, _) ← task.read { letters := "LP", names := [("logical", 'L'), ("physical", 'P')] }
  let physical ← Program.look fun process kernel =>
    (((kernel.locationOf? (kernel.directoryOf process)).map Machine.pathTo).getD [])
  let isRight (path : Bytes) : Program Bool := Program.look fun process kernel =>
    decide ((kernel.find process path).toOption = some (kernel.directoryOf process))
  match if has 'L' options then task.valueOf? "PWD" else none with
  | some path =>
    if path.head? = some Machine.slashByte && (← isRight path) then task.putLine path
    else task.putLine physical
  | none => task.putLine physical
  return 0

end Relocation.Utility
