import Relocation.Utility.Names

/-!
# Utilities for files

The programs that list, make, copy, move and remove files.
-/

namespace Relocation.Utility

open Machine (Content Facts FileKind Kernel Place Program Reply Spot)

/-! ### Asking about files -/

/-- The facts about a file. -/
def factsOf (path : Bytes) (followsLast : Bool := true) : Program (Except Errno Facts) :=
  Program.ask fun kernel process => kernel.facts process path followsLast

/-- Whether there is a directory at a path. -/
def isDirectory (path : Bytes) (followsLast : Bool := true) : Program Bool := do
  return match ← factsOf path followsLast with
    | .ok facts => facts.kind = .directory
    | .error _ => false

/-- The names in a directory, in their order. -/
def namesIn (path : Bytes) : Program (Except Errno (List Bytes)) :=
  Program.ask fun kernel process => do
    let place ← kernel.find process path
    if kernel.isDirectory place then
      return (kernel.namesIn place).mergeSort fun a b => decide (a ≤ b)
    else .error .notDirectory

/-- The path of a file in a directory. -/
def inside (directory name : Bytes) : Bytes :=
  if directory.getLast? = some Machine.slashByte then directory ++ name
  else directory ++ Machine.slashByte :: name

/-- The path of a spot without symbolic links in it. -/
def pathOfSpot (kernel : Kernel) (spot : Spot) : Option Bytes := do
  let location ← kernel.locationOf? spot.directory
  return Machine.pathTo (if spot.name = Machine.dotName then location else location ++ [spot.name])

/-! ### Lists -/

/-- How files are listed. -/
structure Listing where
  showsHidden : Bool := false
  showsDots : Bool := false
  marksAll : Bool := false
  marksDirectories : Bool := false
  reverses : Bool := false
  descends : Bool := false
  commas : Bool := false

/-- The listing that options ask for. -/
def listingOf (options : List Given) : Listing where
  showsHidden := has 'a' options || has 'A' options
  showsDots := has 'a' options
  marksAll := has 'F' options
  marksDirectories := has 'p' options
  reverses := has 'r' options
  descends := has 'R' options
  commas := has 'm' options

/-- The mark behind the name of a file. -/
def Listing.mark (listing : Listing) (facts : Facts) : Bytes :=
  match facts.kind with
  | .directory => if listing.marksAll || listing.marksDirectories then [47] else []
  | .link => if listing.marksAll then [64] else []
  | .fifo => if listing.marksAll then [124] else []
  | _ => if listing.marksAll && facts.isExecutable then [42] else []

/-- A name with the mark behind it. -/
def Listing.entry (listing : Listing) (path name : Bytes) : Program Bytes := do
  match ← factsOf path false with
  | .ok facts => return name ++ listing.mark facts
  | .error _ => return name

/-- Write names. -/
def Listing.write (listing : Listing) (task : Task) (names : List Bytes) : Program Unit :=
  if names.isEmpty then return
  else if listing.commas then task.putLine ((Bytes.ofString ", ").intercalate names)
  else task.put (joinLines names)

/-- The names in a directory that are listed. -/
def Listing.namesOf (listing : Listing) (names : List Bytes) : List Bytes :=
  let names := names.filter fun name => listing.showsHidden || name.head? ≠ some 46
  let names := if listing.showsDots then [Machine.dotName, Machine.dotDotName] ++ names else names
  if listing.reverses then names.reverse else names

/-- Write what is in directories, each behind its name if `isTitled` holds. -/
def listDirectories (task : Task) (listing : Listing) : Nat → (isTitled isFirst : Bool) →
    List Bytes → Program Nat
  | 0, _, _, _ => return 0
  | _, _, _, [] => return 0
  | fuel + 1, isTitled, isFirst, path :: rest => do
    match ← namesIn path with
    | .error errno =>
      task.reportAct "cannot open directory" path errno
      let _ ← listDirectories task listing fuel isTitled isFirst rest
      return 2
    | .ok names =>
      let names := listing.namesOf names
      if isTitled || listing.descends then
        task.put ((if isFirst then [] else [10]) ++ path ++ [58, 10])
      listing.write task (← names.mapM fun name => listing.entry (inside path name) name)
      let inner ← if listing.descends then
          (names.filter fun name => name ≠ Machine.dotName && name ≠ Machine.dotDotName).filterMapM
            fun name => do
              let child := inside path name
              return if ← isDirectory child false then some child else none
        else pure []
      listDirectories task listing fuel isTitled false (inner ++ rest)

/-- List files and what is in directories. -/
def ls : Work := fun task => do
  let (options, paths) ← task.read {
    letters := "1aAdFprRmlLHhinostSuUXCxgGqbNQcw:",
    names := [("all", 'a'), ("almost-all", 'A'), ("directory", 'd'), ("classify", 'F'),
      ("reverse", 'r'), ("recursive", 'R')],
    status := 2 }
  let listing := listingOf options
  let paths := if paths.isEmpty then [Machine.dotName] else paths
  let sorted := paths.mergeSort fun a b => decide (a ≤ b)
  let sorted := if listing.reverses then sorted.reverse else sorted
  let mut status := 0
  let mut files : List Bytes := []
  let mut directories : List Bytes := []
  for path in paths do
    match ← factsOf path false with
    | .error errno =>
      task.reportAct "cannot access" path errno
      status := 2
    | .ok _ => pure ()
  for path in sorted do
    match ← factsOf path false with
    | .error _ => pure ()
    | .ok facts =>
      let opens ← if has 'd' options then pure false
        else if facts.kind = .link && has 'F' options then pure false
        else isDirectory path
      if opens then directories := directories ++ [path]
      else files := files ++ [← listing.entry path path]
  listing.write task files
  let isTitled := 1 < paths.length
  let other ← listDirectories task listing Program.unbounded isTitled files.isEmpty directories
  return max status other

/-! ### Making -/

/-- A change of permissions. -/
inductive ModeChange where
  | set (mode : Nat)
  /-- For some groups, an operator and letters. -/
  | part (groups : Nat) (operator : UInt8) (letters : Bytes)

/-- Whether a byte adds, removes or sets permissions. -/
def isModeOperator (byte : UInt8) : Bool := [43, 45, 61].contains byte

/-- Read operators with letters behind them. -/
def modeParts? (groups : Nat) : Nat → Bytes → Option (List ModeChange)
  | 0, _ => none
  | _, [] => some []
  | fuel + 1, operator :: rest =>
    let letters := rest.takeWhile fun byte => !isModeOperator byte
    if isModeOperator operator &&
        letters.all (fun byte => (Bytes.ofString "rwxXstugo").contains byte) then
      (modeParts? groups fuel (rest.drop letters.length)).map
        (ModeChange.part groups operator letters :: ·)
    else none

/-- The bits of a group of users by its letter. -/
def groupBits? (byte : UInt8) : Option Nat :=
  [(117, 0o4700), (103, 0o2070), (111, 0o1007), (97, 0o7777)].lookup byte.toNat

/-- Read the groups of users with operators and letters behind them. -/
def modeClause? (clause : Bytes) : Option (List ModeChange) :=
  let letters := clause.takeWhile fun byte => (groupBits? byte).isSome
  let groups := letters.foldl (fun bits byte => bits ||| (groupBits? byte).getD 0) 0
  match clause.drop letters.length with
  | [] => none
  | rest => modeParts? groups (rest.length + 1) rest

/-- Read changes of permissions, which are an octal number or letters. -/
def modeChanges? (word : Bytes) : Option (List ModeChange) :=
  if !word.isEmpty && word.all (fun byte => 48 ≤ byte && byte ≤ 55) then
    some [.set (word.foldl (fun value byte => 8 * value + (byte.toNat - 48)) 0)]
  else ((word.splitOn (· = 44)).mapM modeClause?).map List.flatten

/-- The bits that letters stand for in all groups. -/
def letterMode (isExecutable : Bool) (mode : Nat) (letters : Bytes) : Nat :=
  let all (bits : Nat) : Nat := bits * 0o111
  letters.foldl (fun bits byte => bits ||| match byte with
    | 114 => all 4
    | 119 => all 2
    | 120 => all 1
    | 88 => if isExecutable then all 1 else 0
    | 115 => 0o6000
    | 116 => 0o1000
    | 117 => all (mode >>> 6 &&& 7)
    | 103 => all (mode >>> 3 &&& 7)
    | 111 => all (mode &&& 7)
    | _ => 0) 0

/-- The permissions after a change. Without groups the mask of the process counts. -/
def ModeChange.apply (mask : Nat) (isDirectory : Bool) (mode : Nat) : ModeChange → Nat
  | .set new => if isDirectory then new ||| (mode &&& 0o6000) else new
  | .part groups operator letters =>
    let isExecutable := isDirectory || mode &&& 0o111 ≠ 0
    let scope := if groups = 0 then 0o7777 &&& (0o7777 ^^^ mask) else groups
    let bits := letterMode isExecutable mode letters &&& scope
    let cleared := if groups = 0 then 0o777 else groups &&& 0o777
    match operator with
    | 43 => mode ||| bits
    | 45 => mode &&& (0o7777 ^^^ bits)
    | _ => bits ||| (mode &&& (0o7777 ^^^ cleared))

/-- The permissions that the process takes from new files. -/
def maskOf : Program Nat :=
  Program.look fun process kernel => ((kernel.process? process).map (·.mask)).getD 0

/-- The changes that a word asks for. -/
def readMode (task : Task) (word : Bytes) : Program (List ModeChange) := do
  match modeChanges? word with
  | some changes => return changes
  | none => task.misuse (Bytes.ofString "invalid mode: " ++ quoted word)

/-- The permissions of something new after some changes. -/
def newMode (changes : List ModeChange) (isDirectory : Bool) (start : Nat) : Program Nat := do
  let mask ← maskOf
  return changes.foldl (fun mode change => change.apply mask isDirectory mode) start

/-- Report a request that failed. It gives the status. -/
def reported (task : Task) (act : String) (path : Bytes) (result : Except Errno Unit) :
    Program Nat := do
  match result with
  | .ok () => return 0
  | .error errno =>
    task.reportAct act path errno
    return 1

/-- The paths of all directories on the way of a path, the first one first. -/
def stepsOf (path : Bytes) : List Bytes :=
  let names := (path.splitOn (· = Machine.slashByte)).filter fun name => !name.isEmpty
  let front : Bytes := if path.head? = some Machine.slashByte then [Machine.slashByte] else []
  (List.range names.length).map fun i =>
    front ++ [Machine.slashByte].intercalate (names.take (i + 1))

/-- Make directories. -/
def mkdir : Work := fun task => do
  let (options, paths) ← task.read {
    letters := "pm:vZ", names := [("parents", 'p'), ("mode", 'm'), ("verbose", 'v')] }
  if paths.isEmpty then task.misuse (Bytes.ofString "missing operand")
  let changes ← match argumentOf? 'm' options with
    | some word => readMode task word
    | none => pure []
  let act := "cannot create directory"
  let make (path : Bytes) : Program (Except Errno Unit) := do
    let result ← Program.request fun kernel process => kernel.makeDirectory process path
    match result, changes with
    | .ok (), _ :: _ =>
      let mode ← newMode changes true 0o777
      Program.request fun kernel process => kernel.setMode process path mode
    | result, _ => return result
  let say (path : Bytes) : Program Unit :=
    if has 'v' options then
      task.putLine (Bytes.ofString "mkdir: created directory " ++ quoted path)
    else return
  let mut status := 0
  for path in paths do
    if has 'p' options then
      for step in stepsOf path do
        if !(← isDirectory step) then
          let result ← if step = withoutSlashes path then make step
            else Program.request fun kernel process => kernel.makeDirectory process step
          match result with
          | .ok () => say step
          | .error _ => pure ()
      if !(← isDirectory path) then
        let blocked ← (stepsOf path).findM? fun step => return !(← isDirectory step)
        let errno : Errno := match ← factsOf (blocked.getD path) false with
          | .ok _ => if blocked = some (withoutSlashes path) then .fileExists else .notDirectory
          | .error errno => errno
        task.reportAct act (blocked.getD path) errno
        status := 1
    else
      let result ← make path
      let other ← reported task act path result
      if other = 0 then say path else status := other
  return status

/-- Remove empty directories. -/
def rmdir : Work := fun task => do
  let (options, paths) ← task.read {
    letters := "pv", names := [("parents", 'p'), ("verbose", 'v')] }
  if paths.isEmpty then task.misuse (Bytes.ofString "missing operand")
  let mut status := 0
  for path in paths do
    let all := if has 'p' options then (stepsOf path).reverse else [path]
    for step in all do
      let result ← Program.request fun kernel process => kernel.removeDirectory process step
      if (← reported task "failed to remove" step result) ≠ 0 then status := 1
  return status

/-- Make files that do not exist, and let all seem changed. -/
def touch : Work := fun task => do
  let (options, paths) ← task.read {
    letters := "acmd:r:t:hf", names := [("no-create", 'c'), ("date", 'd'), ("reference", 'r')] }
  if paths.isEmpty then task.misuse (Bytes.ofString "missing file operand")
  let mut status := 0
  for path in paths do
    let result ← Program.request fun kernel process => kernel.setChanged process path kernel.now
    match result with
    | .ok () => pure ()
    | .error errno =>
      if errno = .noEntry && !has 'c' options then
        match ← Program.openPath path { writes := true, creates := true } with
        | .ok descriptor => Program.close descriptor
        | .error errno =>
          task.reportAct "cannot touch" path errno
          status := 1
      else if errno ≠ .noEntry then
        task.reportAct "cannot touch" path errno
        status := 1
  return status

/-- Make pipes with names. -/
def mkfifo : Work := fun task => do
  let (_, paths) ← task.read { letters := "m:", names := [("mode", 'm')] }
  if paths.isEmpty then task.misuse (Bytes.ofString "missing operand")
  let mut status := 0
  for path in paths do
    let result ← Program.request fun kernel process => kernel.makeFifo process path
    if (← reported task "cannot create fifo" path result) ≠ 0 then status := 1
  return status

/-- The path for something that is put where `target` leads: into a directory or at a name. -/
def placeFor (target source : Bytes) (isInside : Bool) : Bytes :=
  if isInside then inside target (lastName source) else target

/-- The sources and the target of an action on files. -/
structure Transfer where
  sources : List Bytes
  target : Bytes
  /-- Whether the target is a directory that takes what is put there. -/
  isInside : Bool

/-- Read the sources and the target. -/
def readTransfer (task : Task) (options : List Given) (operands : List Bytes) :
    Program Transfer := do
  match argumentOf? 't' options with
  | some target =>
    if operands.isEmpty then task.misuse (Bytes.ofString "missing file operand")
    return { sources := operands, target, isInside := true }
  | none =>
    match operands with
    | [] => task.misuse (Bytes.ofString "missing file operand")
    | [only] =>
      task.misuse (Bytes.ofString "missing destination file operand after " ++ quoted only)
    | _ =>
      let target := operands.getLastD []
      let isInside ← if has 'T' options then pure false else isDirectory target
      if 2 < operands.length && !isInside then
        let errno : Errno := match ← factsOf target with
          | .ok _ => .notDirectory
          | .error errno => errno
        task.reportAct "target" target errno
        Program.exit 1
      return { sources := operands.dropLast, target, isInside }

/-- Make links. -/
def ln : Work := fun task => do
  let (options, operands) ← task.read {
    letters := "sfnTt:vrib", names := [("symbolic", 's'), ("force", 'f'),
      ("no-dereference", 'n'), ("target-directory", 't'), ("no-target-directory", 'T')] }
  let isSymbolic := has 's' options
  let transfer ← match operands with
    | [only] =>
      if (argumentOf? 't' options).isSome then readTransfer task options operands
      else pure { sources := [only], target := Machine.dotName, isInside := true }
    | _ =>
      let transfer ← readTransfer task options operands
      let isLink := match ← factsOf transfer.target false with
        | .ok facts => facts.kind = .link
        | .error _ => false
      pure (if has 'n' options && isLink then { transfer with isInside := false } else transfer)
  let mut status := 0
  for source in transfer.sources do
    let path := placeFor transfer.target source transfer.isInside
    if has 'f' options then
      let _ ← Program.request fun kernel process => kernel.remove process path
    let act := if isSymbolic then "failed to create symbolic link" else "failed to create hard link"
    if isSymbolic then
      let result ← Program.request fun kernel process => kernel.makeLink process source path
      if (← reported task act path result) ≠ 0 then status := 1
    else
      match ← factsOf source false with
      | .error errno =>
        task.reportAct "failed to access" source errno
        status := 1
      | .ok facts =>
        if facts.kind = .directory then
          task.report (quotedIfNeeded source ++
            Bytes.ofString ": hard link not allowed for directory")
          status := 1
        else
          let result ← Program.request fun kernel process => kernel.addName process source path
          if (← reported task act path result) ≠ 0 then status := 1
  return status

/-! ### Removing, moving and copying -/

/-- Remove a file, and a directory with all that is in it. What cannot be removed is reported. -/
def removeTree (task : Task) (path : Bytes) : Nat → Program Bool
  | 0 => return false
  | fuel + 1 => do
    let result ← if ← isDirectory path false then do
        match ← namesIn path with
        | .ok names =>
          let mut isDone := true
          for name in names do
            if !(← removeTree task (inside path name) fuel) then isDone := false
          if isDone then
            Program.request fun kernel process => kernel.removeDirectory process path
          else return false
        | .error errno => pure (.error errno)
      else Program.request fun kernel process => kernel.remove process path
    return (← reported task "cannot remove" path result) = 0

/-- How deep directories are gone through. -/
def maxDepth : Nat := 4096

/-- Remove files. -/
def rm : Work := fun task => do
  let (options, paths) ← task.read {
    letters := "rRfdiIv",
    names := [("recursive", 'r'), ("force", 'f'), ("dir", 'd'), ("verbose", 'v')] }
  let isForced := has 'f' options
  let isDeep := has 'r' options || has 'R' options
  if paths.isEmpty then
    if isForced then return 0 else task.misuse (Bytes.ofString "missing operand")
  let mut status := 0
  for path in paths do
    match ← factsOf path false with
    | .error errno =>
      if !(isForced && (errno = .noEntry || errno = .notDirectory)) then
        task.reportAct "cannot remove" path errno
        status := 1
    | .ok facts =>
      let name := lastName path
      if facts.kind = .directory && isDeep then
        if name = Machine.dotName || name = Machine.dotDotName then
          task.report (Bytes.ofString "refusing to remove '.' or '..' directory: skipping " ++
            quoted path)
          status := 1
        else if !(← removeTree task path maxDepth) then status := 1
      else if facts.kind = .directory && has 'd' options then
        let result ← Program.request fun kernel process => kernel.removeDirectory process path
        if (← reported task "cannot remove" path result) ≠ 0 then status := 1
      else
        let result ← Program.request fun kernel process => kernel.remove process path
        if (← reported task "cannot remove" path result) ≠ 0 then status := 1
  return status

/-- Remove the name of one file. -/
def unlink : Work := fun task => do
  match (← task.read { letters := "" }).2 with
  | [path] =>
    let result ← Program.request fun kernel process => kernel.remove process path
    reported task "cannot unlink" path result
  | [] => task.misuse (Bytes.ofString "missing operand")
  | _ :: extra :: _ => task.misuse (Bytes.ofString "extra operand " ++ quoted extra)

/-- Move files. -/
def mv : Work := fun task => do
  let (options, operands) ← task.read {
    letters := "finTt:uvb", names := [("force", 'f'), ("no-clobber", 'n'),
      ("target-directory", 't'), ("no-target-directory", 'T')] }
  let transfer ← readTransfer task options operands
  let mut status := 0
  for source in transfer.sources do
    let path := placeFor transfer.target source transfer.isInside
    match ← factsOf source false with
    | .error errno =>
      task.reportAct "cannot stat" source errno
      status := 1
    | .ok facts =>
      let isThere ← factsOf path false
      if has 'n' options && isThere.isOk then pure ()
      else if (isThere.toOption.map (·.number)) = some facts.number then
        task.report (quoted source ++ Bytes.ofString " and " ++ quoted path ++
          Bytes.ofString " are the same file")
        status := 1
      else
        match ← Program.request fun kernel process => kernel.rename process source path with
        | .ok () => pure ()
        | .error .invalidArgument =>
          task.report (Bytes.ofString "cannot move " ++ quoted source ++
            Bytes.ofString " to a subdirectory of itself, " ++ quoted path)
          status := 1
        | .error errno =>
          task.report (Bytes.ofString "cannot move " ++ quoted source ++ Bytes.ofString " to " ++
            quoted path ++ Bytes.ofString (": " ++ errno.libraryText))
          status := 1
  return status

/-- Copy the content of a file. -/
def copyContent (task : Task) (source target : Bytes) (mode : Nat) : Program Bool := do
  match ← Program.openPath source { reads := true } with
  | .error errno =>
    task.report (Bytes.ofString "cannot open " ++ quoted source ++
      Bytes.ofString (" for reading: " ++ errno.libraryText))
    return false
  | .ok input =>
    match ← Program.openPath target { writes := true, creates := true, truncates := true } mode with
    | .error errno =>
      task.reportAct "cannot create regular file" target errno
      Program.close input
      return false
    | .ok output =>
      let problem? ← Program.forPieces input (fun piece => do
        let _ ← Program.write output piece) Program.unbounded
      Program.close input
      Program.close output
      match problem? with
      | none => return true
      | some errno =>
        task.reportAct "error reading" source errno
        return false

/-- Copy a file, and a directory with all that is in it. -/
def copyTree (task : Task) (isDeep keepsLinks : Bool) (source target : Bytes) : Nat → Program Bool
  | 0 => return false
  | fuel + 1 => do
    match ← factsOf source (!keepsLinks) with
    | .error errno =>
      task.reportAct "cannot stat" source errno
      return false
    | .ok facts =>
      match facts.kind with
      | .directory =>
        if !isDeep then
          task.report (Bytes.ofString "-r not specified; omitting directory " ++ quoted source)
          return false
        if !(← isDirectory target) then
          match ← Program.request fun kernel process => kernel.makeDirectory process target with
          | .ok () => pure ()
          | .error errno =>
            task.reportAct "cannot create directory" target errno
            return false
        let mut isDone := true
        match ← namesIn source with
        | .error errno =>
          task.reportAct "cannot access" source errno
          isDone := false
        | .ok names =>
          for name in names do
            if !(← copyTree task isDeep keepsLinks (inside source name) (inside target name) fuel)
            then isDone := false
        return isDone
      | .link =>
        match ← Program.ask fun kernel process => kernel.linkText process source with
        | .error errno =>
          task.reportAct "cannot read symbolic link" source errno
          return false
        | .ok text =>
          let result ← Program.request fun kernel process => kernel.makeLink process text target
          return (← reported task "cannot create symbolic link" target result) = 0
      | _ => copyContent task source target (facts.mode &&& 0o777)

/-- Copy files. -/
def cp : Work := fun task => do
  let (options, operands) ← task.read {
    letters := "rRafpdnPLHTt:uvisl", names := [("recursive", 'r'), ("archive", 'a'), ("force", 'f'),
      ("target-directory", 't'), ("no-target-directory", 'T'), ("no-clobber", 'n')] }
  let transfer ← readTransfer task options operands
  let isDeep := ['r', 'R', 'a'].any fun letter => has letter options
  let keepsLinks := (isDeep && !has 'L' options) || has 'P' options || has 'd' options
  let mut status := 0
  for source in transfer.sources do
    let path := placeFor transfer.target source transfer.isInside
    let a ← factsOf source
    let b ← factsOf path
    if b.isOk && (a.toOption.map (·.number)) = (b.toOption.map (·.number)) then
      task.report (quoted source ++ Bytes.ofString " and " ++ quoted path ++
        Bytes.ofString " are the same file")
      status := 1
    else if has 'n' options && b.isOk then pure ()
    else if !(← copyTree task isDeep keepsLinks source path maxDepth) then status := 1
  return status

/-! ### Attributes and paths -/

/-- Change the permissions of a file, and of all that is in a directory if `isDeep` holds. -/
def changeModes (task : Task) (changes : List ModeChange) (isDeep : Bool) (path : Bytes) :
    Nat → Program Nat
  | 0 => return 0
  | fuel + 1 => do
    match ← factsOf path with
    | .error errno =>
      task.reportAct "cannot access" path errno
      return 1
    | .ok facts =>
      let mode ← newMode changes (facts.kind = .directory) facts.mode
      let result ← Program.request fun kernel process => kernel.setMode process path mode
      let mut status ← reported task "changing permissions of" path result
      if isDeep && facts.kind = .directory then
        match ← namesIn path with
        | .ok names =>
          for name in names do
            status := max status (← changeModes task changes isDeep (inside path name) fuel)
        | .error _ => pure ()
      return status

/-- Change the permissions of files. -/
def chmod : Work := fun task => do
  let guarded := match task.arguments with
    | (45 :: byte :: rest) :: others =>
      if (Bytes.ofString "rwxXst").contains byte then [45, 45] :: (45 :: byte :: rest) :: others
      else task.arguments
    | arguments => arguments
  let (options, operands) ← { task with arguments := guarded }.read {
    letters := "Rfvc", stopsEarly := true, names := [("recursive", 'R'), ("quiet", 'f')] }
  match operands with
  | [] => task.misuse (Bytes.ofString "missing operand")
  | [word] => task.misuse (Bytes.ofString "missing operand after " ++ quoted word)
  | word :: paths =>
    let changes ← readMode task word
    let mut status := 0
    for path in paths do
      status := max status (← changeModes task changes (has 'R' options) path maxDepth)
    return status

/-- Cut or fill files to a size. -/
def truncate : Work := fun task => do
  let (options, paths) ← task.read {
    letters := "s:c", names := [("size", 's'), ("no-create", 'c')] }
  match argumentOf? 's' options, paths with
  | none, _ => task.misuse (Bytes.ofString "you must specify either '--size' or '--reference'")
  | _, [] => task.misuse (Bytes.ofString "missing file operand")
  | some word, paths =>
    match number? word with
    | none => task.fail (Bytes.ofString "Invalid number: " ++ quoted word)
    | some size =>
      let mut status := 0
      for path in paths do
        if !has 'c' options then
          match ← Program.openPath path { writes := true, creates := true } with
          | .ok descriptor => Program.close descriptor
          | .error errno =>
            task.report (Bytes.ofString "cannot open " ++ quoted path ++
              Bytes.ofString (" for writing: " ++ errno.libraryText))
            status := 1
        let _ ← Program.request fun kernel process => kernel.truncate process path size
      return status

/-- Write where symbolic links lead. -/
def readlink : Work := fun task => do
  let (options, paths) ← task.read {
    letters := "femnqsvz",
    names := [("canonicalize", 'f'), ("canonicalize-existing", 'e'), ("canonicalize-missing", 'm'),
      ("no-newline", 'n'), ("quiet", 'q'), ("silent", 's'), ("verbose", 'v'), ("zero", 'z')] }
  if paths.isEmpty then task.misuse (Bytes.ofString "missing operand")
  let isWhole := ['f', 'e', 'm'].any fun letter => has letter options
  let mut status := 0
  for path in paths do
    let result ← Program.ask fun kernel process =>
      if !isWhole then kernel.linkText process path
      else do
        let spot ← kernel.spotOf process path
        if has 'e' options && spot.place?.isNone then .error .noEntry
        match pathOfSpot kernel spot with
        | some path => .ok path
        | none => .error .noEntry
    match result with
    | .ok text =>
      task.put (text ++ if has 'n' options && paths.length = 1 then [] else lineEnd options)
    | .error errno =>
      if has 'v' options then task.reportFile path errno
      status := 1
  return status

/-- Write paths without symbolic links. -/
def realpath : Work := fun task => do
  let (options, paths) ← task.read {
    letters := "emqsLPz", names := [("canonicalize-existing", 'e'),
      ("canonicalize-missing", 'm'), ("quiet", 'q'), ("strip", 's'), ("zero", 'z')] }
  if paths.isEmpty then task.misuse (Bytes.ofString "missing operand")
  let mut status := 0
  for path in paths do
    let result ← Program.ask fun kernel process => do
      let spot ← kernel.spotOf process path
      if has 'e' options && spot.place?.isNone then .error .noEntry
      match pathOfSpot kernel spot with
      | some path => .ok path
      | none => .error .noEntry
    match result with
    | .ok text => task.put (text ++ lineEnd options)
    | .error errno =>
      if !has 'q' options then task.reportFile path errno
      status := 1
  return status

end Relocation.Utility
