import Relocation.Shell.Builtin.Options

/-!
# Builtins on permissions and limits
-/

namespace Relocation.Shell.Builtin

open Machine (Program)

/-! ### The permissions of new files -/

/-- The permissions of three bits in letters. -/
def permissionText (bits : Nat) : String :=
  String.ofList ([('r', 4), ('w', 2), ('x', 1)].filterMap fun (letter, bit) =>
    if bits &&& bit = 0 then none else some letter)

/-- The permissions that a mask leaves, in letters. -/
def symbolicText (mask : Nat) : String :=
  let group (unit : Nat) : String := permissionText (7 - mask / unit % 8)
  "u=" ++ group 64 ++ ",g=" ++ group 8 ++ ",o=" ++ group 1

/-- The octal digits of four times three bits. -/
def maskText (mask : Nat) : String :=
  String.ofList ([512, 64, 8, 1].map fun unit => Char.ofNat (48 + mask / unit % 8))

/-- All permissions. -/
def allPermissions : Nat := 0o777

/-- The bit that a letter stands for in the permissions of each of the groups that are asked for. -/
def groupBit (byte : UInt8) : Option Nat :=
  [(97, 0o111), (117, 0o100), (103, 0o010), (111, 0o001)].lookup byte.toNat

/-- The permissions that a letter stands for, of which the last three bits count. -/
def letterBits (allowed : Nat) (byte : UInt8) : Option Nat :=
  [(114, 4), (119, 2), (120, 1), (117, allowed >>> 6), (103, allowed >>> 3), (111, allowed),
    (88, if allowed &&& 0o111 = 0 then 0 else 1), (115, 0)].lookup byte.toNat

/-- Read changes of permissions one after the other. It gives the permissions after them and what
could not be read. -/
def readChanges (allowed : Nat) : Nat → (groups result : Nat) → Bytes → Nat × Bytes
  | 0, _, result, text => (result, text)
  | _, _, result, [] => (result, [])
  | fuel + 1, groups, result, text =>
    let letters := text.takeWhile fun byte => (groupBit byte).isSome
    let groups := letters.foldl (fun groups byte => groups ||| (groupBit byte).getD 0) groups
    let groups := if groups = 0 then 0o111 else groups
    match text.drop letters.length with
    | [] => (result, [])
    | operator :: text =>
      if !([61, 43, 45].contains operator) then (result, operator :: text)
      else
        let letters := text.takeWhile fun byte => (letterBits allowed byte).isSome
        let bits := letters.foldl (fun bits byte => bits ||| (letterBits allowed byte).getD 0) 0
        let bits := (bits &&& 7) * groups
        let result :=
          if operator = 45 then result &&& (bits ^^^ allPermissions)
          else if operator = 61 then bits ||| (result &&& ((groups * 7) ^^^ allPermissions))
          else result ||| bits
        match text.drop letters.length with
        | 44 :: text => readChanges allowed fuel 0 result text
        | next :: text =>
          if [61, 43, 45].contains next then readChanges allowed fuel groups result (next :: text)
          else (result, next :: text)
        | [] => (result, [])

/-- The mask that a word stands for. -/
def readMask (mask : Nat) (word : Bytes) : Run Nat := do
  if word.head?.any isDigit then
    if word.all fun byte => 48 ≤ byte && byte ≤ 55 then
      return word.foldl (fun value byte => 8 * value + (byte.toNat - 48)) 0 % 0o1000
    else illegalNumber word
  else
    let allowed := mask ^^^ allPermissions
    match readChanges allowed (word.length + 1) 0 allowed word with
    | (result, []) => return result ^^^ allPermissions
    | _ => fault (Bytes.ofString "Illegal mode: " ++ word)

/-- Print or set the permissions that new files do not get. -/
def umask (arguments : List Bytes) : Run Nat := do
  let (options, words) ← readOptions "S" arguments
  let mask ← (Program.look fun process kernel =>
    ((kernel.process? process).map (·.mask)).getD 0 : Program _)
  match words with
  | word :: _ =>
    let mask ← readMask mask word
    Program.modify fun process kernel => kernel.mapProcess process ({ · with mask := mask })
  | [] => printLine (Bytes.ofString (if options.isEmpty then maskText mask else symbolicText mask))
  return 0

/-! ### Limits -/

/-- The limits by their letters, with their names and units. -/
def limitTable : List (Char × String) :=
  [('t', "time(seconds)"), ('f', "file(blocks)"), ('d', "data(kbytes)"), ('s', "stack(kbytes)"),
    ('c', "coredump(blocks)"), ('m', "memory(kbytes)"), ('l', "locked memory(kbytes)"),
    ('p', "process"), ('n', "nofiles"), ('v', "vmemory(kbytes)"), ('w', "locks"),
    ('r', "rtprio")]

/-- A limit in digits. -/
def limitText (limit? : Option Nat) : String :=
  match limit? with
  | some limit => Decimal.ofNat limit
  | none => "unlimited"

/-- The limit of a process by its letter. -/
def limitOf (letter : Char) : Run (Option Nat) := do
  return (← (Program.look fun process kernel =>
    (((kernel.process? process).bind (·.limits.lookup letter))).join : Program (Option Nat)))

/-- Print or set limits of resources. -/
def ulimit (arguments : List Bytes) : Run Nat := do
  let (options, words) ← readOptions "HSatfdscmlpnvwr" arguments
  let letters := (options.map (·.letter)).filter fun letter => letter ≠ 'H' && letter ≠ 'S'
  let letter := (letters.filter (· ≠ 'a')).getLast?.getD 'f'
  match words with
  | [] =>
    if letters.contains 'a' then
      for (letter, name) in limitTable do
        let title := name ++ String.ofList (List.replicate (20 - name.length) ' ') ++ " "
        printLine (Bytes.ofString (title ++ limitText (← limitOf letter)))
    else printLine (Bytes.ofString (limitText (← limitOf letter)))
    return 0
  | [word] =>
    if letters.contains 'a' then faultOf "too many arguments"
    let limit? ← if word = Bytes.ofString "unlimited" then pure none
      else if !word.isEmpty && word.all isDigit then
        pure (some (word.foldl (fun value byte => 10 * value + (byte.toNat - 48)) 0))
      else faultOf "bad number"
    Program.modify fun process kernel => kernel.mapProcess process fun process =>
      { process with limits := (letter, limit?) :: process.limits.filter (·.1 ≠ letter) }
    return 0
  | _ => faultOf "too many arguments"

end Relocation.Shell.Builtin
