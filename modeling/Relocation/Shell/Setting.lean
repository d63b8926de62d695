import Relocation.Shell.Run

/-!
# Options of the shell

The options that are given to a shell when it starts, or to `set`. Most have a letter
and a name; a minus sign turns them on and a plus sign off.
-/

namespace Relocation.Shell.Setting

/-- The letters of the options and their names. The last two options have no letters to be typed. -/
def table : List (Char × String) :=
  [('e', "errexit"), ('f', "noglob"), ('I', "ignoreeof"), ('i', "interactive"), ('m', "monitor"),
    ('n', "noexec"), ('s', "stdin"), ('x', "xtrace"), ('v', "verbose"), ('V', "vi"), ('E', "emacs"),
    ('C', "noclobber"), ('a', "allexport"), ('b', "notify"), ('u', "nounset"),
    ('p', "privileged"), ('\x01', "nolog"), ('\x02', "debug")]

/-- Whether an option has a letter to be typed. -/
def isTyped (letter : Char) : Bool := ' ' < letter

/-- The letters of the options that are on, as `$-` shows them. -/
def shown (shell : State) : Bytes :=
  ((table.map (·.1)).filter fun letter => isTyped letter && shell.hasOption letter).reverse.map
    fun letter => letter.toUInt8

/-- Turn an option on or off. -/
def change (letter : Char) (isOn : Bool) : Run Unit :=
  modify fun shell =>
    let holds (other : Char) : Bool := if other = letter then isOn else shell.hasOption other
    { shell with options := (table.map (·.1)).filter holds }

/-- The option that cannot be on together with another one. -/
def rival? : Char → Option Char
  | 'V' => some 'E'
  | 'E' => some 'V'
  | _ => none

/-- Turn an option on or off that may not exist. -/
def changeLetter (byte : UInt8) (isOn : Bool) : Run Unit := do
  let letter := Char.ofNat byte.toNat
  if isTyped letter && table.any (·.1 = letter) then
    change letter isOn
    match if isOn then rival? letter else none with
    | some rival => change rival false
    | none => pure ()
  else fault (Bytes.ofString "Illegal option -" ++ [byte])

/-- Turn an option on or off by its name. -/
def changeName (name : Bytes) (isOn : Bool) : Run Unit := do
  match table.find? (fun entry => Bytes.ofString entry.2 = name) with
  | some (letter, _) => change letter isOn
  | none => fault (Bytes.ofString "Illegal option -o " ++ name)

/-- Turn off an option that needs a terminal, as there is none. -/
def settle : Run Unit := do
  let shell ← get
  if shell.depth = 0 && shell.hasOption 'm' then
    complainOf "can't access tty; job control turned off"
    change 'm' false

/-- A name filled up with spaces to the column of the settings. -/
def column (name : String) : String :=
  name ++ String.ofList (List.replicate (16 - name.length) ' ')

/-- Print the settings of all options, or the commands that restore them. Before a shell has read
all its arguments, every option is shown as on. -/
def printAll (atStart asCommands : Bool) : Run Unit := do
  let shell ← get
  let lines := table.map fun (letter, name) =>
    let isOn := atStart || shell.hasOption letter
    if asCommands then "set " ++ (if isOn then "-o " else "+o ") ++ name ++ "\n"
    else column name ++ (if isOn then "on" else "off") ++ "\n"
  let title := if asCommands then "" else "Current option settings\n"
  print (Bytes.ofString (title ++ String.join lines))

/-- Carry out the letters behind a sign. It gives the arguments that are left, as the letter `o`
takes one, and whether the letter `c` was among the letters, which only a start knows. -/
def readLetters (atStart isOn : Bool) : Bytes → List Bytes → Run (List Bytes × Bool)
  | [], arguments => return (arguments, false)
  | byte :: letters, arguments => do
    let letter := Char.ofNat byte.toNat
    if letter = 'c' && atStart then
      let (arguments, _) ← readLetters atStart isOn letters arguments
      return (arguments, true)
    else if letter = 'l' && atStart then readLetters atStart isOn letters arguments
    else if letter = 'o' then
      match arguments with
      | [] =>
        printAll atStart (!isOn)
        readLetters atStart isOn letters []
      | name :: arguments =>
        changeName name isOn
        readLetters atStart isOn letters arguments
    else
      changeLetter byte isOn
      readLetters atStart isOn letters arguments

/-- What is left after the options. -/
structure Rest where
  arguments : List Bytes
  /-- Whether a command is among the arguments. -/
  takesCommand : Bool := false
  /-- Whether the options ended with two minus signs. -/
  isMarked : Bool := false

/-- Carry out the options at the start of the arguments. -/
def read (atStart : Bool) : Nat → List Bytes → Run Rest
  | 0, arguments => return { arguments }
  | _, [] => return { arguments := [] }
  | fuel + 1, argument :: arguments => do
    match argument with
    | [45] =>
      if !atStart then
        change 'x' false
        change 'v' false
      return { arguments }
    | [45, 45] => return { arguments, isMarked := true }
    | sign :: letters =>
      if sign = 45 || sign = 43 then
        let (arguments, takesCommand) ← readLetters atStart (sign = 45) letters arguments
        let rest ← read atStart fuel arguments
        return { rest with takesCommand := takesCommand || rest.takesCommand }
      else return { arguments := argument :: arguments }
    | [] => return { arguments := argument :: arguments }

/-- Carry out all options at the start of the arguments. -/
def readAll (atStart : Bool) (arguments : List Bytes) : Run Rest :=
  read atStart (arguments.length + 1) arguments

end Relocation.Shell.Setting
