import Relocation.Utility.Calculation
import Relocation.Utility.Copy
import Relocation.Utility.Count
import Relocation.Utility.Editing
import Relocation.Utility.Encoding
import Relocation.Utility.Environment
import Relocation.Utility.Files
import Relocation.Utility.Inspection
import Relocation.Utility.Lines
import Relocation.Utility.Output
import Relocation.Utility.Replace
import Relocation.Utility.Search
import Relocation.Utility.Sorting

/-!
# The programs that come with a machine
-/

namespace Relocation.Utility

/-- The program that finds files and can run others for them. -/
def find : Work := findFiles fun task words => do
  return (← task.runCommand words).status

/-- The utilities by their names. -/
def table : List (String × Work) := [
  ("[", bracketTest), ("arch", arch), ("base64", base64), ("basename", basename), ("cat", cat),
  ("chmod", chmod), ("cmp", cmp), ("comm", comm), ("cp", cp), ("cut", cut), ("dd", dd),
  ("dirname", dirname), ("echo", echo), ("egrep", egrep), ("env", env), ("expand", expand),
  ("expr", expr), ("factor", factor), ("false", giveUp), ("fgrep", fgrep), ("find", find),
  ("fold", fold), ("grep", grep), ("groups", groups), ("head", head), ("hostname", hostname),
  ("id", identity), ("kill", kill), ("ln", ln), ("ls", ls), ("mkdir", mkdir), ("mkfifo", mkfifo),
  ("mktemp", mktemp), ("mv", mv), ("nice", nice), ("nl", nl), ("nohup", nohup), ("nproc", nproc),
  ("od", od), ("paste", paste), ("printenv", printenv), ("printf", printf), ("pwd", pwd),
  ("readlink", readlink), ("realpath", realpath), ("rev", rev), ("rm", rm), ("rmdir", rmdir),
  ("sed", sed), ("seq", seq), ("sleep", sleep), ("sort", sort), ("stat", stat), ("tac", tac),
  ("tail", tail), ("tee", tee), ("test", test), ("timeout", timeout), ("touch", touch), ("tr", tr),
  ("true", succeed), ("truncate", truncate), ("tty", tty), ("uname", uname), ("uniq", uniq),
  ("unlink", unlink), ("wc", wc), ("which", which), ("whoami", whoami), ("xargs", xargs),
  ("yes", yes)]

/-- The utility of a name. -/
def find? (name : Bytes) : Option (String × Work) :=
  table.find? fun entry => Bytes.ofString entry.1 = name

end Relocation.Utility
