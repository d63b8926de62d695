import Relocation.CommandLine
import Relocation.Log.Directives
import Relocation.Wording.Customary

/-!
# The libraries of the program

What the libraries do with which the program is commonly built.
-/

namespace Relocation.Invocation

/-- The common libraries. -/
def Libraries.common : Libraries where
  words := .customary
  parse := CommandLine.parse
  filter text := (Directives.ofText text).filter .customary

end Relocation.Invocation
