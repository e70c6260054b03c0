/-
# Manuscript.Problem.Filter -- messages a user wants to see

A message is shown if an allowed pattern matches it, or there are none, and no
ignored pattern does.  Patterns that cannot be read do not count.
-/
import Manuscript.Pattern.Parser
import Manuscript.Pattern.Search
import Manuscript.Settings.Basic

namespace Manuscript

set_option autoImplicit false

structure Filter where
  allowed : List Pattern
  ignored : List Pattern
deriving DecidableEq, Repr

namespace Filter

def ofSettings (s : DiagnosticsSettings) : Filter :=
  ⟨s.allowedPatterns.filterMap Pattern.parse?, s.ignoredPatterns.filterMap Pattern.parse?⟩

/-- Whether a message is shown. -/
def keeps (f : Filter) (message : String) : Bool :=
  (f.allowed.isEmpty || f.allowed.any (·.occursIn message.toList))
    && !f.ignored.any (·.occursIn message.toList)

end Filter

end Manuscript
