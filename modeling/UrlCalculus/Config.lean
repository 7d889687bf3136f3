/-!
# Configuration

What an engine can be configured with, and what holds where nothing else is said.
-/

namespace UrlCalculus

/-- The URL that fields are put into when no other base is given. -/
def standardBase : String := "https://host/"

/-- The depth at which calls are refused. -/
def standardMaxDepth : Nat := 64

structure Config where
  defaultBase : String := standardBase
  maxDepth : Nat := standardMaxDepth
deriving DecidableEq

end UrlCalculus
