/-!
# Configuration

How the pass over a ruleset is to work.
-/

namespace Rulefold

/-- How the pass is to work. -/
structure Config where
  /-- How many shapes a chain may have. -/
  maxShapes : Nat
  /-- Whether folds are reported. -/
  audit : Bool
  deriving DecidableEq

/-- The configuration for those who give none. -/
def Config.standard : Config := { maxShapes := 32, audit := true }

end Rulefold
