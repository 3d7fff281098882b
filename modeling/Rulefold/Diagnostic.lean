import Rulefold.Family
import Rulefold.Files

/-!
# Diagnostics

What happens while rulesets are worked on is told as diagnostics: each is an event of this
library, with a level and a message.
-/

namespace Rulefold

/-- How urgent a diagnostic is. -/
inductive Level where
  | debug | info | warn
  deriving DecidableEq

instance : Keyword Level where
  all := [.debug, .info, .warn]
  text
    | .debug => "debug"
    | .info => "info"
    | .warn => "warn"
  mem_all word := by cases word <;> decide
  nodup_text := by decide

/-- An event worth telling. Rules are named by their place in the chain. -/
inductive Diagnostic where
  /-- A chain was laid out on its grid. -/
  | laidOut (chain : String) (rules shapes : Nat)
  /-- Alike rules test nothing, so there is nothing to fold. -/
  | noSelector (first last : Nat)
  /-- A rule tests a set where only single values can become parts of a tuple. -/
  | setAmongSelectors (rule : Nat)
  /-- A run of rules is about to be folded. -/
  | candidate (first last selectors : Nat)
  /-- The file that a rule came from cannot be opened again. -/
  | unopened (name : String) (failure : OpenError)
  /-- The report on a chain did not reach its sink. -/
  | reportLost (chain failure : String)
  /-- A chain runs in a fixed-function engine and is left alone. -/
  | offloaded (table chain : String)
  /-- A chain has more shapes than the configuration allows. -/
  | overCapacity (table chain : String) (max : Nat)
  /-- A run could not be folded, and its chain is left alone. -/
  | unfolded (table chain failure : String)
  /-- A table is done. -/
  | tableDone (family : Family) (table : String) (runs : Nat)
  /-- A configuration was read from a file. -/
  | configLoaded (maxShapes : Nat) (audit : Bool) (name : String)
  deriving DecidableEq

namespace Diagnostic

/-- The level of a diagnostic. -/
def level : Diagnostic → Level
  | laidOut .. | noSelector .. | setAmongSelectors .. | candidate .. | unopened ..
  | offloaded .. | configLoaded .. => .debug
  | tableDone .. => .info
  | reportLost .. | overCapacity .. | unfolded .. => .warn

/-- The message of a diagnostic. -/
def message : Diagnostic → String
  | laidOut chain rules shapes => s!"Chain {chain}: {rules} rules, {shapes} statement shapes"
  | noSelector first last => s!"Rules {first}..={last} have no selector to merge"
  | setAmongSelectors rule =>
    s!"Rule {rule} matches a set on one of several selectors; not merging it"
  | candidate first last selectors =>
    s!"Merge candidate: rules {first}..={last} on {selectors} selector(s)"
  | unopened name failure => "Cannot reopen " ++ name ++ ": " ++ failure.message
  | reportLost chain failure => s!"Failed to write merge audit for chain {chain}: {failure}"
  | offloaded table chain => s!"Skipping offloaded chain {table} {chain}"
  | overCapacity table chain max =>
    s!"Not optimizing chain {table} {chain}: more than {max} distinct statement shapes"
  | unfolded table chain failure => s!"Not optimizing chain {table} {chain}: {failure}"
  | tableDone family table runs =>
    "Table " ++ Keyword.text family ++ s!" {table}: merged {runs} rule run(s)"
  | configLoaded maxShapes audit name =>
    s!"Loaded optimizer config OptimizerConfig \x7b max_shapes: {maxShapes}, audit: {audit} \x7d" ++
      " from " ++ name

end Diagnostic

end Rulefold
