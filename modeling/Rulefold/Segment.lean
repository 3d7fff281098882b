import Rulefold.Diagnostic
import Rulefold.Grid

/-!
# Segments of a chain

A chain falls into segments, each of which leaves one rule: a rule that is kept, or a run of
adjacent alike rules that are folded into the first. Runs are as long as they can be. A stretch of
alike rules without a selector has nothing to fold. A set cannot be part of a tuple, so among
rules with several selectors one that tests a set is kept, and cuts its stretch.

This is what there is to be folded. `Cells.scan` finds the runs without taking the chain apart; by
`Grid.scan_eq_ok` and `Grid.span?_findings` they are the same.
-/

namespace Rulefold

/-- A run of adjacent rules to be folded. -/
structure Run where
  /-- The rules, at least two. -/
  rows : List Row
  /-- The columns of the selectors whose values are gathered, at least one. -/
  selectors : List Nat
  deriving DecidableEq

/-- A part of a chain that leaves one rule. -/
inductive Segment where
  /-- A rule that stays as it is. -/
  | kept (row : Row)
  /-- A run that is folded. -/
  | merged (run : Run)
  deriving DecidableEq

/-- The index of the first of some rows; zero if there are none. -/
def Row.firstIndex (rows : List Row) : Nat := (rows.head?.map Row.index).getD 0

/-- The index of the last of some rows; zero if there are none. -/
def Row.lastIndex (rows : List Row) : Nat := (rows.getLast?.map Row.index).getD 0

/-- Says whether a row tests a set, of any flags, in one of the given columns. -/
def Row.testsSet (row : Row) (selectors : List Nat) : Bool :=
  selectors.any fun column =>
    match row.match? column with
    | some test => test.right.isSet
    | none => false

/-- The diagnostic that announces a run. -/
def Run.candidate (run : Run) : Diagnostic :=
  .candidate (Row.firstIndex run.rows) (Row.lastIndex run.rows) run.selectors.length

namespace Segment

/-- The rows of a segment. -/
def rows : Segment → List Row
  | kept row => [row]
  | merged run => run.rows

/-- The run of a segment, unless its rule is kept. -/
def run? : Segment → Option Run
  | kept _ => none
  | merged run => some run

/-- Rows that belong together are a run if they are two or more. -/
def ofRows (selectors : List Nat) (rows : List Row) : List Segment :=
  if rows.length < 2 then rows.map kept else [merged { rows, selectors }]

/-- Nothing is lost when rows become segments. -/
theorem flatMap_rows_ofRows (selectors : List Nat) (rows : List Row) :
    (ofRows selectors rows).flatMap Segment.rows = rows := by
  unfold ofRows
  split
  · simp [List.flatMap_map, Segment.rows]
  · simp [Segment.rows]

end Segment

namespace Grid

/-- The longest stretches of rows in which each is alike to the next. -/
def stretches (grid : Grid) : List (List Row) := grid.rows.splitBy Row.alike

/-- The selectors that the rows of a stretch have in common: those of the first. -/
def sharedSelectors (grid : Grid) (stretch : List Row) : List Nat :=
  match stretch with
  | [] => []
  | row :: _ => grid.selectors row

/-- Cuts a stretch into segments. A lone row is kept. -/
def segmentsOf (grid : Grid) (stretch : List Row) : List Segment :=
  if stretch.length < 2 then stretch.map .kept
  else
    match grid.sharedSelectors stretch with
    | [] => stretch.map .kept
    | [column] => Segment.ofRows [column] stretch
    | columns =>
      (stretch.splitBy fun first second =>
        !first.testsSet columns && !second.testsSet columns).flatMap (Segment.ofRows columns)

/-- The segments of the chain, in order. -/
def segments (grid : Grid) : List Segment := grid.stretches.flatMap grid.segmentsOf

/-- The runs of the chain, in order. -/
def runs (grid : Grid) : List Run := grid.segments.filterMap Segment.run?

/-- What is to be said on a stretch: why alike rules are not folded. -/
def remarksOn (grid : Grid) (stretch : List Row) : List Diagnostic :=
  if stretch.length < 2 then []
  else
    match grid.sharedSelectors stretch with
    | [] => [.noSelector (Row.firstIndex stretch) (Row.lastIndex stretch)]
    | [_] => []
    | columns =>
      (stretch.filter (·.testsSet columns)).map fun row => .setAmongSelectors row.index

/-- What is to be said on the runs of the chain, and on the alike rules that are in none. -/
def remarks (grid : Grid) : List Diagnostic :=
  grid.stretches.flatMap grid.remarksOn ++ grid.runs.map Run.candidate

end Grid

end Rulefold
