import Rulefold.Ruleset
import Rulefold.Shape

/-!
# The grid of a chain

A chain is laid out on a grid: a row for each rule, and a column for each pattern, in the order in
which the patterns are first met. A statement whose pattern is not even the same as itself has a
column to itself. Rows are compared column by column, so the order of the statements within a rule
does not count. A rule with two statements in one column is a barrier, and alike to no other.
-/

namespace Rulefold

/-- The patterns that are met so far, in the order in which they are first met. -/
abbrev Registry := List Pattern

/-- The shapes of the columns; a column that a shapeless statement has to itself holds `none`. -/
abbrev Columns := List (Option Shape)

namespace Registry

/-- The first column with the same pattern. -/
def column? (registry : Registry) (pattern : Pattern) : Option Nat :=
  registry.findIdx? (·.same pattern)

/-- Finds the column for a pattern, and adds one if there is none. There is no answer if that would
make more columns than allowed. -/
def place (max : Nat) (registry : Registry) (pattern : Pattern) : Option (Registry × Nat) :=
  match registry.column? pattern with
  | some column => some (registry, column)
  | none =>
    if max ≤ registry.length then none else some (registry ++ [pattern], registry.length)

/-- Finds the columns for the statements of a rule, in their order, or gives up at the first
statement that has none. -/
def placeAll (max : Nat) (registry : Registry) : List Statement → Option (Registry × List Nat)
  | [] => some (registry, [])
  | statement :: rest => do
    let (registry, column) ← registry.place max statement.pattern
    let (registry, others) ← placeAll max registry rest
    pure (registry, column :: others)

/-- The shapes of the columns. -/
def columns (registry : Registry) : Columns := registry.map Pattern.shape?

end Registry

/-- A rule on the grid. -/
structure Row where
  /-- The place of the rule in its chain. -/
  index : Nat
  rule : Rule
  /-- The column of each statement of the rule. -/
  columns : List Nat
  deriving DecidableEq

namespace Row

/-- Says whether two statements of the rule share a column. -/
def isBarrier (row : Row) : Bool := !decide row.columns.Nodup

/-- The place, among the statements of the rule, of the last one in a column. -/
def cell? (row : Row) (column : Nat) : Option Nat :=
  ((row.columns.zipIdx.filter (·.1 == column)).getLast?).map (·.2)

/-- The statement of the rule in a column. -/
def statement? (row : Row) (column : Nat) : Option Statement :=
  (row.cell? column).bind fun place => row.rule.statements[place]?

/-- The match of the rule in a column. -/
def match? (row : Row) (column : Nat) : Option Match :=
  (row.statement? column).bind Statement.match?

/-- Says whether two rows have statements of one shape in the same columns. Columns in which
neither has a statement need no comparison. -/
def alike (first second : Row) : Bool :=
  !first.isBarrier && !second.isBarrier &&
    (first.columns ++ second.columns).all fun column =>
      Statement.alike (first.statement? column) (second.statement? column)

end Row

/-- The rules of a chain, laid out by the shapes of their statements. -/
structure Grid where
  columns : Columns
  rows : List Row

namespace Grid

/-- Lays out rules below columns that are already there, counting from an index, or gives up at the
first statement that has none. -/
def layOutWithin (max : Nat) (registry : Registry) (index : Nat) :
    List Rule → Option (Registry × List Row)
  | [] => some (registry, [])
  | rule :: rest => do
    let (registry, own) ← registry.placeAll max rule.statements
    let (registry, rows) ← layOutWithin max registry (index + 1) rest
    pure (registry, { index, rule, columns := own } :: rows)

/-- The grid of a list of rules, if it needs no more than a number of columns. -/
def ofRulesWithin (max : Nat) (rules : List Rule) : Option Grid :=
  (layOutWithin max [] 0 rules).map fun (registry, rows) => { columns := registry.columns, rows }

/-- The number of columns. -/
def width (grid : Grid) : Nat := grid.columns.length

/-- Says whether the values in a column can be gathered in a set. -/
def isSelector (grid : Grid) (column : Nat) : Bool :=
  match grid.columns[column]? with
  | some (some shape) => shape.isSelector
  | _ => false

/-- The columns of the selectors of a row, in the order of the columns. -/
def selectors (grid : Grid) (row : Row) : List Nat :=
  (List.range grid.width).filter fun column =>
    (row.cell? column).isSome && grid.isSelector column

end Grid

end Rulefold
