import Rulefold.Fold
import Rulefold.Scan

/-!
# Rewriting rules in their places

A run is folded in the list of rules that it stands in. Its first rule is changed, by way of the
places that the table holds, and the other rules stay until all runs are folded.
-/

namespace Rulefold

namespace Expr

/-- Adds an element to the end of a set, unless the set has its key already. -/
def adjoin (elements : List Expr) (element : Expr) : List Expr :=
  if elements.any fun other => other.key == element.key then elements else elements ++ [element]

end Expr

/-- Numbers in descending order. -/
def descending : List Nat → List Nat
  | [] => []
  | number :: rest => insert number (descending rest)
where
  /-- Inserts a number before the first that is no greater. -/
  insert (number : Nat) : List Nat → List Nat
    | [] => [number]
    | first :: rest =>
      if first ≤ number then number :: first :: rest else first :: insert number rest

/-- The indices of the rules of a run, up to a given last one. -/
def Span.indices (span : Span) (last : Nat) : List Nat :=
  List.range' span.first (last + 1 - span.first)

/-- The run at some indices of a grid. -/
def Grid.runOf (grid : Grid) (span : Span) : Run where
  rows := (grid.rows.drop span.first).take span.count
  selectors := span.selectors

namespace Cells

variable (cells : Cells) (rules : List Rule)

/-- Changes the match of a rule in a column. -/
def changeTest (rule column : Nat) (change : Match → Match) : Except Fault (List Rule) := do
  match ← cells.place? rule column with
  | none => throw (.notAMatch rule column)
  | some place =>
    let changed ← Checked.get rules rule
    match (← Checked.get changed.statements place).match? with
    | none => throw (.notAMatch rule column)
    | some test =>
      let statements ← Checked.set changed.statements place (.matching (change test))
      Checked.set rules rule { changed with statements }

/-- Makes the first rule of a run test a set of the values that its rules test for. -/
def fuse (span : Span) (column : Nat) : Except Fault (List Rule) := do
  let last ← span.last
  let elements ← (span.indices last).foldlM (fun elements rule => do
    return (← cells.test rules rule column).right.members.foldl Expr.adjoin elements) []
  cells.changeTest rules span.first column fun test =>
    { test with right := .set (.ofList [.anonymous, .constant]) elements }

/-- Makes the first rule of a run test a concatenation against a set of tuples, in the place of its
first selector, and takes its other selectors away. -/
def join (span : Span) (anchor : Nat) (others : List Nat) : Except Fault (List Rule) := do
  let subjects ← span.selectors.mapM fun column =>
    return (← cells.test rules span.first column).left
  let last ← span.last
  let elements ← (span.indices last).foldlM (fun elements rule => do
    let values ← span.selectors.mapM fun column => return (← cells.test rules rule column).right
    return Expr.adjoin elements (.element (.concat values))) []
  let rules ← cells.changeTest rules span.first anchor fun test =>
    { test with
      left := .concat subjects
      right := .set (.ofList [.anonymous, .constant, .concat]) elements }
  let redundant ← others.mapM (cells.place? span.first)
  let survivor ← Checked.get rules span.first
  let statements ← (descending (redundant.filterMap id)).foldlM Checked.erase survivor.statements
  Checked.set rules span.first { survivor with statements }

/-- Folds a run into its first rule. The others stay for now. -/
def merge (span : Span) : Except Fault (List Rule) :=
  if span.count < 2 then .error (.degenerate span.count span.selectors.length)
  else
    match span.selectors with
    | [] => .error (.degenerate span.count 0)
    | [column] => cells.fuse rules span column
    | anchor :: others => cells.join rules span anchor others

end Cells

end Rulefold
