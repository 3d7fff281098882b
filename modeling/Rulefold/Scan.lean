import Rulefold.Cells
import Rulefold.Diagnostic

/-!
# Scanning for runs

The rules of a chain are scanned once, from the first to the last. A stretch of alike rules grows as
long as the next rule is alike to its first. When it ends, it is a run to be folded if it has two
rules and a selector; one with several selectors is cut at the rules that test a set.
-/

namespace Rulefold

/-- A run of adjacent rules to be folded, by their indices. -/
structure Span where
  first : Nat
  /-- The number of rules. -/
  count : Nat
  /-- The columns of the selectors, in order. -/
  selectors : List Nat
  deriving DecidableEq

/-- The index of the last rule. -/
def Span.last (span : Span) : Except Fault Nat := Checked.sub (span.first + span.count) 1

/-- The diagnostic that announces a run. -/
def Span.candidate (span : Span) : Except Fault Diagnostic :=
  return .candidate span.first (← span.last) span.selectors.length

/-- What a scan comes upon. -/
inductive Finding where
  /-- Something that is worth telling. -/
  | remark (diagnostic : Diagnostic)
  /-- A run. -/
  | run (span : Span)
  deriving DecidableEq

namespace Finding

/-- The diagnostic of a finding. -/
def remark? : Finding → Option Diagnostic
  | remark diagnostic => some diagnostic
  | run _ => none

/-- The run of a finding. -/
def span? : Finding → Option Span
  | remark _ => none
  | run span => some span

/-- Rules from one index up to before another are a run if they are two or more. -/
def ofBounds (selectors : List Nat) (first stop : Nat) : Except Fault (List Finding) := do
  let count ← Checked.sub stop first
  return if 2 ≤ count then [.run { first, count, selectors }] else []

end Finding

namespace Cells

variable (cells : Cells) (rules : List Rule)

/-- The columns of the selectors of a rule. -/
def selectors (columns : Columns) (rule : Nat) : Except Fault (List Nat) :=
  (List.range columns.length).filterMapM fun column => do
    if (← cells.place? rule column).isSome then
      return if (← Checked.get columns column).any Shape.isSelector then some column else none
    else return none

/-- Cuts a stretch at the rules that test a set. The rules from `first` on are not cut off yet, and
those from `index` on are still to be looked at; their number goes down. -/
def cutAtSets (selectors : List Nat) (first index : Nat) : Nat → Except Fault (List Finding)
  | 0 => Finding.ofBounds selectors first index
  | ahead + 1 => do
    if ← selectors.anyM fun column => return (← cells.test rules index column).right.isSet then
      return .remark (.setAmongSelectors index) :: (← Finding.ofBounds selectors first index) ++
        (← cutAtSets selectors (index + 1) (index + 1) ahead)
    else cutAtSets selectors first (index + 1) ahead

/-- What there is in a stretch of alike rules from one index up to before another. -/
def scanStretch (columns : Columns) (first stop : Nat) : Except Fault (List Finding) := do
  let count ← Checked.sub stop first
  if count < 2 then return []
  else
    match ← cells.selectors columns first with
    | [] => return [.remark (.noSelector first (← Checked.sub stop 1))]
    | [column] => return [.run { first, count, selectors := [column] }]
    | selectors => cells.cutAtSets rules selectors first first count

/-- Scans on when the rules from `first` up to before `stop` are alike. The number of rules that
are still to be looked at goes down. -/
def scanFrom (columns : Columns) (first stop : Nat) : Nat → Except Fault (List Finding)
  | 0 => cells.scanStretch rules columns first stop
  | ahead + 1 => do
    if ← cells.alike rules first stop then scanFrom columns first (stop + 1) ahead
    else return (← cells.scanStretch rules columns first stop) ++
      (← scanFrom columns stop (stop + 1) ahead)

/-- Scans all rules. -/
def scan (columns : Columns) : Except Fault (List Finding) :=
  match rules.length with
  | 0 => return []
  | ahead + 1 => cells.scanFrom rules columns 0 1 ahead

end Cells

end Rulefold
