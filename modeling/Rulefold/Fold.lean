import Rulefold.Checked
import Rulefold.Segment

/-!
# Folding a run

A run is folded into its first rule. With one selector the rule is made to test a set of all the
values; sets among the values are opened first. With several selectors it is made to test their
concatenation against a set of tuples, one from each rule. A set never has two elements of one
key; of those that would clash the first stays.

This is what a run leaves. `Cells.merge` folds it in the list of rules that it stands in; by
`Grid.merge_eq_ok` the rule in its first place is this one.
-/

namespace Rulefold

namespace Expr

/-- The key of an element of a set, with or without its wrapping. -/
def key : Expr → Expr
  | element key => key
  | expr => expr

/-- The elements that a tested value brings to a set: those of an anonymous set, or the value
itself, wrapped. -/
def members (value : Expr) : List Expr :=
  match value.anonymousElements? with
  | some elements => elements
  | none => [element value]

/-- Keeps the first of the elements that have one key. -/
def distinct : List Expr → List Expr
  | [] => []
  | first :: rest => first :: (distinct rest).filter fun other => other.key != first.key

/-- The elements that are kept stay in order. -/
theorem distinct_sublist (elements : List Expr) : (distinct elements).Sublist elements := by
  induction elements with
  | nil => exact .slnil
  | cons first rest ih => exact (List.filter_sublist.trans ih).cons_cons first

/-- No two elements that are kept have one key. -/
theorem pairwise_key_distinct (elements : List Expr) :
    (distinct elements).Pairwise fun first second => first.key ≠ second.key := by
  induction elements with
  | nil => exact .nil
  | cons first rest ih =>
    refine List.pairwise_cons.2 ⟨fun other member => ?_, ih.filter _⟩
    have keysDiffer := (List.mem_filter.1 member).2
    exact fun sameKey => by simp [sameKey] at keysDiffer

/-- No key is lost. -/
theorem exists_mem_distinct_key {elements : List Expr} {expr : Expr} (member : expr ∈ elements) :
    ∃ kept ∈ distinct elements, kept.key = expr.key := by
  induction elements with
  | nil => cases member
  | cons first rest ih =>
    by_cases sameKey : expr.key = first.key
    · exact ⟨first, by simp [distinct], sameKey.symm⟩
    · have inRest : expr ∈ rest := by
        rcases List.mem_cons.1 member with rfl | inRest
        · exact absurd rfl sameKey
        · exact inRest
      obtain ⟨kept, keptMember, keptKey⟩ := ih inRest
      refine ⟨kept, List.mem_cons_of_mem _ (List.mem_filter.2 ⟨keptMember, ?_⟩), keptKey⟩
      simpa [keptKey] using sameKey

theorem exists_mem_distinct_iff {elements : List Expr} {property : Expr → Prop} :
    (∃ element ∈ distinct elements, property element.key) ↔
      ∃ element ∈ elements, property element.key := by
  constructor
  · intro found
    rcases found with ⟨element, member, holds⟩
    exact ⟨element, (distinct_sublist elements).subset member, holds⟩
  · intro found
    rcases found with ⟨element, member, holds⟩
    rcases exists_mem_distinct_key member with ⟨kept, keptMember, sameKey⟩
    exact ⟨kept, keptMember, sameKey ▸ holds⟩

end Expr

/-- The match of a row in a column that is to be gathered. -/
def Row.test (row : Row) (column : Nat) : Except Fault Match :=
  match row.match? column with
  | some test => .ok test
  | none => .error (.notAMatch row.index column)

/-- The matches of a row in several columns, in the order of the columns. -/
def Row.tests (row : Row) (columns : List Nat) : Except Fault (List Match) :=
  columns.mapM row.test

namespace Match

/-- What several matches of one rule test together. -/
def joinedSubject : List Match → Expr
  | [test] => test.left
  | tests => .concat (tests.map Match.left)

/-- What several matches of one rule bring to the set that they are folded into. -/
def joinedMembers : List Match → List Expr
  | [test] => test.right.members
  | tests => [.element (.concat (tests.map Match.right))]

theorem joinedSubject_eq {tests : List Match} (several : tests.length ≠ 1) :
    joinedSubject tests = .concat (tests.map left) := by
  match tests with
  | [] => rfl
  | [test] => exact absurd rfl several
  | _ :: _ :: _ => rfl

theorem joinedMembers_eq {tests : List Match} (several : tests.length ≠ 1) :
    joinedMembers tests = [.element (.concat (tests.map right))] := by
  match tests with
  | [] => rfl
  | [test] => exact absurd rfl several
  | _ :: _ :: _ => rfl

/-- The flags of the set that a number of selectors is tested against. -/
def gatheredFlags (selectors : Nat) : Flags SetFlag :=
  if selectors = 1 then .ofList [.anonymous, .constant]
  else .ofList [.anonymous, .constant, .concat]

/-- The match that stands for the matches of all rules: those of the first rule, and then those
of each of the others. -/
def gather (first : List Match) (others : List (List Match)) : Match where
  op := .eq
  left := joinedSubject first
  right := .set (gatheredFlags first.length)
    (Expr.distinct ((first :: others).flatMap joinedMembers))

end Match

/-- The statements of a row after folding: the gathered match takes the place of the first
selector, and the other selectors go. -/
def Row.foldedStatements (row : Row) (gathered : Match) (anchor : Nat) (others : List Nat) :
    List Statement :=
  (row.rule.statements.zip row.columns).filterMap fun (statement, column) =>
    if column = anchor then some (.matching gathered)
    else if column ∈ others then none
    else some statement

/-- Folds a run into its first rule, which keeps its place and its handle. -/
def Run.fold (run : Run) : Except Fault Rule :=
  match run.rows, run.selectors with
  | first :: second :: rest, anchor :: others => do
    let firstTests ← first.tests run.selectors
    let otherTests ← (second :: rest).mapM (·.tests run.selectors)
    let gathered := Match.gather firstTests otherTests
    return { first.rule with
      statements := first.foldedStatements gathered anchor others }
  | rows, selectors => .error (.degenerate rows.length selectors.length)

/-- The rule that a segment leaves. -/
def Segment.survivor : Segment → Except Fault Rule
  | kept row => .ok row.rule
  | merged run => run.fold

end Rulefold
