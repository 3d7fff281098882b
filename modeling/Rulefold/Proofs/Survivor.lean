import Rulefold.Fold
import Rulefold.Proofs.Checked
import Rulefold.Proofs.Runs

/-!
# What a run leaves

Folding a proper run never fails. The survivor is the first rule of the run with one match in the
place of its first selector; its other matches go and its actions stay, in order.
-/

namespace Rulefold

/-- Says whether a statement is anything but a match. -/
def Statement.isAction (statement : Statement) : Bool := statement.match?.isNone

theorem Statement.isAction_eq_false_iff {statement : Statement} :
    statement.isAction = false ↔ ∃ test, statement = .matching test := by
  cases statement <;> simp [isAction, match?]

namespace Row

variable {grid : Grid} {row : Row}

theorem filterMap_eq_filter_isAction (gathered : Match) {anchor : Nat} {others : List Nat} :
    ∀ {entries : List (Statement × Nat)},
      (∀ entry ∈ entries, entry.2 ≠ anchor ∧ (entry.2 ∈ others ↔ entry.1.isAction = false)) →
      entries.filterMap (fun (statement, column) =>
        if column = anchor then some (.matching gathered)
        else if column ∈ others then none
        else some statement) = (entries.map Prod.fst).filter Statement.isAction
  | [], _ => rfl
  | (statement, column) :: rest, apart => by
      rw [List.forall_mem_cons] at apart
      have tail := filterMap_eq_filter_isAction gathered apart.2
      cases action : statement.isAction <;> simp_all

theorem mem_others_iff (sound : grid.Sound) (inGrid : row ∈ grid.rows) (plain : row.rule.Plain)
    {anchor : Nat} {others : List Nat} (selectors : grid.selectors row = anchor :: others)
    {statement : Statement} {column : Nat}
    (member : (statement, column) ∈ row.rule.statements.zip row.columns)
    (apart : column ≠ anchor) : column ∈ others ↔ statement.isAction = false := by
  rcases getElem?_of_mem_zip (sound.holds row inGrid) member with ⟨inRule, -, placed⟩
  have inSelectors : column ∈ others ↔ column ∈ grid.selectors row := by
    simp [selectors, apart]
  rw [inSelectors, Grid.mem_selectors_iff_of_plain sound inGrid plain,
    Statement.isAction_eq_false_iff]
  simp only [Grid.field?_eq_some_iff, placed, Option.some_inj]
  constructor
  · rintro ⟨field, shaped, -⟩
    rcases Statement.shape?_eq_selector_iff.mp shaped with ⟨value, rfl⟩
    exact ⟨_, rfl⟩
  · rintro ⟨test, rfl⟩
    rcases Statement.exists_field_of_matching (plain.shape?_ne_none inRule) with ⟨field, shaped⟩
    exact ⟨field, shaped, shaped ▸ List.mem_map_of_mem inRule⟩

/-- Folding puts the gathered match in the place of the first selector and leaves the actions. -/
theorem foldedStatements_split (sound : grid.Sound) (inGrid : row ∈ grid.rows)
    (plain : row.rule.Plain) {anchor : Nat} {others : List Nat}
    (selectors : grid.selectors row = anchor :: others) (gathered : Match) :
    ∃ before test after, row.match? anchor = some test ∧
      row.rule.statements = before ++ .matching test :: after ∧
      row.foldedStatements gathered anchor others =
        before.filter Statement.isAction ++
          .matching gathered :: after.filter Statement.isAction := by
  have holds := sound.holds row inGrid
  have noBarrier := (isBarrier_eq_false_iff sound.distinct holds plain.shaped).mpr plain.nodup
  have nodup := nodup_columns_of_not_isBarrier noBarrier
  have isSelector : anchor ∈ grid.selectors row := by
    simp [selectors]
  rcases exists_match?_of_mem_selectors sound inGrid plain isSelector with
    ⟨field, test, -, found, -⟩
  rcases Option.bind_eq_some_iff.mp found with ⟨statement, placed, isMatch⟩
  rcases Statement.match?_eq_some_iff.mp isMatch with rfl
  rcases List.append_of_mem (mem_zip_of_statement? placed) with ⟨before, after, split⟩
  have statements : row.rule.statements = (row.rule.statements.zip row.columns).map Prod.fst :=
    (List.map_fst_zip (by rw [holds.length_eq])).symm
  have columns : row.columns = (row.rule.statements.zip row.columns).map Prod.snd :=
    (List.map_snd_zip (by rw [holds.length_eq])).symm
  rw [columns, split, List.map_append, List.map_cons, List.nodup_append, List.nodup_cons] at nodup
  rcases nodup with ⟨-, ⟨notAfter, -⟩, notBefore⟩
  refine ⟨before.map Prod.fst, test, after.map Prod.fst, found, ?_, ?_⟩
  · rw [statements, split, List.map_append, List.map_cons]
  · rw [foldedStatements, split, List.filterMap_append, List.filterMap_cons]
    simp only [↓reduceIte]
    rw [filterMap_eq_filter_isAction, filterMap_eq_filter_isAction]
    · intro entry member
      have apart : entry.2 ≠ anchor := by
        rintro same
        exact notAfter (List.mem_map.mpr ⟨entry, member, same⟩)
      exact ⟨apart, mem_others_iff sound inGrid plain selectors
        (by rw [split]; simp [member]) apart⟩
    · intro entry member
      have apart : entry.2 ≠ anchor :=
        notBefore entry.2 (List.mem_map_of_mem member) anchor (by simp)
      exact ⟨apart, mem_others_iff sound inGrid plain selectors
        (by rw [split]; simp [member]) apart⟩

end Row

namespace Run

/-- The tests of the rules of a run, a list for each, in the order of the selectors. -/
def tables (run : Run) : List (List Match) := run.rows.map fun row => row.testList run.selectors

/-- The match that the survivor of a run tests. -/
def gathered (run : Run) : Match := Match.gather (run.tables.headD []) run.tables.tail

theorem gathered_eq {run : Run} {first : Row} {rest : List Row} (rows : run.rows = first :: rest) :
    run.gathered = Match.gather (first.testList run.selectors)
      (rest.map fun row => row.testList run.selectors) := by
  rw [gathered, tables, rows, List.map_cons, List.headD_cons, List.tail_cons]

namespace Proper

variable {grid : Grid} {run : Run}

theorem tests_eq_ok (proper : run.Proper grid) (sound : grid.Sound) {row : Row}
    (member : row ∈ run.rows) : row.tests run.selectors = .ok (row.testList run.selectors) :=
  Row.tests_eq_ok sound (proper.mem_grid row member) (proper.plain member)
    (proper.selectors_subset member)

theorem perm_testList (proper : run.Proper grid) (sound : grid.Sound) {row : Row}
    (member : row ∈ run.rows) : (row.testList run.selectors).Perm row.rule.tests := by
  rw [← proper.selectors_eq row member]
  exact Row.perm_testList_selectors sound (proper.mem_grid row member) (proper.plain member)

theorem length_testList (proper : run.Proper grid) (sound : grid.Sound) {row : Row}
    (member : row ∈ run.rows) : (row.testList run.selectors).length = run.selectors.length := by
  rw [(proper.perm_testList sound member).length_eq, proper.length_tests sound member]

/-- The gathered match tests for a set of what the rules bring, without duplicates. -/
theorem gathered_right (proper : run.Proper grid) (sound : grid.Sound) : run.gathered.right =
    .set (Match.gatheredFlags run.selectors.length) (Expr.distinct
      (run.rows.flatMap fun row => Match.joinedMembers (row.testList run.selectors))) := by
  rcases proper.exists_first with ⟨first, rest, rows⟩
  rw [gathered_eq rows, Match.gather, proper.length_testList sound (by simp [rows]), rows,
    List.flatMap_cons, List.flatMap_cons, List.flatMap_map]

/-- With several selectors a set of tuples is gathered, one from each rule. -/
theorem gathered_eq_of_several (proper : run.Proper grid) (sound : grid.Sound)
    (several : run.selectors.length ≠ 1) {first : Row} {rest : List Row}
    (rows : run.rows = first :: rest) : run.gathered =
      { op := .eq
        left := .concat ((first.testList run.selectors).map Match.left)
        right := .set (.ofList [.anonymous, .constant, .concat]) (Expr.distinct (run.rows.map
          fun row => .element (.concat ((row.testList run.selectors).map Match.right)))) } := by
  have severalTests : ∀ row ∈ run.rows, (row.testList run.selectors).length ≠ 1 := by
    intro row member
    rwa [proper.length_testList sound member]
  have right := proper.gathered_right sound
  rw [List.flatMap_congr fun row member => Match.joinedMembers_eq (severalTests row member),
    ← List.map_eq_flatMap, Match.gatheredFlags, if_neg several] at right
  have left : run.gathered.left = .concat ((first.testList run.selectors).map Match.left) := by
    rw [gathered_eq rows, Match.gather,
      Match.joinedSubject_eq (severalTests first (by simp [rows]))]
  rw [← left, ← right, gathered_eq rows]
  rfl

theorem fold_eq (proper : run.Proper grid) (sound : grid.Sound) {first : Row} {rest : List Row}
    (rows : run.rows = first :: rest) {anchor : Nat} {others : List Nat}
    (selectors : run.selectors = anchor :: others) :
    run.fold = .ok { first.rule with
      statements := first.foldedStatements run.gathered anchor others } := by
  have two_le := proper.two_le
  rw [rows] at two_le
  match rest, two_le with
  | second :: rest, _ =>
      have firstMember : first ∈ run.rows := by
        simp [rows]
      have firstTests := proper.tests_eq_ok sound firstMember
      have otherTests : (second :: rest).mapM (·.tests run.selectors) =
          .ok ((second :: rest).map (·.testList run.selectors)) := by
        rw [mapM_eq_ok_iff, List.forall₂_map_right_iff, List.forall₂_same]
        intro row member
        exact proper.tests_eq_ok sound (rows ▸ List.mem_cons_of_mem first member)
      unfold fold
      split
      · rename_i rowsHere selectorsHere
        rw [rows] at rowsHere
        rw [selectors] at selectorsHere
        cases rowsHere
        cases selectorsHere
        rw [firstTests, otherTests]
        simp [bind, Except.bind, pure, Except.pure, gathered, tables, rows]
      · rename_i apart
        exact absurd selectors (apart first second rest anchor others rows)

/-- The survivor of a run is its first rule, with the gathered match in the place of the first
selector and without the other matches. -/
theorem split (proper : run.Proper grid) (sound : grid.Sound) {survivor : Rule}
    (folds : run.fold = .ok survivor) :
    ∃ first rest before test tests after, run.rows = first :: rest ∧
      first.testList run.selectors = test :: tests ∧
      first.rule.statements = before ++ .matching test :: after ∧
      survivor = { first.rule with
        statements := before.filter Statement.isAction ++
          .matching run.gathered :: after.filter Statement.isAction } := by
  rcases proper.exists_first with ⟨first, rest, rows⟩
  rcases List.exists_cons_of_ne_nil proper.selectors_ne_nil with ⟨anchor, others, selectors⟩
  have member : first ∈ run.rows := by simp [rows]
  have shared := proper.selectors_eq first member
  rw [selectors] at shared
  rcases Row.foldedStatements_split sound (proper.mem_grid first member) (proper.plain member)
    shared run.gathered with ⟨before, test, after, found, statements, folded⟩
  rw [proper.fold_eq sound rows selectors, Except.ok.injEq, folded] at folds
  refine ⟨first, rest, before, test, first.testList others, after, rows, ?_, statements,
    folds.symm⟩
  rw [selectors, Row.testList, List.filterMap_cons_some found, Row.testList]

theorem exists_survivor (proper : run.Proper grid) (sound : grid.Sound) :
    ∃ survivor, run.fold = .ok survivor := by
  rcases proper.exists_first with ⟨first, rest, rows⟩
  rcases List.exists_cons_of_ne_nil proper.selectors_ne_nil with ⟨anchor, others, selectors⟩
  exact ⟨_, proper.fold_eq sound rows selectors⟩

/-- The survivor of a run tests the gathered match and nothing else. -/
theorem tests_survivor (proper : run.Proper grid) (sound : grid.Sound) {survivor : Rule}
    (folds : run.fold = .ok survivor) : survivor.tests = [run.gathered] := by
  rcases proper.split sound folds with ⟨first, rest, before, test, tests, after, -, -, -, rfl⟩
  have actions : ∀ statements : List Statement,
      (statements.filter Statement.isAction).filterMap Statement.match? = [] := by
    intro statements
    rw [List.filterMap_eq_nil_iff]
    intro statement member
    exact Option.isNone_iff_eq_none.mp (List.mem_filter.mp member).2
  simp [Rule.tests, actions, Statement.match?]

end Proper

end Run

namespace Grid

variable {grid : Grid}

theorem exists_survivors (sound : grid.Sound) :
    ∃ survivors, grid.segments.mapM Segment.survivor = .ok survivors := by
  have each : ∀ segment ∈ grid.segments, ∃ survivor, segment.survivor = .ok survivor := by
    intro segment member
    cases segment with
    | kept row => exact ⟨row.rule, rfl⟩
    | merged run => exact (proper_of_mem_segments sound member).exists_survivor sound
  generalize grid.segments = segments at each
  induction segments with
  | nil => exact ⟨[], rfl⟩
  | cons segment rest ih =>
      rw [List.forall_mem_cons] at each
      rcases each.1 with ⟨survivor, here⟩
      rcases ih each.2 with ⟨survivors, there⟩
      exact ⟨survivor :: survivors, mapM_eq_ok_iff.mpr (.cons here (mapM_eq_ok_iff.mp there))⟩

end Grid

end Rulefold
