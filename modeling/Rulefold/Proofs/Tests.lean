import Mathlib.Data.List.Forall2
import Rulefold.Fold
import Rulefold.Proofs.Likeness

/-!
# The tests of a row

The matches of a plain rule test distinct fields for equality. Read off the grid in the order of
its selectors they are the matches of the rule, each in the place that its field has for all rows.
-/

namespace Rulefold

/-- The match compares a field with a value for equality. -/
def Match.Tests (field : Field) (test : Match) : Prop :=
  test.op = .eq ∧ test.left = .field field

namespace Rule

theorem Plain.exists_tests {rule : Rule} (plain : rule.Plain) {test : Match}
    (member : test ∈ rule.tests) : ∃ field, test.Tests field := by
  have inRule := mem_tests_iff.mp member
  rcases Statement.exists_field_of_matching (plain.shape?_ne_none inRule) with ⟨field, shaped⟩
  rcases Statement.shape?_eq_selector_iff.mp shaped with ⟨value, isTest⟩
  refine ⟨field, ?_⟩
  injection isTest with isTest
  rw [isTest]
  exact ⟨rfl, rfl⟩

end Rule

theorem Match.Tests.shape? {field : Field} {test : Match} (tests : test.Tests field) :
    (Statement.matching test).shape? = some (.selector field) := by
  rcases test with ⟨op, left, right⟩
  rcases tests with ⟨rfl, rfl⟩
  rfl

namespace Row

/-- The matches of a row in several columns; columns without a match are passed over. -/
def testList (row : Row) (columns : List Nat) : List Match := columns.filterMap row.match?

variable {grid : Grid} {row : Row}

theorem match?_eq_some_iff (sound : grid.Sound) (inGrid : row ∈ grid.rows)
    (plain : row.rule.Plain) {column : Nat} {test : Match} :
    row.match? column = some test ↔
      test ∈ row.rule.tests ∧ ∃ field, grid.field? column = some field ∧ test.Tests field := by
  simp only [match?, Option.bind_eq_some_iff, Statement.match?_eq_some_iff,
    statement?_eq_some_iff_of_plain sound.distinct (sound.holds row inGrid) plain,
    Rule.mem_tests_iff, exists_eq_right, Grid.field?_eq_some_iff]
  apply and_congr_right
  intro member
  constructor
  · intro placed
    rcases plain.exists_tests (Rule.mem_tests_iff.mpr member) with ⟨field, tests⟩
    exact ⟨field, placed.trans (congrArg some tests.shape?), tests⟩
  · rintro ⟨field, placed, tests⟩
    exact placed.trans (congrArg some tests.shape?.symm)

theorem exists_match?_of_mem_selectors (sound : grid.Sound) (inGrid : row ∈ grid.rows)
    (plain : row.rule.Plain) {column : Nat} (member : column ∈ grid.selectors row) :
    ∃ field test, grid.field? column = some field ∧ row.match? column = some test ∧
      test.Tests field := by
  rcases Grid.mem_selectors_iff.mp member with ⟨inColumns, field, isField⟩
  rcases exists_statement?_of_mem (sound.holds row inGrid) inColumns with ⟨statement, found⟩
  have placed := ((statement?_eq_some_iff_of_plain sound.distinct (sound.holds row inGrid)
    plain).mp found).2
  rw [Grid.field?_eq_some_iff.mp isField, Option.some_inj] at placed
  rcases Statement.shape?_eq_selector_iff.mp placed.symm with ⟨value, rfl⟩
  exact ⟨field, ⟨.eq, .field field, value⟩, isField, by simp [match?, found, Statement.match?],
    rfl, rfl⟩

theorem tests_eq_ok (sound : grid.Sound) (inGrid : row ∈ grid.rows) (plain : row.rule.Plain)
    {columns : List Nat} (subset : ∀ column ∈ columns, column ∈ grid.selectors row) :
    row.tests columns = .ok (row.testList columns) := by
  induction columns with
  | nil => rfl
  | cons column rest ih =>
      rw [List.forall_mem_cons] at subset
      rcases exists_match?_of_mem_selectors sound inGrid plain subset.1 with
        ⟨field, test, -, found, -⟩
      have tail := ih subset.2
      rw [tests] at tail
      simp [tests, Row.test, testList, found, tail, bind, Except.bind, pure, Except.pure]

/-- The tests of a row in columns of its selectors test the fields of these columns, in order. -/
theorem forall₂_testList (sound : grid.Sound) (inGrid : row ∈ grid.rows)
    (plain : row.rule.Plain) {columns : List Nat}
    (subset : ∀ column ∈ columns, column ∈ grid.selectors row) :
    List.Forall₂ Match.Tests (columns.filterMap grid.field?) (row.testList columns) := by
  induction columns with
  | nil => exact .nil
  | cons column rest ih =>
      rw [List.forall_mem_cons] at subset
      rcases exists_match?_of_mem_selectors sound inGrid plain subset.1 with
        ⟨field, test, isField, found, tests⟩
      rw [testList, List.filterMap_cons_some isField, List.filterMap_cons_some found]
      exact .cons tests (ih subset.2)

theorem length_testList (sound : grid.Sound) (inGrid : row ∈ grid.rows) (plain : row.rule.Plain)
    {columns : List Nat} (subset : ∀ column ∈ columns, column ∈ grid.selectors row) :
    (row.testList columns).length = columns.length := by
  induction columns with
  | nil => rfl
  | cons column rest ih =>
      rw [List.forall_mem_cons] at subset
      rcases exists_match?_of_mem_selectors sound inGrid plain subset.1 with
        ⟨field, test, -, found, -⟩
      rw [testList, List.filterMap_cons_some found, List.length_cons, List.length_cons,
        ← ih subset.2, testList]

theorem map_statement?_columns (sound : grid.Sound) (inGrid : row ∈ grid.rows)
    (plain : row.rule.Plain) :
    row.columns.map row.statement? = row.rule.statements.map some := by
  have holds := sound.holds row inGrid
  have noBarrier := (isBarrier_eq_false_iff sound.distinct holds plain.shaped).mpr plain.nodup
  apply List.ext_getElem (by simp [holds.length_eq])
  intro place inColumns inStatements
  rw [List.length_map] at inColumns inStatements
  rw [List.getElem_map, List.getElem_map,
    statement?_eq_some_iff holds (nodup_columns_of_not_isBarrier noBarrier)]
  exact List.mem_iff_getElem?.mpr ⟨place, List.getElem?_zip_eq_some.mpr
    ⟨List.getElem?_eq_getElem inStatements, List.getElem?_eq_getElem inColumns⟩⟩

/-- Read in the order of its selectors, the tests of a plain row are the tests of its rule. -/
theorem perm_testList_selectors (sound : grid.Sound) (inGrid : row ∈ grid.rows)
    (plain : row.rule.Plain) : (row.testList (grid.selectors row)).Perm row.rule.tests := by
  have holds := sound.holds row inGrid
  have noBarrier := (isBarrier_eq_false_iff sound.distinct holds plain.shaped).mpr plain.nodup
  have nodup := nodup_columns_of_not_isBarrier noBarrier
  have inOrder : row.columns.filterMap row.match? = row.rule.tests := by
    calc
      row.columns.filterMap row.match? =
          (row.columns.map row.statement?).filterMap (·.bind Statement.match?) := by
        rw [List.filterMap_map]
        rfl
      _ = row.rule.tests := by
        rw [map_statement?_columns sound inGrid plain, List.filterMap_map]
        rfl
  have selected : (row.columns.filter grid.isSelector).Perm (grid.selectors row) := by
    rw [List.perm_ext_iff_of_nodup (nodup.filter _) Grid.nodup_selectors]
    simp [Grid.mem_selectors_iff, Grid.isSelector_iff]
  have filtered : (row.columns.filter grid.isSelector).filterMap row.match? =
      row.columns.filterMap row.match? := by
    rw [List.filterMap_filter]
    apply List.filterMap_congr
    intro column _
    split
    · rfl
    · rename_i noSelector
      cases found : row.match? column with
      | none => rfl
      | some test =>
          rcases (match?_eq_some_iff sound inGrid plain).mp found with ⟨-, field, isField, -⟩
          exact absurd (Grid.isSelector_iff.mpr ⟨field, isField⟩) noSelector
  rw [← inOrder, ← filtered]
  exact (selected.filterMap _).symm

theorem testsSet_eq_any (row : Row) (columns : List Nat) :
    row.testsSet columns = (row.testList columns).any fun test => test.right.isSet := by
  induction columns with
  | nil => rfl
  | cons column rest ih =>
      rw [testsSet] at ih
      cases found : row.match? column <;> simp [testsSet, testList, found, ih]

end Row

end Rulefold
