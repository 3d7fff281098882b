import Mathlib.Data.List.Induction
import Rulefold.Cells
import Rulefold.Proofs.Checked
import Rulefold.Proofs.Tests

/-!
# What the table of a grid holds

The table of a grid is filled without a fault, and it holds what can be read off the rows: for each
rule the last place in each column, and whether two of its statements share one. Statements are
found by way of the table in any list of rules that still has the rule in its place, whatever has
become of the other rules.
-/

namespace Rulefold

namespace Row

section Columns

variable (index : Nat) (rule : Rule) (columns : List Nat) (column : Nat)

theorem cell?_concat (other : Nat) : (Row.mk index rule (columns ++ [column])).cell? other =
    if column = other then some columns.length else (Row.mk index rule columns).cell? other := by
  simp only [cell?, List.zipIdx_append, List.filter_append, Nat.zero_add, List.zipIdx_singleton,
    List.filter_singleton]
  by_cases same : column = other
  · simp [same]
  · simp [same, beq_eq_false_iff_ne.mpr same]

theorem isBarrier_concat : (Row.mk index rule (columns ++ [column])).isBarrier =
    ((Row.mk index rule columns).isBarrier ||
      ((Row.mk index rule columns).cell? column).isSome) := by
  have isSome := @isSome_cell?_iff (Row.mk index rule columns) column
  rw [Bool.eq_iff_iff, Bool.or_eq_true, isSome]
  simp only [isBarrier, Bool.not_eq_true', decide_eq_false_iff_not, List.nodup_append,
    List.nodup_singleton]
  grind

end Columns

/-- The cells of a row, below a number of columns. -/
def cells (row : Row) (width : Nat) : List (Option Nat) := (List.range width).map row.cell?

theorem length_cells (row : Row) (width : Nat) : (row.cells width).length = width := by
  simp [cells]

theorem getElem?_cells (row : Row) {width column : Nat} (inside : column < width) :
    (row.cells width)[column]? = some (row.cell? column) := by
  simp [cells, inside]

end Row

namespace Cells

section Enter

variable {before after : List (List (Option Nat))} {flagsBefore flagsAfter : List Bool}

theorem enter_eq_ok (sameLength : flagsBefore.length = before.length) {row : List (Option Nat)}
    {column : Nat} {earlier : Option Nat} (found : row[column]? = some earlier) (barrier : Bool)
    (place : Nat) :
    enter before.length ⟨before ++ row :: after, flagsBefore ++ barrier :: flagsAfter⟩
        (column, place) =
      .ok ⟨before ++ row.set column (some place) :: after,
        flagsBefore ++ (barrier || earlier.isSome) :: flagsAfter⟩ := by
  have inside : column < row.length := (List.getElem?_eq_some_iff.mp found).1
  have isRow : (before ++ row :: after)[before.length]? = some row := by
    simp
  have marked : mark (flagsBefore ++ barrier :: flagsAfter) before.length earlier =
      .ok (flagsBefore ++ (barrier || earlier.isSome) :: flagsAfter) := by
    cases earlier with
    | none => simp [mark, pure, Except.pure]
    | some other =>
        rw [mark, Checked.set_eq_ok (by simp [sameLength]), ← sameLength]
        simp
  simp only [enter, Checked.get_eq_ok isRow, Checked.get_eq_ok found, Checked.set_eq_ok inside,
    Checked.ok_bind, marked]
  rw [Checked.set_eq_ok (by simp)]
  simp [Checked.ok_bind, pure, Except.pure]

/-- Entering all statements of a rule fills its cells. -/
theorem enterAll_eq_ok (sameLength : flagsBefore.length = before.length) {width : Nat} {row : Row}
    (inside : ∀ column ∈ row.columns, column < width) :
    enterAll ⟨before ++ List.replicate width none :: after, flagsBefore ++ false :: flagsAfter⟩
        (row.columns, before.length) =
      .ok ⟨before ++ row.cells width :: after, flagsBefore ++ row.isBarrier :: flagsAfter⟩ := by
  rcases row with ⟨index, rule, columns⟩
  rw [enterAll]
  simp only at inside ⊢
  -- The table is filled from the first statement on, so the last column is the last to be entered.
  induction columns using List.reverseRecOn with
  | nil =>
      have blank : (Row.mk index rule []).cells width = List.replicate width none := by
        rw [Row.cells, List.eq_replicate_iff]
        simp [Row.cell?]
      simp [blank, Row.isBarrier, pure, Except.pure]
  | append_singleton columns column ih =>
      simp only [List.mem_append, List.mem_singleton, or_imp, forall_and, forall_eq] at inside
      have found := (Row.mk index rule columns).getElem?_cells inside.2
      have filled : ((Row.mk index rule columns).cells width).set column (some columns.length) =
          (Row.mk index rule (columns ++ [column])).cells width := by
        apply List.ext_getElem (by simp [Row.length_cells])
        intro other _ _
        simp only [List.getElem_set, Row.cells, List.getElem_map, List.getElem_range,
          Row.cell?_concat]
      rw [List.zipIdx_append, List.foldlM_append, ih inside.1, Checked.ok_bind,
        List.zipIdx_singleton, List.foldlM_cons, Nat.zero_add,
        enter_eq_ok sameLength found, filled, Row.isBarrier_concat]
      rfl

end Enter

end Cells

namespace Grid

variable {grid : Grid}

/-- The table that the rows of a grid make up. -/
def cells (grid : Grid) : Cells where
  places := grid.rows.map fun row => row.cells grid.width
  barriers := grid.rows.map Row.isBarrier

theorem lt_width (sound : grid.Sound) {row : Row} (inGrid : row ∈ grid.rows) {column : Nat}
    (member : column ∈ row.columns) : column < grid.width := by
  rcases Row.exists_statement?_of_mem (sound.holds row inGrid) member with ⟨statement, found⟩
  have placed := Row.getElem?_of_mem_zip (sound.holds row inGrid) (Row.mem_zip_of_statement? found)
  exact (List.getElem?_eq_some_iff.mp placed.2.2).1

/-- Filling the table of a grid meets no fault. -/
theorem ofGrid_eq_ok (sound : grid.Sound) : Cells.ofGrid grid = .ok grid.cells := by
  have fill : ∀ (rows : List Row), (∀ row ∈ rows, row ∈ grid.rows) →
      ∀ (before : List (List (Option Nat))) (flagsBefore : List Bool),
        flagsBefore.length = before.length →
        ((rows.map Row.columns).zipIdx before.length).foldlM Cells.enterAll
            ⟨before ++ List.replicate rows.length (List.replicate grid.width none),
              flagsBefore ++ List.replicate rows.length false⟩ =
          .ok ⟨before ++ rows.map fun row => row.cells grid.width,
            flagsBefore ++ rows.map Row.isBarrier⟩ := by
    intro rows
    induction rows with
    | nil =>
        intro _ before flagsBefore _
        simp [pure, Except.pure]
    | cons row rest ih =>
        intro subset before flagsBefore sameLength
        rw [List.forall_mem_cons] at subset
        have later := ih subset.2 (before ++ [row.cells grid.width])
          (flagsBefore ++ [row.isBarrier]) (by simp [sameLength])
        simp only [List.length_append, List.length_singleton, List.append_assoc,
          List.singleton_append] at later
        rw [List.map_cons, List.zipIdx_cons, List.foldlM_cons, List.length_cons,
          List.replicate_succ, List.replicate_succ,
          Cells.enterAll_eq_ok sameLength fun column => lt_width sound subset.1,
          Checked.ok_bind, later]
        rfl
  exact fill grid.rows (fun _ member => member) [] [] rfl

section Access

variable {rules : List Rule} {rule column : Nat} {row : Row}

theorem place?_eq_ok (found : grid.rows[rule]? = some row) (inside : column < grid.width) :
    grid.cells.place? rule column = .ok (row.cell? column) := by
  have isRow : grid.cells.places[rule]? = some (row.cells grid.width) := by
    simp [cells, found]
  rw [Cells.place?, Checked.get_eq_ok isRow, Checked.ok_bind,
    Checked.get_eq_ok (row.getElem?_cells inside)]

/-- A statement is found by way of the table as long as the rule is in its place. -/
theorem statement?_eq_ok (sound : grid.Sound) (found : grid.rows[rule]? = some row)
    (inside : column < grid.width) (isRule : rules[rule]? = some row.rule) :
    grid.cells.statement? rules rule column = .ok (row.statement? column) := by
  rw [Cells.statement?, place?_eq_ok found inside, Checked.ok_bind, Row.statement?]
  cases placed : row.cell? column with
  | none => rfl
  | some place =>
      have inRow := (List.getElem?_eq_some_iff.mp (Row.getElem?_of_cell? placed)).1
      rw [(sound.holds row (List.mem_of_getElem? found)).length_eq] at inRow
      rw [Option.bind_some, List.getElem?_eq_getElem inRow]
      simp only [Checked.get_eq_ok isRule, Checked.get_eq_ok (List.getElem?_eq_getElem inRow),
        Checked.ok_bind]
      rfl

theorem test_eq_ok (sound : grid.Sound) (found : grid.rows[rule]? = some row)
    (inside : column < grid.width) (isRule : rules[rule]? = some row.rule) {test : Match}
    (isTest : row.match? column = some test) : grid.cells.test rules rule column = .ok test := by
  rw [Row.match?] at isTest
  rw [Cells.test, statement?_eq_ok sound found inside isRule, Checked.ok_bind, isTest]
  rfl

/-- Rules are compared by way of the table as their rows are. -/
theorem alike_eq_ok (sound : grid.Sound) {first second : Nat} {firstRow secondRow : Row}
    (firstFound : grid.rows[first]? = some firstRow)
    (secondFound : grid.rows[second]? = some secondRow)
    (isFirst : rules[first]? = some firstRow.rule)
    (isSecond : rules[second]? = some secondRow.rule) :
    grid.cells.alike rules first second = .ok (firstRow.alike secondRow) := by
  have firstFlag : grid.cells.barriers[first]? = some firstRow.isBarrier := by
    simp [cells, firstFound]
  have secondFlag : grid.cells.barriers[second]? = some secondRow.isBarrier := by
    simp [cells, secondFound]
  have isRow : grid.cells.places[first]? = some (firstRow.cells grid.width) := by
    simp [cells, firstFound]
  have compared : (List.range (firstRow.cells grid.width).length).allM (fun column => do
      return Statement.alike (← grid.cells.statement? rules first column)
        (← grid.cells.statement? rules second column)) =
      .ok ((List.range grid.width).all fun column =>
        Statement.alike (firstRow.statement? column) (secondRow.statement? column)) := by
    rw [Row.length_cells]
    apply allM_eq_ok_all
    intro column inRange
    rw [List.mem_range] at inRange
    rw [statement?_eq_ok sound firstFound inRange isFirst, Checked.ok_bind,
      statement?_eq_ok sound secondFound inRange isSecond, Checked.ok_bind]
    rfl
  have sameColumns : ((List.range grid.width).all fun column =>
        Statement.alike (firstRow.statement? column) (secondRow.statement? column)) =
      (firstRow.columns ++ secondRow.columns).all fun column =>
        Statement.alike (firstRow.statement? column) (secondRow.statement? column) := by
    have absent : ∀ (row : Row) (column : Nat), column ∉ row.columns →
        row.statement? column = none := by
      intro row column missing
      rw [← Row.isSome_cell?_iff, Option.not_isSome_iff_eq_none] at missing
      rw [Row.statement?, missing, Option.bind_none]
    rw [Bool.eq_iff_iff, List.all_eq_true, List.all_eq_true]
    constructor
    · intro allAlike column member
      apply allAlike
      rw [List.mem_range]
      rcases List.mem_append.mp member with member | member
      · exact lt_width sound (List.mem_of_getElem? firstFound) member
      · exact lt_width sound (List.mem_of_getElem? secondFound) member
    · intro allAlike column _
      by_cases member : column ∈ firstRow.columns ++ secondRow.columns
      · exact allAlike column member
      · rw [List.mem_append, not_or] at member
        rw [absent firstRow column member.1, absent secondRow column member.2]
        rfl
  rw [Cells.alike, Checked.get_eq_ok firstFlag, Checked.ok_bind, Row.alike]
  cases firstRow.isBarrier with
  | true => rfl
  | false =>
      rw [if_neg Bool.false_ne_true, Checked.get_eq_ok secondFlag, Checked.ok_bind]
      cases secondRow.isBarrier with
      | true => rfl
      | false =>
          rw [if_neg Bool.false_ne_true, Checked.get_eq_ok isRow, Checked.ok_bind, compared,
            sameColumns]
          rfl

end Access

end Grid

end Rulefold
