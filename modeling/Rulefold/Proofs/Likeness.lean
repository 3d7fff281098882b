import Rulefold.Proofs.Layout

/-!
# Likeness of rules

Rows of a grid are alike exactly when their rules are: every statement has a shape, no two
statements of a rule share one, and both rules have the same shapes. The order of the statements
and the numbering of the columns do not count.
-/

namespace Rulefold

namespace Statement

theorem shape?_eq_selector_iff {statement : Statement} {field : Field} :
    statement.shape? = some (.selector field) ↔
      ∃ value, statement = .matching { op := .eq, left := .field field, right := value } := by
  constructor
  · intro shaped
    cases statement with
    | matching test =>
        rcases test with ⟨op, left, right⟩
        cases op <;> cases left <;> simp_all [shape?]
    | log line =>
        rcases line with ⟨_ | label, settings⟩
        · simp [shape?] at shaped
        · cases label <;> simp [shape?] at shaped
    | reject answer =>
        rcases answer with ⟨_ | message, reason⟩ <;> simp [shape?] at shaped
    | _ => simp [shape?] at shaped
  · rintro ⟨value, rfl⟩
    rfl

theorem match?_eq_some_iff {statement : Statement} {test : Match} :
    statement.match? = some test ↔ statement = .matching test := by
  cases statement <;> simp [match?]

theorem exists_field_of_matching {test : Match}
    (shaped : (Statement.matching test).shape? ≠ none) :
    ∃ field, (Statement.matching test).shape? = some (.selector field) := by
  rcases test with ⟨op, left, right⟩
  cases op <;> cases left <;> simp_all [shape?]

end Statement

namespace Rule

/-- The shapes of the statements of a rule, in order. -/
def shapes (rule : Rule) : List (Option Shape) := rule.statements.map Statement.shape?

/-- The matches of a rule, in order. -/
def tests (rule : Rule) : List Match := rule.statements.filterMap Statement.match?

/-- Every statement of the rule has a shape, and no two share one. -/
structure Plain (rule : Rule) : Prop where
  shaped : none ∉ rule.shapes
  nodup : rule.shapes.Nodup

/-- Two plain rules are alike when they have the same shapes. -/
structure Alike (first second : Rule) : Prop where
  left : first.Plain
  right : second.Plain
  mem_shapes_iff : ∀ shape, shape ∈ first.shapes ↔ shape ∈ second.shapes

theorem mem_tests_iff {rule : Rule} {test : Match} :
    test ∈ rule.tests ↔ .matching test ∈ rule.statements := by
  simp [tests, Statement.match?_eq_some_iff]

theorem Plain.shape?_ne_none {rule : Rule} (plain : rule.Plain) {statement : Statement}
    (member : statement ∈ rule.statements) : statement.shape? ≠ none :=
  fun shapeless => plain.shaped (shapeless ▸ List.mem_map_of_mem member)

theorem Plain.eq_of_shape?_eq {rule : Rule} (plain : rule.Plain) {first second : Statement}
    (firstMember : first ∈ rule.statements) (secondMember : second ∈ rule.statements)
    (same : first.shape? = second.shape?) : first = second :=
  List.inj_on_of_nodup_map plain.nodup firstMember secondMember same

theorem Alike.refl {rule : Rule} (plain : rule.Plain) : rule.Alike rule :=
  ⟨plain, plain, fun _ => Iff.rfl⟩

theorem Alike.symm {first second : Rule} (alike : first.Alike second) : second.Alike first :=
  ⟨alike.right, alike.left, fun shape => (alike.mem_shapes_iff shape).symm⟩

theorem Alike.trans {first second third : Rule} (firstAlike : first.Alike second)
    (secondAlike : second.Alike third) : first.Alike third :=
  ⟨firstAlike.left, secondAlike.right, fun shape =>
    (firstAlike.mem_shapes_iff shape).trans (secondAlike.mem_shapes_iff shape)⟩

instance : Trans Alike Alike Alike := ⟨Alike.trans⟩

theorem Plain.alike_of_shapes_eq {first second : Rule} (plain : second.Plain)
    (same : first.shapes = second.shapes) : first.Alike second where
  left := ⟨same ▸ plain.shaped, same ▸ plain.nodup⟩
  right := plain
  mem_shapes_iff shape := by rw [same]

theorem Alike.perm_shapes {first second : Rule} (alike : first.Alike second) :
    first.shapes.Perm second.shapes :=
  (List.perm_ext_iff_of_nodup alike.left.nodup alike.right.nodup).2 alike.mem_shapes_iff

end Rule

namespace Row

variable {columns : Columns} {row : Row}

theorem getElem?_of_cell? {column place : Nat} (found : row.cell? column = some place) :
    row.columns[place]? = some column := by
  rcases Option.map_eq_some_iff.mp found with ⟨⟨here, index⟩, last, rfl⟩
  have member := List.mem_of_getLast? last
  rw [List.mem_filter, List.mem_zipIdx_iff_getElem?] at member
  rcases member with ⟨placed, same⟩
  have same : here = column := by simpa using same
  simpa [same] using placed

theorem isSome_cell?_iff {column : Nat} : (row.cell? column).isSome ↔ column ∈ row.columns := by
  rw [cell?, Option.isSome_map, List.getLast?_isSome, Ne, List.filter_eq_nil_iff,
    List.mem_iff_getElem?]
  simp [List.mem_zipIdx_iff_getElem?, Prod.forall]

theorem mem_zip_of_statement? {column : Nat} {statement : Statement}
    (found : row.statement? column = some statement) :
    (statement, column) ∈ row.rule.statements.zip row.columns := by
  rcases Option.bind_eq_some_iff.mp found with ⟨place, placed, here⟩
  exact List.mem_iff_getElem?.mpr
    ⟨place, List.getElem?_zip_eq_some.mpr ⟨here, getElem?_of_cell? placed⟩⟩

theorem exists_statement?_of_mem (holds : columns.Holds row.rule.statements row.columns)
    {column : Nat} (member : column ∈ row.columns) :
    ∃ statement, row.statement? column = some statement := by
  rcases Option.isSome_iff_exists.mp (isSome_cell?_iff.mpr member) with ⟨place, placed⟩
  have inside := (List.getElem?_eq_some_iff.mp (getElem?_of_cell? placed)).1
  rw [holds.length_eq] at inside
  exact ⟨row.rule.statements[place], by
    simp [statement?, placed, List.getElem?_eq_getElem inside]⟩

theorem getElem?_of_mem_zip (holds : columns.Holds row.rule.statements row.columns)
    {statement : Statement} {column : Nat}
    (member : (statement, column) ∈ row.rule.statements.zip row.columns) :
    statement ∈ row.rule.statements ∧ column ∈ row.columns ∧
      columns[column]? = some statement.shape? := by
  rcases List.mem_iff_getElem?.mp member with ⟨place, placed⟩
  rcases List.getElem?_zip_eq_some.mp placed with ⟨here, there⟩
  have same := congrArg (fun entries => entries[place]?) holds
  simp only [List.getElem?_map, here, there, Option.map_some, Option.some.injEq] at same
  exact ⟨List.mem_of_getElem? here, List.mem_of_getElem? there, same⟩

theorem exists_mem_zip_of_mem (holds : columns.Holds row.rule.statements row.columns)
    {statement : Statement} (member : statement ∈ row.rule.statements) :
    ∃ column, (statement, column) ∈ row.rule.statements.zip row.columns := by
  rcases List.mem_iff_getElem?.mp member with ⟨place, here⟩
  have inside := (List.getElem?_eq_some_iff.mp here).1
  rw [← holds.length_eq] at inside
  exact ⟨row.columns[place], List.mem_iff_getElem?.mpr
    ⟨place, List.getElem?_zip_eq_some.mpr ⟨here, List.getElem?_eq_getElem inside⟩⟩⟩

/-- In a row of shaped statements a statement stands in the column of its shape, and only there. -/
theorem mem_zip_iff (distinct : columns.Distinct)
    (holds : columns.Holds row.rule.statements row.columns) (shaped : none ∉ row.rule.shapes)
    {statement : Statement} {column : Nat} :
    (statement, column) ∈ row.rule.statements.zip row.columns ↔
      statement ∈ row.rule.statements ∧ columns[column]? = some statement.shape? := by
  constructor
  · intro member
    rcases getElem?_of_mem_zip holds member with ⟨inRule, -, here⟩
    exact ⟨inRule, here⟩
  · rintro ⟨inRule, here⟩
    rcases exists_mem_zip_of_mem holds inRule with ⟨other, member⟩
    rcases getElem?_of_mem_zip holds member with ⟨-, -, there⟩
    cases shape : statement.shape? with
    | none => exact absurd (shape ▸ List.mem_map_of_mem inRule) shaped
    | some shape' =>
        rw [shape] at here there
        exact distinct here there ▸ member

theorem nodup_columns_of_not_isBarrier (noBarrier : row.isBarrier = false) :
    row.columns.Nodup := by
  simpa [isBarrier] using noBarrier

/-- Without a barrier, the statement found in a column is the one that was placed there. -/
theorem statement?_eq_some_iff (holds : columns.Holds row.rule.statements row.columns)
    (nodup : row.columns.Nodup) {column : Nat} {statement : Statement} :
    row.statement? column = some statement ↔
      (statement, column) ∈ row.rule.statements.zip row.columns := by
  constructor
  · exact mem_zip_of_statement?
  · intro member
    rcases getElem?_of_mem_zip holds member with ⟨-, inColumns, -⟩
    rcases exists_statement?_of_mem holds inColumns with ⟨other, found⟩
    rcases List.mem_iff_getElem?.mp member with ⟨place, placed⟩
    rcases List.mem_iff_getElem?.mp (mem_zip_of_statement? found) with ⟨otherPlace, otherPlaced⟩
    rw [List.getElem?_zip_eq_some] at placed otherPlaced
    have same := (List.getElem?_inj (List.getElem?_eq_some_iff.mp placed.2).1 nodup).mp
      (placed.2.trans otherPlaced.2.symm)
    rw [found, ← otherPlaced.1, ← same, placed.1]

theorem columns_eq_map_idxOf (distinct : columns.Distinct)
    (holds : columns.Holds row.rule.statements row.columns) (shaped : none ∉ row.rule.shapes) :
    row.columns = row.rule.shapes.map columns.idxOf := by
  rw [Rule.shapes] at shaped ⊢
  generalize row.columns = places, row.rule.statements = statements at holds shaped ⊢
  induction statements generalizing places with
  | nil => simpa using holds.length_eq
  | cons statement rest ih =>
      cases places with
      | nil => simp [Columns.Holds] at holds
      | cons place places =>
          rw [Columns.holds_cons] at holds
          simp only [List.map_cons, List.mem_cons, not_or] at shaped ⊢
          rcases Option.ne_none_iff_exists'.mp (Ne.symm shaped.1) with ⟨shape, isShape⟩
          have placed := holds.1
          rw [isShape] at placed
          have found := List.getElem?_eq_getElem
            (List.idxOf_lt_length_iff.mpr (List.mem_of_getElem? placed))
          rw [List.getElem_idxOf] at found
          rw [isShape, distinct placed found, ih places holds.2 shaped.2]

theorem isBarrier_eq_false_iff (distinct : columns.Distinct)
    (holds : columns.Holds row.rule.statements row.columns) (shaped : none ∉ row.rule.shapes) :
    row.isBarrier = false ↔ row.rule.shapes.Nodup := by
  rw [isBarrier, Bool.not_eq_false', decide_eq_true_iff]
  constructor
  · rw [columns_eq_map_idxOf distinct holds shaped]
    exact List.Nodup.of_map _
  · intro nodup
    have nodup := nodup.map fun _ _ => Option.some.inj
    rw [Rule.shapes, List.map_map] at nodup
    exact List.Nodup.of_map _ (holds ▸ nodup)

theorem statement?_eq_some_iff_of_plain (distinct : columns.Distinct)
    (holds : columns.Holds row.rule.statements row.columns) (plain : row.rule.Plain)
    {column : Nat} {statement : Statement} :
    row.statement? column = some statement ↔
      statement ∈ row.rule.statements ∧ columns[column]? = some statement.shape? := by
  have noBarrier := (isBarrier_eq_false_iff distinct holds plain.shaped).mpr plain.nodup
  rw [statement?_eq_some_iff holds (nodup_columns_of_not_isBarrier noBarrier),
    mem_zip_iff distinct holds plain.shaped]

section Alike

variable {first second : Row}

theorem mem_shapes_of_alike (firstHolds : columns.Holds first.rule.statements first.columns)
    (nodup : first.columns.Nodup)
    (alike : ∀ column ∈ first.columns,
      Statement.alike (first.statement? column) (second.statement? column) = true) :
    ∀ shape ∈ first.rule.shapes, shape ≠ none ∧ shape ∈ second.rule.shapes := by
  intro shape member
  rcases List.mem_map.mp member with ⟨statement, inFirst, rfl⟩
  rcases exists_mem_zip_of_mem firstHolds inFirst with ⟨column, placed⟩
  have alikeHere := alike column (getElem?_of_mem_zip firstHolds placed).2.1
  rw [(statement?_eq_some_iff firstHolds nodup).mpr placed] at alikeHere
  cases found : second.statement? column with
  | none => simp [found, Statement.alike] at alikeHere
  | some other =>
      rw [found, Statement.alike_some_iff] at alikeHere
      rcases alikeHere with ⟨shape, isShape, isOtherShape⟩
      have inSecond := (List.of_mem_zip (mem_zip_of_statement? found)).1
      rw [isShape]
      exact ⟨by simp, isOtherShape ▸ List.mem_map_of_mem inSecond⟩

theorem alike_of_mem_shapes (distinct : columns.Distinct)
    (firstHolds : columns.Holds first.rule.statements first.columns)
    (secondHolds : columns.Holds second.rule.statements second.columns)
    (alike : first.rule.Alike second.rule) {column : Nat} (member : column ∈ first.columns) :
    Statement.alike (first.statement? column) (second.statement? column) = true := by
  rcases exists_statement?_of_mem firstHolds member with ⟨statement, found⟩
  rcases (statement?_eq_some_iff_of_plain distinct firstHolds alike.left).mp found with
    ⟨inFirst, here⟩
  have inShapes := (alike.mem_shapes_iff _).mp (List.mem_map_of_mem inFirst)
  rcases List.mem_map.mp inShapes with ⟨other, inSecond, same⟩
  have otherFound := (statement?_eq_some_iff_of_plain distinct secondHolds alike.right).mpr
    ⟨inSecond, here.trans (congrArg some same.symm)⟩
  rcases Option.ne_none_iff_exists'.mp (alike.left.shape?_ne_none inFirst) with ⟨shape, isShape⟩
  rw [found, otherFound, Statement.alike_some_iff]
  exact ⟨shape, isShape, same.trans isShape⟩

/-- Rows are alike exactly when their rules are. -/
theorem alike_iff (distinct : columns.Distinct)
    (firstHolds : columns.Holds first.rule.statements first.columns)
    (secondHolds : columns.Holds second.rule.statements second.columns) :
    first.alike second = true ↔ first.rule.Alike second.rule := by
  simp only [alike, Bool.and_eq_true, Bool.not_eq_true', List.all_eq_true, List.mem_append]
  constructor
  · rintro ⟨⟨firstFree, secondFree⟩, alike⟩
    have fromFirst := mem_shapes_of_alike firstHolds
      (nodup_columns_of_not_isBarrier firstFree) fun column member => alike column (.inl member)
    have alikeSecond : ∀ column ∈ second.columns,
        Statement.alike (second.statement? column) (first.statement? column) = true := by
      intro column member
      rw [Statement.alike_comm]
      exact alike column (.inr member)
    have fromSecond := mem_shapes_of_alike secondHolds
      (nodup_columns_of_not_isBarrier secondFree) alikeSecond
    have firstShaped : none ∉ first.rule.shapes := fun member => (fromFirst none member).1 rfl
    have secondShaped : none ∉ second.rule.shapes := fun member => (fromSecond none member).1 rfl
    exact {
      left := ⟨firstShaped, (isBarrier_eq_false_iff distinct firstHolds firstShaped).mp firstFree⟩
      right :=
        ⟨secondShaped, (isBarrier_eq_false_iff distinct secondHolds secondShaped).mp secondFree⟩
      mem_shapes_iff := fun shape =>
        ⟨fun member => (fromFirst shape member).2, fun member => (fromSecond shape member).2⟩ }
  · intro alike
    refine ⟨⟨?_, ?_⟩, ?_⟩
    · exact (isBarrier_eq_false_iff distinct firstHolds alike.left.shaped).mpr alike.left.nodup
    · exact (isBarrier_eq_false_iff distinct secondHolds alike.right.shaped).mpr alike.right.nodup
    · rintro column (member | member)
      · exact alike_of_mem_shapes distinct firstHolds secondHolds alike member
      · rw [Statement.alike_comm]
        exact alike_of_mem_shapes distinct secondHolds firstHolds alike.symm member

end Alike

end Row

namespace Grid

variable {grid : Grid} {row : Row}

/-- The field that a column of selectors tests. -/
def field? (grid : Grid) (column : Nat) : Option Field :=
  match grid.columns[column]? with
  | some (some (.selector field)) => some field
  | _ => none

theorem field?_eq_some_iff {column : Nat} {field : Field} :
    grid.field? column = some field ↔ grid.columns[column]? = some (some (.selector field)) := by
  unfold field?
  split <;> simp_all

theorem isSelector_iff {column : Nat} :
    grid.isSelector column = true ↔ ∃ field, grid.field? column = some field := by
  simp only [field?_eq_some_iff, isSelector]
  split
  · rename_i shape found
    cases shape <;> simp [found, Shape.isSelector]
  · simp_all

theorem mem_selectors_iff {column : Nat} :
    column ∈ grid.selectors row ↔
      column ∈ row.columns ∧ ∃ field, grid.field? column = some field := by
  simp only [selectors, List.mem_filter, List.mem_range, Bool.and_eq_true,
    Row.isSome_cell?_iff, isSelector_iff, and_iff_right_iff_imp]
  rintro ⟨-, field, found⟩
  exact (List.getElem?_eq_some_iff.mp (field?_eq_some_iff.mp found)).1

theorem nodup_selectors : (grid.selectors row).Nodup :=
  List.nodup_range.filter _

end Grid

end Rulefold
