import Rulefold.Proofs.Cells
import Rulefold.Proofs.Detection

/-!
# What the grid and its table represent

All statements of a chain are placed one after another, rule by rule. A column is added where a
statement is met that is alike to none before it, so the columns are numbered in the order of these
statements, and two statements stand in one column exactly when they are alike. The table of the
grid holds the last place of a rule in each column, its barriers are the rules that repeat
themselves, and rules compare by way of it as their statements can be paired.
-/

namespace Rulefold

theorem getElem?_append_append {α : Type} (before middle after : List α) {place : Nat}
    (inside : place < middle.length) :
    (before ++ (middle ++ after))[before.length + place]? = middle[place]? := by
  rw [List.getElem?_append_right (Nat.le_add_right _ _), Nat.add_sub_cancel_left,
    List.getElem?_append_left inside]

instance (rule : Rule) : Decidable rule.Unrepeated :=
  inferInstanceAs (Decidable (List.Pairwise _ _))

namespace Statement

/-- The statement at a place of a list is alike to none before it. -/
def IsFirst (statements : List Statement) (place : Nat) : Prop :=
  ∀ earlier < place, alike statements[earlier]? statements[place]? = false

instance (statements : List Statement) (place : Nat) : Decidable (IsFirst statements place) :=
  inferInstanceAs (Decidable (∀ earlier < place, _))

/-- The places of a list at which a statement stands that is alike to none before it. -/
def firsts (statements : List Statement) : List Nat :=
  (List.range statements.length).filter (IsFirst statements)

theorem lt_of_mem_firsts {statements : List Statement} {place : Nat}
    (member : place ∈ firsts statements) : place < statements.length :=
  List.mem_range.mp (List.mem_filter.mp member).1

theorem isFirst_append_iff {statements : List Statement} (others : List Statement) {place : Nat}
    (inside : place < statements.length) :
    IsFirst (statements ++ others) place ↔ IsFirst statements place := by
  refine forall₂_congr fun earlier isBefore => ?_
  rw [List.getElem?_append_left inside, List.getElem?_append_left (isBefore.trans inside)]

theorem isFirst_concat_iff {statements : List Statement} {statement : Statement} :
    IsFirst (statements ++ [statement]) statements.length ↔
      ∀ other ∈ statements, alike (some other) (some statement) = false := by
  rw [IsFirst, List.getElem?_concat_length]
  constructor
  · intro unlike other member
    rcases List.mem_iff_getElem.mp member with ⟨earlier, inside, rfl⟩
    have unlikeHere := unlike earlier inside
    rwa [List.getElem?_append_left inside, List.getElem?_eq_getElem inside] at unlikeHere
  · intro unlike earlier inside
    rw [List.getElem?_append_left inside, List.getElem?_eq_getElem inside]
    exact unlike _ (List.getElem_mem inside)

theorem firsts_concat (statements : List Statement) (statement : Statement) :
    firsts (statements ++ [statement]) = firsts statements ++
      if ∀ other ∈ statements, alike (some other) (some statement) = false
        then [statements.length] else [] := by
  have before : ∀ place ∈ List.range statements.length,
      decide (IsFirst (statements ++ [statement]) place) = decide (IsFirst statements place) := by
    intro place inRange
    rw [decide_eq_decide]
    exact isFirst_append_iff _ (List.mem_range.mp inRange)
  rw [firsts, List.length_append, List.length_singleton, List.range_succ, List.filter_append,
    List.filter_congr before, ← firsts]
  congr 1
  simp only [List.filter_cons, List.filter_nil, decide_eq_true_iff, isFirst_concat_iff]

end Statement

namespace Columns

/-- The columns are numbered in the order in which statements are met that are alike to none before
them, and two statements stand in one column exactly when they are alike. -/
structure Numbers (columns : Columns) (statements : List Statement) (places : List Nat) : Prop where
  length_firsts : (Statement.firsts statements).length = columns.length
  first_of : ∀ column place : Nat, (Statement.firsts statements)[column]? = some place →
    columns[column]? = statements[place]?.map Statement.shape? ∧ places[place]? = some column
  together : ∀ first second : Nat, first < second → second < statements.length →
    (places[first]? = places[second]? ↔
      Statement.alike statements[first]? statements[second]? = true)

/-- A statement is placed in the column of its shape, or in a new one. -/
theorem place_cases (columns : Columns) (shape? : Option Shape) :
    (∃ shape column, shape? = some shape ∧ columns[column]? = some (some shape) ∧
        columns.place shape? = (columns, column)) ∨
      ((∀ shape, shape? = some shape → some shape ∉ columns) ∧
        columns.place shape? = (columns ++ [shape?], columns.length)) := by
  cases shape? with
  | none => exact .inr ⟨fun _ isShape => (nomatch isShape), rfl⟩
  | some shape =>
      cases found : columns.idxOf? (some shape) with
      | none =>
          refine .inr ⟨?_, by rw [place, found]⟩
          rintro _ ⟨⟩
          exact List.idxOf?_eq_none_iff.mp found
      | some column =>
          rcases List.idxOf?_eq_some_iff.mp found with ⟨inside, here, -⟩
          exact .inl ⟨shape, column, rfl, by rw [List.getElem?_eq_getElem inside, here],
            by rw [place, found]⟩

theorem placeAll_append (columns : Columns) (first second : List Statement) :
    columns.placeAll (first ++ second) =
      (((columns.placeAll first).1.placeAll second).1,
        (columns.placeAll first).2 ++ ((columns.placeAll first).1.placeAll second).2) := by
  induction first generalizing columns with
  | nil => rfl
  | cons statement rest ih => simp only [List.cons_append, placeAll, ih]

theorem placeAll_singleton (columns : Columns) (statement : Statement) :
    columns.placeAll [statement] =
      ((columns.place statement.shape?).1, [(columns.place statement.shape?).2]) := rfl

section Step

variable {columns : Columns} {statements : List Statement} {places : List Nat}

theorem Holds.exists_place (holds : columns.Holds statements places) {place : Nat}
    {statement : Statement} (found : statements[place]? = some statement) :
    ∃ column, places[place]? = some column ∧ columns[column]? = some statement.shape? := by
  have same := congrArg (fun entries => entries[place]?) holds
  simp only [List.getElem?_map, found, Option.map_some] at same
  exact Option.map_eq_some_iff.mp same

theorem Holds.shape?_mem (holds : columns.Holds statements places) {statement : Statement}
    (member : statement ∈ statements) : statement.shape? ∈ columns := by
  rcases List.mem_iff_getElem?.mp member with ⟨place, found⟩
  rcases holds.exists_place found with ⟨column, -, here⟩
  exact List.mem_of_getElem? here

/-- A statement is placed where those before it stand that are alike to it. -/
theorem Holds.getElem?_eq_place_iff (holds : columns.Holds statements places)
    (distinct : columns.Distinct) (statement : Statement) {place : Nat} {other : Statement}
    (found : statements[place]? = some other) :
    places[place]? = some (columns.place statement.shape?).2 ↔
      Statement.alike (some other) (some statement) = true := by
  rcases holds.exists_place found with ⟨column, isPlaced, here⟩
  rw [isPlaced, Option.some_inj, Statement.alike_some_iff]
  rcases place_cases columns statement.shape? with
    ⟨shape, known, isShape, there, placed⟩ | ⟨isNew, placed⟩
  · rw [placed, isShape]
    constructor
    · rintro rfl
      exact ⟨shape, Option.some.inj (here.symm.trans there), rfl⟩
    · rintro ⟨_, isOtherShape, ⟨⟩⟩
      exact distinct (isOtherShape ▸ here) there
  · rw [placed]
    constructor
    · rintro rfl
      exact absurd (List.getElem?_eq_some_iff.mp here).1 (Nat.lt_irrefl _)
    · rintro ⟨shape, isOtherShape, isShape⟩
      exact absurd (List.mem_of_getElem? (isOtherShape ▸ here)) (isNew shape isShape)

theorem Numbers.exists_of_mem (numbers : columns.Numbers statements places) {shape : Shape}
    (member : some shape ∈ columns) : ∃ statement ∈ statements, statement.shape? = some shape := by
  rcases List.mem_iff_getElem?.mp member with ⟨column, here⟩
  have inside := (List.getElem?_eq_some_iff.mp here).1
  rw [← numbers.length_firsts] at inside
  have isFirst := (numbers.first_of column _ (List.getElem?_eq_getElem inside)).1
  rw [here] at isFirst
  rcases Option.map_eq_some_iff.mp isFirst.symm with ⟨statement, found, isShape⟩
  exact ⟨statement, List.mem_of_getElem? found, isShape⟩

/-- Placing another statement leaves the first places of the earlier columns. -/
theorem Numbers.first_of_concat (numbers : columns.Numbers statements places)
    (sameLength : places.length = statements.length) {later : Columns} (grown : columns <+: later)
    (statement : Statement) (placed : Nat) {column place : Nat}
    (isFirst : (Statement.firsts statements)[column]? = some place) :
    later[column]? = (statements ++ [statement])[place]?.map Statement.shape? ∧
      (places ++ [placed])[place]? = some column := by
  rcases grown with ⟨added, rfl⟩
  have inside := Statement.lt_of_mem_firsts (List.mem_of_getElem? isFirst)
  have isColumn := (List.getElem?_eq_some_iff.mp isFirst).1
  rw [numbers.length_firsts] at isColumn
  rw [List.getElem?_append_left isColumn, List.getElem?_append_left inside,
    List.getElem?_append_left (by omega)]
  exact numbers.first_of column place isFirst

theorem Numbers.together_concat (numbers : columns.Numbers statements places)
    (distinct : columns.Distinct) (holds : columns.Holds statements places) (statement : Statement)
    {first second : Nat} (isBefore : first < second)
    (inside : second < (statements ++ [statement]).length) :
    (places ++ [(columns.place statement.shape?).2])[first]? =
        (places ++ [(columns.place statement.shape?).2])[second]? ↔
      Statement.alike (statements ++ [statement])[first]? (statements ++ [statement])[second]? =
        true := by
  have sameLength := holds.length_eq
  rw [List.length_append, List.length_singleton, Nat.lt_succ_iff_lt_or_eq] at inside
  rcases inside with inside | rfl
  · rw [List.getElem?_append_left (by omega), List.getElem?_append_left (by omega),
      List.getElem?_append_left (by omega), List.getElem?_append_left (by omega)]
    exact numbers.together first second isBefore inside
  · rw [List.getElem?_append_left (by omega), List.getElem?_append_left isBefore,
      List.getElem?_concat_length, ← sameLength, List.getElem?_concat_length,
      List.getElem?_eq_getElem isBefore]
    exact holds.getElem?_eq_place_iff distinct statement (List.getElem?_eq_getElem isBefore)

/-- Placing another statement keeps the columns in order. -/
theorem Numbers.concat (numbers : columns.Numbers statements places) (distinct : columns.Distinct)
    (holds : columns.Holds statements places) (statement : Statement) :
    (columns.place statement.shape?).1.Numbers (statements ++ [statement])
      (places ++ [(columns.place statement.shape?).2]) := by
  have sameLength := holds.length_eq
  -- Which statements stand together does not depend on whether a column is added; which are first
  -- does.
  have together := fun first second => @numbers.together_concat _ _ _ distinct holds statement
    first second
  rcases place_cases columns statement.shape? with
    ⟨shape, column, isShape, here, placed⟩ | ⟨isNew, placed⟩
  · have known : ¬∀ other ∈ statements,
        Statement.alike (some other) (some statement) = false := by
      rcases numbers.exists_of_mem (List.mem_of_getElem? here) with ⟨other, member, isOtherShape⟩
      intro unlike
      have alike := Statement.alike_some_iff.mpr ⟨shape, isOtherShape, isShape⟩
      simp [unlike other member] at alike
    have firsts : Statement.firsts (statements ++ [statement]) = Statement.firsts statements := by
      rw [Statement.firsts_concat, if_neg known, List.append_nil]
    refine ⟨?_, ?_, together⟩
    · rw [firsts, placed]
      exact numbers.length_firsts
    · rw [firsts, placed]
      intro column place isFirst
      exact numbers.first_of_concat sameLength List.prefix_rfl statement _ isFirst
  · have unlike : ∀ other ∈ statements,
        Statement.alike (some other) (some statement) = false := by
      intro other member
      rw [← Bool.not_eq_true, Statement.alike_some_iff]
      rintro ⟨shape, isOtherShape, isShape⟩
      exact isNew shape isShape (isOtherShape ▸ holds.shape?_mem member)
    have firsts : Statement.firsts (statements ++ [statement]) =
        Statement.firsts statements ++ [statements.length] := by
      rw [Statement.firsts_concat, if_pos unlike]
    refine ⟨?_, ?_, together⟩
    · rw [firsts, placed, List.length_append, List.length_append, numbers.length_firsts]
      rfl
    · rw [firsts, placed]
      intro column place isFirst
      have inside := (List.getElem?_eq_some_iff.mp isFirst).1
      rw [List.length_append, List.length_singleton, Nat.lt_succ_iff_lt_or_eq] at inside
      rcases inside with inside | rfl
      · rw [List.getElem?_append_left inside] at isFirst
        exact numbers.first_of_concat sameLength (List.prefix_append _ _) statement _ isFirst
      · rw [List.getElem?_concat_length, Option.some_inj] at isFirst
        rw [← isFirst, numbers.length_firsts, List.getElem?_concat_length,
          List.getElem?_concat_length, ← sameLength, List.getElem?_concat_length]
        exact ⟨rfl, rfl⟩

/-- Placing statements one after another numbers the columns in order. -/
theorem numbers_placeAll (statements : List Statement) :
    (placeAll [] statements).1.Numbers statements (placeAll [] statements).2 := by
  -- From the end: the columns that a statement finds are those of all statements before it.
  induction statements using List.reverseRecOn with
  | nil => exact ⟨rfl, fun _ _ isFirst => (nomatch isFirst), fun _ _ _ inside => (nomatch inside)⟩
  | append_singleton statements statement ih =>
      rw [placeAll_append, placeAll_singleton]
      exact ih.concat (distinct_nil.placeAll statements) (holds_placeAll [] statements) statement

end Step

end Columns

namespace Row

/-- A cell holds the last place in its column. -/
theorem cell?_eq_some_iff_last {row : Row} {column place : Nat} : row.cell? column = some place ↔
    row.columns[place]? = some column ∧
      ∀ later, place < later → row.columns[later]? ≠ some column := by
  rcases row with ⟨index, rule, columns⟩
  induction columns using List.reverseRecOn with
  | nil => simp [cell?]
  | append_singleton columns last ih =>
      have atEnd : (columns ++ [last])[columns.length]? = some last := List.getElem?_concat_length
      rw [cell?_concat]
      by_cases same : last = column
      · rw [if_pos same, Option.some_inj]
        constructor
        · rintro rfl
          refine ⟨same ▸ atEnd, fun later behind => ?_⟩
          rw [List.getElem?_eq_none (by rw [List.length_append, List.length_singleton]; omega)]
          exact (Option.some_ne_none column).symm
        · rintro ⟨here, none_later⟩
          have inside := (List.getElem?_eq_some_iff.mp here).1
          rw [List.length_append, List.length_singleton] at inside
          by_contra differ
          exact none_later columns.length (by omega) (same ▸ atEnd)
      · have unchanged : ∀ other : Nat, (columns ++ [last])[other]? = some column ↔
            columns[other]? = some column := by
          intro other
          rw [List.getElem?_append]
          split
          · rfl
          · rename_i behind
            rw [List.getElem?_eq_none (Nat.le_of_not_lt behind), List.getElem?_singleton]
            split <;> simp [same]
        rw [if_neg same, ih]
        simp only [unchanged, Ne]

end Row

namespace Grid

theorem columns_layOut (columns : Columns) (index : Nat) (rules : List Rule) :
    ((layOut columns index rules).1, (layOut columns index rules).2.flatMap Row.columns) =
      columns.placeAll (rules.flatMap Rule.statements) := by
  induction rules generalizing columns index with
  | nil => rfl
  | cons rule rest ih =>
      rw [List.flatMap_cons, Columns.placeAll_append, ← ih _ (index + 1)]
      rfl

theorem numbers_ofRules (rules : List Rule) :
    (ofRules rules).columns.Numbers (rules.flatMap Rule.statements)
      ((ofRules rules).rows.flatMap Row.columns) := by
  have numbers := Columns.numbers_placeAll (rules.flatMap Rule.statements)
  rw [← columns_layOut [] 0] at numbers
  exact numbers

section Rules

variable {rules : List Rule}

/-- Two statements of a rule stand in one column exactly when they are alike. -/
theorem together_of_mem {row : Row} (inGrid : row ∈ (ofRules rules).rows) {first second : Nat}
    (isBefore : first < second) (inside : second < row.rule.statements.length) :
    row.columns[first]? = row.columns[second]? ↔
      Statement.alike row.rule.statements[first]? row.rule.statements[second]? = true := by
  -- The statements of a rule are a stretch of those of the chain, and their columns are the same
  -- stretch of all columns.
  have lengths : ∀ row ∈ (ofRules rules).rows, row.columns.length = row.rule.statements.length :=
    fun row member => ((sound_ofRules rules).holds row member).length_eq
  have sameLength := lengths row inGrid
  have statements : rules.flatMap Rule.statements =
      (ofRules rules).rows.flatMap fun row => row.rule.statements := by
    conv_lhs => rw [← map_rule_rows_ofRules rules, List.flatMap_map]
  rcases List.append_of_mem inGrid with ⟨before, after, split⟩
  have sameOffset : (before.flatMap Row.columns).length =
      (before.flatMap fun row => row.rule.statements).length := by
    rw [List.length_flatMap, List.length_flatMap]
    congr 1
    apply List.map_congr_left
    exact fun row member => lengths row (by simp [split, member])
  have together := (numbers_ofRules rules).together
    ((before.flatMap Row.columns).length + first) ((before.flatMap Row.columns).length + second)
    (by omega)
  rw [statements, split, List.flatMap_append, List.flatMap_cons, List.flatMap_append,
    List.flatMap_cons, getElem?_append_append _ _ _ (by omega),
    getElem?_append_append _ _ _ (by omega), sameOffset, getElem?_append_append _ _ _ (by omega),
    getElem?_append_append _ _ _ (by omega)] at together
  apply together
  simp only [List.length_append]
  omega

/-- The barriers are the rules that repeat themselves. -/
theorem isBarrier_eq_true_iff {row : Row} (inGrid : row ∈ (ofRules rules).rows) :
    row.isBarrier = true ↔ ¬row.rule.Unrepeated := by
  have sameLength := ((sound_ofRules rules).holds row inGrid).length_eq
  have apart : ∀ first second : Nat, first < second → second < row.rule.statements.length →
      (row.columns[first]? ≠ row.columns[second]? ↔
        Statement.alike row.rule.statements[first]? row.rule.statements[second]? = false) := by
    intro first second isBefore inside
    rw [← Bool.not_eq_true]
    exact not_congr (together_of_mem inGrid isBefore inside)
  rw [Row.isBarrier, Bool.not_eq_true', decide_eq_false_iff_not, not_iff_not, Rule.Unrepeated,
    List.nodup_iff_pairwise_ne, List.pairwise_iff_getElem, List.pairwise_iff_getElem]
  constructor
  · intro differ first second firstInside secondInside isBefore
    rw [← List.getElem?_eq_getElem firstInside, ← List.getElem?_eq_getElem secondInside,
      ← apart first second isBefore secondInside,
      List.getElem?_eq_getElem (sameLength ▸ firstInside),
      List.getElem?_eq_getElem (sameLength ▸ secondInside), Ne, Option.some_inj]
    exact differ first second _ _ isBefore
  · intro unlike first second firstInside secondInside isBefore
    rw [sameLength] at firstInside secondInside
    have unlikeHere := unlike first second firstInside secondInside isBefore
    rwa [← List.getElem?_eq_getElem firstInside, ← List.getElem?_eq_getElem secondInside,
      ← apart first second isBefore secondInside,
      List.getElem?_eq_getElem (sameLength ▸ firstInside),
      List.getElem?_eq_getElem (sameLength ▸ secondInside), Ne, Option.some_inj] at unlikeHere

/-- The cell of a rule and a column holds the last of the rule's statements in the column. -/
theorem exists_cell {place : Nat} {row : Row} (found : (ofRules rules).rows[place]? = some row)
    {column : Nat} (inside : column < (ofRules rules).width) :
    ∃ cell, (ofRules rules).cells.place? place column = .ok cell ∧ ∀ index, cell = some index ↔
      row.columns[index]? = some column ∧
        ∀ later, index < later → row.columns[later]? ≠ some column :=
  ⟨row.cell? column, place?_eq_ok found inside, fun _ => Row.cell?_eq_some_iff_last⟩

theorem exists_barrier {place : Nat} {row : Row}
    (found : (ofRules rules).rows[place]? = some row) :
    ∃ barrier, (ofRules rules).cells.barriers[place]? = some barrier ∧
      (barrier = true ↔ ¬row.rule.Unrepeated) :=
  ⟨row.isBarrier, by simp [cells, found], isBarrier_eq_true_iff (List.mem_of_getElem? found)⟩

/-- Rules compare as their statements can be paired. -/
theorem exists_alike {first second : Nat} {firstRule secondRule : Rule}
    (isFirst : rules[first]? = some firstRule) (isSecond : rules[second]? = some secondRule) :
    ∃ alike, (ofRules rules).cells.alike rules first second = .ok alike ∧ (alike = true ↔
      firstRule.Unrepeated ∧ secondRule.Unrepeated ∧ firstRule.Paired secondRule) := by
  have sound := sound_ofRules rules
  have exists_row : ∀ {place : Nat} {rule : Rule}, rules[place]? = some rule →
      ∃ row, (ofRules rules).rows[place]? = some row ∧ row.rule = rule := by
    intro place rule isRule
    rw [← map_rule_rows_ofRules rules, List.getElem?_map] at isRule
    exact Option.map_eq_some_iff.mp isRule
  rcases exists_row isFirst with ⟨firstRow, firstFound, rfl⟩
  rcases exists_row isSecond with ⟨secondRow, secondFound, rfl⟩
  refine ⟨_, alike_eq_ok sound firstFound secondFound isFirst isSecond, ?_⟩
  rw [Row.alike_iff sound.distinct (sound.holds _ (List.mem_of_getElem? firstFound))
    (sound.holds _ (List.mem_of_getElem? secondFound)), Rule.alike_iff_paired]

/-- A chain that is laid out loses nothing. No two columns have the same shape, the columns are
numbered as their shapes are first met, and two statements stand in one column exactly when they are
alike. The table holds the last statement of each rule in each column and marks the rules of which
two statements are alike, and two rules compare as alike exactly when neither is marked and their
statements can be paired. -/
theorem cells_represent_rules {max : Nat} {grid : Grid}
    (laidOut : ofRulesWithin max rules = some grid) :
    grid.rows.map Row.rule = rules ∧ grid.columns.Distinct ∧
      grid.columns.Numbers (rules.flatMap Rule.statements) (grid.rows.flatMap Row.columns) ∧
      ∃ cells, Cells.ofGrid grid = .ok cells ∧
        (∀ place row, grid.rows[place]? = some row →
          row.columns.length = row.rule.statements.length ∧
          (∀ column < grid.width, ∃ cell, cells.place? place column = .ok cell ∧
            ∀ index, cell = some index ↔ row.columns[index]? = some column ∧
              ∀ later, index < later → row.columns[later]? ≠ some column) ∧
          ∃ barrier, cells.barriers[place]? = some barrier ∧
            (barrier = true ↔ ¬row.rule.Unrepeated)) ∧
        ∀ first second firstRule secondRule,
          rules[first]? = some firstRule → rules[second]? = some secondRule →
            ∃ alike, cells.alike rules first second = .ok alike ∧ (alike = true ↔
              firstRule.Unrepeated ∧ secondRule.Unrepeated ∧ firstRule.Paired secondRule) := by
  have isGrid := eq_ofRules laidOut
  subst isGrid
  have sound := sound_ofRules rules
  refine ⟨map_rule_rows_ofRules rules, sound.distinct, numbers_ofRules rules, _,
    ofGrid_eq_ok sound, ?_, ?_⟩
  · intro place row found
    exact ⟨(sound.holds row (List.mem_of_getElem? found)).length_eq,
      fun column inside => exists_cell found inside, exists_barrier found⟩
  · intro first second firstRule secondRule isFirst isSecond
    exact exists_alike isFirst isSecond

/-- A rule with two matches on one field, two rules with a match on it before and after a verdict,
and a rule with equal statements of a kind that is not modelled. -/
def repeatedField : List Rule :=
  let mark (value : UInt64) : Statement := .number (.metadata .mark .unspecified) value
  (Chain.ofStatements [[mark 1, mark 2], [mark 3, .verdict .accept none],
    [.verdict .accept none, mark 4], [.other "masquerade", .other "masquerade"]]).rules

/-- The equal statements have columns of their own, so their rule is no barrier and still not alike
to itself. -/
theorem cells_represent_rules_of_repeatedField :
    ∃ grid, ofRulesWithin 4 repeatedField = some grid ∧
      grid.rows.flatMap Row.columns = [0, 0, 0, 1, 1, 0, 2, 3] ∧
      ∃ cells, Cells.ofGrid grid = .ok cells ∧ cells.place? 0 0 = .ok (some 1) ∧
        cells.barriers[0]? = some true ∧ cells.alike repeatedField 0 1 = .ok false ∧
        cells.alike repeatedField 1 2 = .ok true ∧ cells.barriers[3]? = some false ∧
        cells.alike repeatedField 3 3 = .ok false := by
  have fits : (ofRules repeatedField).width ≤ 4 := by
    decide
  have laidOut : ofRulesWithin 4 repeatedField = some (ofRules repeatedField) := by
    rw [ofRulesWithin_eq, if_pos fits]
  rcases cells_represent_rules laidOut with ⟨-, -, -, cells, isCells, ofRow, ofRules⟩
  rcases ofRow 0 _ rfl with ⟨-, ofColumn, barrier, isBarrier, repeats⟩
  rcases ofRow 3 _ rfl with ⟨-, -, other, isOther, otherRepeats⟩
  rcases ofColumn 0 (by decide) with ⟨cell, isCell, isLast⟩
  rcases ofRules 0 1 _ _ rfl rfl with ⟨repeated, isRepeated, repeatedIff⟩
  rcases ofRules 1 2 _ _ rfl rfl with ⟨swapped, isSwapped, swappedIff⟩
  rcases ofRules 3 3 _ _ rfl rfl with ⟨unknown, isUnknown, unknownIff⟩
  rw [← Rule.alike_iff_paired] at repeatedIff swappedIff unknownIff
  refine ⟨_, laidOut, by decide, cells, isCells, ?_, ?_, ?_, ?_, ?_, ?_⟩
  · rw [isCell, (isLast 1).mpr ⟨by decide, ?_⟩]
    intro later behind
    rw [List.getElem?_eq_none (Nat.succ_le_of_lt behind)]
    exact (Option.some_ne_none 0).symm
  · rw [isBarrier, repeats.mpr (by decide)]
  · rw [isRepeated, Bool.eq_false_iff.mpr (mt repeatedIff.mp (by decide))]
  · rw [isSwapped, swappedIff.mpr (by decide)]
  · rw [isOther, Bool.eq_false_iff.mpr (mt otherRepeats.mp (by decide))]
  · rw [isUnknown, Bool.eq_false_iff.mpr (mt unknownIff.mp (by decide))]

end Rules

end Grid

end Rulefold
