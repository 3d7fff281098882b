import Mathlib.Data.List.Perm.Subperm
import Mathlib.Data.List.Nodup
import Rulefold.Grid

/-!
# How rules lie on a grid

Patterns are the same as those of a column exactly when they have the shape of the column, so a
grid can be laid out by shapes. Columns are only ever added at the end, so a statement is found
again in the column where it was placed. On the finished grid every statement stands in a column of
its shape, and no shape has two columns. The numbering of the columns says nothing beyond that.
Laying out within a number of columns gives up early exactly when the finished grid would have more.
-/

namespace Rulefold

namespace Columns

/-- Finds the column for a statement with the given shape, and adds one if there is none. No
column is ever found again without a shape. -/
def place (columns : Columns) (shape? : Option Shape) : Columns × Nat :=
  match shape? with
  | none => (columns ++ [none], columns.length)
  | some shape =>
    match columns.idxOf? (some shape) with
    | some column => (columns, column)
    | none => (columns ++ [some shape], columns.length)

/-- Finds the columns for the statements of a rule, in their order. -/
def placeAll (columns : Columns) : List Statement → Columns × List Nat
  | [] => (columns, [])
  | statement :: rest =>
    let (columns, column) := columns.place statement.shape?
    let (columns, others) := placeAll columns rest
    (columns, column :: others)

/-- The statements stand in columns of their shapes. -/
def Holds (columns : Columns) (statements : List Statement) (places : List Nat) : Prop :=
  places.map (fun place => columns[place]?) = statements.map fun statement => some statement.shape?

/-- No shape has two columns. -/
def Distinct (columns : Columns) : Prop :=
  ∀ ⦃first second : Nat⦄ ⦃shape : Shape⦄, columns[first]? = some (some shape) →
    columns[second]? = some (some shape) → first = second

theorem distinct_nil : Distinct [] := by
  intro first second shape found
  simp at found

theorem holds_nil (columns : Columns) : columns.Holds [] [] := rfl

theorem holds_cons {columns : Columns} {statement : Statement} {statements : List Statement}
    {place : Nat} {places : List Nat} :
    columns.Holds (statement :: statements) (place :: places) ↔
      columns[place]? = some statement.shape? ∧ columns.Holds statements places := by
  simp [Holds]

theorem Holds.length_eq {columns : Columns} {statements : List Statement} {places : List Nat}
    (holds : columns.Holds statements places) : places.length = statements.length := by
  simpa using congrArg List.length holds

theorem Holds.grow {columns later : Columns} {statements : List Statement}
    {places : List Nat} (grown : columns <+: later) (holds : columns.Holds statements places) :
    later.Holds statements places := by
  induction statements generalizing places with
  | nil =>
      have empty : places = [] := by simpa using holds.length_eq
      rw [empty]
      exact holds_nil later
  | cons statement rest ih =>
      cases places with
      | nil => simp [Holds] at holds
      | cons place places =>
          rw [holds_cons] at holds ⊢
          refine ⟨?_, ih holds.2⟩
          rcases grown with ⟨suffix, rfl⟩
          rw [List.getElem?_append_left (List.getElem?_eq_some_iff.mp holds.1).1]
          exact holds.1

theorem prefix_place (columns : Columns) (shape? : Option Shape) :
    columns <+: (columns.place shape?).1 := by
  cases shape? with
  | none => simp [place]
  | some shape =>
      simp only [place]
      split <;> simp

theorem getElem?_place (columns : Columns) (shape? : Option Shape) :
    (columns.place shape?).1[(columns.place shape?).2]? = some shape? := by
  cases shape? with
  | none => simp [place]
  | some shape =>
      simp only [place]
      split
      · rename_i column found
        rcases List.idxOf?_eq_some_iff.mp found with ⟨inside, here, -⟩
        rw [List.getElem?_eq_getElem inside, here]
      · simp

theorem Distinct.place {columns : Columns} (distinct : columns.Distinct)
    (shape? : Option Shape) : (columns.place shape?).1.Distinct := by
  have append_of_new : ∀ added : Option Shape, (∀ shape, added = some shape → added ∉ columns) →
      (columns ++ [added] : Columns).Distinct := by
    intro added new first second shape firstFound secondFound
    rw [List.getElem?_append] at firstFound secondFound
    split at firstFound <;> split at secondFound
    · exact distinct firstFound secondFound
    · rw [List.getElem?_singleton] at secondFound
      split at secondFound <;> simp at secondFound
      exact absurd (secondFound ▸ List.mem_of_getElem? firstFound) (new shape secondFound)
    · rw [List.getElem?_singleton] at firstFound
      split at firstFound <;> simp at firstFound
      exact absurd (firstFound ▸ List.mem_of_getElem? secondFound) (new shape firstFound)
    · rw [List.getElem?_singleton] at firstFound secondFound
      split at firstFound <;> simp at firstFound
      split at secondFound <;> simp at secondFound
      omega
  cases shape? with
  | none => exact append_of_new none (by simp)
  | some shape =>
      simp only [Columns.place]
      split
      · exact distinct
      · rename_i missing
        exact append_of_new (some shape) fun _ _ => List.idxOf?_eq_none_iff.mp missing

theorem prefix_placeAll (columns : Columns) (statements : List Statement) :
    columns <+: (columns.placeAll statements).1 := by
  induction statements generalizing columns with
  | nil => exact List.prefix_rfl
  | cons statement rest ih => exact (prefix_place columns _).trans (ih _)

theorem holds_placeAll (columns : Columns) (statements : List Statement) :
    (columns.placeAll statements).1.Holds statements (columns.placeAll statements).2 := by
  induction statements generalizing columns with
  | nil => exact holds_nil columns
  | cons statement rest ih =>
      simp only [placeAll, holds_cons]
      refine ⟨?_, ih _⟩
      have here := getElem?_place columns statement.shape?
      rcases prefix_placeAll (columns.place statement.shape?).1 rest with ⟨suffix, later⟩
      rw [← later, List.getElem?_append_left (List.getElem?_eq_some_iff.mp here).1]
      exact here

theorem Distinct.placeAll {columns : Columns} (distinct : columns.Distinct)
    (statements : List Statement) : (columns.placeAll statements).1.Distinct := by
  induction statements generalizing columns with
  | nil => exact distinct
  | cons statement rest ih => exact ih (distinct.place statement.shape?)

end Columns

namespace Registry

/-- Patterns are the same as a given one exactly when they have its shape. -/
theorem column?_eq (registry : Registry) (pattern : Pattern) : registry.column? pattern =
    pattern.shape?.bind fun shape => registry.columns.idxOf? (some shape) := by
  rw [column?, columns]
  cases isShape : pattern.shape? with
  | none =>
      rw [Option.bind_none, List.findIdx?_eq_none_iff]
      intro other member
      rw [Bool.eq_false_iff, Ne, Pattern.same_iff, isShape]
      rintro ⟨shape, -, isNone⟩
      cases isNone
  | some shape =>
      rw [Option.bind_some, List.idxOf?, List.findIdx?_map]
      congr 1
      funext other
      rw [Bool.eq_iff_iff, Pattern.same_iff, isShape]
      simp

/-- What was placed, by the shapes of the columns. -/
def byShape {α : Type} (placed : Registry × α) : Columns × α := (placed.1.columns, placed.2)

theorem map_byShape_bind {α β : Type} (placed : Option (Registry × α)) (next : α → β) :
    (placed.bind fun (registry, first) => some (registry, next first)).map byShape =
      (placed.map byShape).map fun (columns, first) => (columns, next first) := by
  cases placed <;> rfl

theorem columns_concat (registry : Registry) (statement : Statement) :
    columns (registry ++ [statement.pattern]) = registry.columns ++ [statement.shape?] := by
  rw [columns, List.map_append, List.map_singleton, Statement.shape?_pattern, columns]

theorem length_columns (registry : Registry) : registry.columns.length = registry.length :=
  List.length_map _

/-- A statement is placed as its shape is, unless that makes too many columns. -/
theorem place_eq {max : Nat} {registry : Registry} (fits : registry.columns.length ≤ max)
    (statement : Statement) : (registry.place max statement.pattern).map byShape =
      if (registry.columns.place statement.shape?).1.length ≤ max then
        some (registry.columns.place statement.shape?)
      else none := by
  have added : (if max ≤ registry.length then none
      else some (registry ++ [statement.pattern], registry.length)).map byShape =
        if (registry.columns ++ [statement.shape?]).length ≤ max then
          some (registry.columns ++ [statement.shape?], registry.columns.length)
        else none := by
    rw [List.length_append, length_columns, List.length_singleton]
    by_cases full : max ≤ registry.length
    · rw [if_pos full, if_neg (by omega)]
      rfl
    · rw [if_neg full, if_pos (by omega), Option.map_some, byShape, columns_concat]
  rw [place, column?_eq, Statement.shape?_pattern]
  cases shaped : statement.shape? with
  | none => rwa [shaped] at added
  | some shape =>
      rw [shaped] at added
      rw [Option.bind_some, Columns.place]
      cases registry.columns.idxOf? (some shape) with
      | none => exact added
      | some column => exact (if_pos fits).symm

theorem placeAll_eq {max : Nat} {registry : Registry} (fits : registry.columns.length ≤ max)
    (statements : List Statement) : (registry.placeAll max statements).map byShape =
      if (registry.columns.placeAll statements).1.length ≤ max then
        some (registry.columns.placeAll statements)
      else none := by
  induction statements generalizing registry with
  | nil => exact (if_pos fits).symm
  | cons statement rest ih =>
      have here := place_eq fits statement
      have grown := (Columns.prefix_placeAll
        (registry.columns.place statement.shape?).1 rest).length_le
      rw [placeAll, Option.bind_eq_bind]
      by_cases room : (registry.columns.place statement.shape?).1.length ≤ max
      · rw [if_pos room, Option.map_eq_some_iff] at here
        rcases here with ⟨⟨next, column⟩, placed, isNext⟩
        rw [← isNext] at room
        rw [placed, Option.bind_some, Columns.placeAll, ← isNext]
        refine (map_byShape_bind _ (column :: ·)).trans ?_
        rw [ih room, byShape]
        split <;> simp [*]
      · have tooMany : ¬(registry.columns.placeAll (statement :: rest)).1.length ≤ max := by
          simp only [Columns.placeAll]
          omega
        rw [if_neg room, Option.map_eq_none_iff] at here
        rw [here, if_neg tooMany]
        rfl

end Registry

namespace Grid

/-- Lays out rules below columns that are already there, counting from an index. -/
def layOut (columns : Columns) (index : Nat) : List Rule → Columns × List Row
  | [] => (columns, [])
  | rule :: rest =>
    let (columns, own) := columns.placeAll rule.statements
    let (columns, rows) := layOut columns (index + 1) rest
    (columns, { index, rule, columns := own } :: rows)

/-- The grid of a list of rules. -/
def ofRules (rules : List Rule) : Grid :=
  let (columns, rows) := layOut [] 0 rules
  { columns, rows }

/-- Laying out rules loses none of them. -/
theorem map_rule_layOut (columns : Columns) (index : Nat) (rules : List Rule) :
    (layOut columns index rules).2.map Row.rule = rules := by
  induction rules generalizing columns index with
  | nil => rfl
  | cons rule rest ih => simp [layOut, ih]

/-- The rows stand for the rules, in order. -/
theorem map_rule_rows_ofRules (rules : List Rule) : (ofRules rules).rows.map Row.rule = rules :=
  map_rule_layOut [] 0 rules

/-- Rows are numbered from the given index on. -/
theorem map_index_layOut (columns : Columns) (index : Nat) (rules : List Rule) :
    (layOut columns index rules).2.map Row.index = List.range' index rules.length := by
  induction rules generalizing columns index with
  | nil => rfl
  | cons rule rest ih => simp [layOut, ih, List.range'_succ]

theorem prefix_layOut (columns : Columns) (index : Nat) (rules : List Rule) :
    columns <+: (layOut columns index rules).1 := by
  induction rules generalizing columns index with
  | nil => exact List.prefix_rfl
  | cons rule rest ih => exact (Columns.prefix_placeAll columns _).trans (ih _ _)

theorem layOutWithin_eq {max : Nat} {registry : Registry} (fits : registry.columns.length ≤ max)
    (index : Nat) (rules : List Rule) :
    (layOutWithin max registry index rules).map Registry.byShape =
      if (layOut registry.columns index rules).1.length ≤ max then
        some (layOut registry.columns index rules)
      else none := by
  induction rules generalizing registry index with
  | nil => exact (if_pos fits).symm
  | cons rule rest ih =>
      have here := Registry.placeAll_eq fits rule.statements
      have grown := (prefix_layOut
        (registry.columns.placeAll rule.statements).1 (index + 1) rest).length_le
      rw [layOutWithin, Option.bind_eq_bind]
      by_cases room : (registry.columns.placeAll rule.statements).1.length ≤ max
      · rw [if_pos room, Option.map_eq_some_iff] at here
        rcases here with ⟨⟨next, own⟩, placed, isNext⟩
        rw [← isNext] at room
        rw [placed, Option.bind_some, layOut, ← isNext]
        refine (Registry.map_byShape_bind _ (Row.mk index rule own :: ·)).trans ?_
        rw [ih room, Registry.byShape]
        split <;> simp [*]
      · have tooMany : ¬(layOut registry.columns index (rule :: rest)).1.length ≤ max := by
          simp only [layOut]
          omega
        rw [if_neg room, Option.map_eq_none_iff] at here
        rw [here, if_neg tooMany]
        rfl

/-- Rules can be laid out within a number of columns exactly when their grid is no wider, and the
number does not count for the grid. -/
theorem ofRulesWithin_eq (max : Nat) (rules : List Rule) : ofRulesWithin max rules =
    if (ofRules rules).width ≤ max then some (ofRules rules) else none := by
  have laidOut := @layOutWithin_eq max [] (Nat.zero_le max) 0 rules
  calc
    ofRulesWithin max rules = ((layOutWithin max [] 0 rules).map Registry.byShape).map
        fun (columns, rows) => { columns, rows } := by
      rw [ofRulesWithin, Option.map_map]
      rfl
    _ = if (ofRules rules).width ≤ max then some (ofRules rules) else none := by
      by_cases narrow : (ofRules rules).width ≤ max
      · rw [if_pos narrow, laidOut.trans (if_pos narrow)]
        rfl
      · rw [if_neg narrow, laidOut.trans (if_neg narrow)]
        rfl

theorem eq_ofRules {max : Nat} {rules : List Rule} {grid : Grid}
    (laidOut : ofRulesWithin max rules = some grid) : grid = ofRules rules := by
  rw [ofRulesWithin_eq, Option.ite_none_right_eq_some, Option.some_inj] at laidOut
  exact laidOut.2.symm

theorem distinct_layOut {columns : Columns} (distinct : columns.Distinct) (index : Nat)
    (rules : List Rule) : (layOut columns index rules).1.Distinct := by
  induction rules generalizing columns index with
  | nil => exact distinct
  | cons rule rest ih => exact ih (distinct.placeAll rule.statements) _

theorem holds_layOut (columns : Columns) (index : Nat) (rules : List Rule) :
    ∀ row ∈ (layOut columns index rules).2,
      (layOut columns index rules).1.Holds row.rule.statements row.columns := by
  induction rules generalizing columns index with
  | nil => simp [layOut]
  | cons rule rest ih =>
      intro row member
      simp only [layOut, List.mem_cons] at member ⊢
      rcases member with rfl | member
      · exact (Columns.holds_placeAll columns rule.statements).grow (prefix_layOut _ _ rest)
      · exact ih _ _ row member

/-- A grid whose rows lie under its columns as their statements demand. -/
structure Sound (grid : Grid) : Prop where
  distinct : grid.columns.Distinct
  holds : ∀ row ∈ grid.rows, grid.columns.Holds row.rule.statements row.columns

theorem sound_ofRules (rules : List Rule) : (ofRules rules).Sound where
  distinct := distinct_layOut Columns.distinct_nil 0 rules
  holds := holds_layOut [] 0 rules

theorem index_of_getElem? {columns : Columns} {index place : Nat} {rules : List Rule} {row : Row}
    (found : (layOut columns index rules).2[place]? = some row) : row.index = index + place := by
  have indexed := congrArg (fun indices => indices[place]?) (map_index_layOut columns index rules)
  have inside := (List.getElem?_eq_some_iff.mp found).1
  rw [← List.length_map Row.index, map_index_layOut, List.length_range'] at inside
  simp only [List.getElem?_map, found, Option.map_some, List.getElem?_range' inside, Nat.one_mul,
    Option.some_inj] at indexed
  exact indexed

theorem map_index_rows_ofRules (rules : List Rule) :
    (ofRules rules).rows.map Row.index = List.range rules.length :=
  (map_index_layOut [] 0 rules).trans List.range_eq_range'.symm

/-- The row at a place of the grid stands for the rule at that place. -/
theorem getElem?_rows {rules : List Rule} {place : Nat} {row : Row}
    (found : (ofRules rules).rows[place]? = some row) :
    row.index = place ∧ rules[place]? = some row.rule := by
  have placed : (layOut [] 0 rules).2[place]? = some row := found
  refine ⟨by simpa using index_of_getElem? placed, ?_⟩
  simpa [found] using (congrArg (fun list => list[place]?) (map_rule_rows_ofRules rules)).symm

theorem getElem?_index {rules : List Rule} {row : Row} (member : row ∈ (ofRules rules).rows) :
    rules[row.index]? = some row.rule := by
  rcases List.mem_iff_getElem?.mp member with ⟨place, found⟩
  rcases getElem?_rows found with ⟨rfl, isRule⟩
  exact isRule

end Grid

end Rulefold
