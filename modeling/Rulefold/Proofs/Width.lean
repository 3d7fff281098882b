import Mathlib.Data.List.Dedup
import Mathlib.Data.List.ReduceOption
import Rulefold.Proofs.Likeness

/-!
# How wide a grid is

A grid has one column for each shape that occurs among the statements, however often it does, and
a column for each occurrence of a statement without a shape.
-/

namespace Rulefold

namespace Columns

theorem some_mem_place {columns : Columns} {shape? : Option Shape} {shape : Shape} :
    some shape ∈ (columns.place shape?).1 ↔ some shape ∈ columns ∨ some shape = shape? := by
  cases shape? with
  | none => simp [place]
  | some other =>
      simp only [place]
      split
      · rename_i column found
        rcases List.idxOf?_eq_some_iff.mp found with ⟨inside, here, -⟩
        have known : some other ∈ columns := here ▸ List.getElem_mem inside
        constructor
        · exact .inl
        · intro inPlace
          rcases inPlace with member | same
          · exact member
          · exact same ▸ known
      · simp

theorem count_none_place (columns : Columns) (shape? : Option Shape) :
    (columns.place shape?).1.count none = columns.count none + [shape?].count none := by
  cases shape? with
  | none => simp [place]
  | some shape =>
      simp only [place]
      split <;> simp

theorem some_mem_placeAll {columns : Columns} {statements : List Statement} {shape : Shape} :
    some shape ∈ (columns.placeAll statements).1 ↔
      some shape ∈ columns ∨ some shape ∈ statements.map Statement.shape? := by
  induction statements generalizing columns with
  | nil => simp [placeAll]
  | cons statement rest ih =>
      simp only [placeAll]
      rw [ih, some_mem_place, List.map_cons, List.mem_cons, or_assoc]

theorem count_none_placeAll (columns : Columns) (statements : List Statement) :
    (columns.placeAll statements).1.count none =
      columns.count none + (statements.map Statement.shape?).count none := by
  induction statements generalizing columns with
  | nil => simp [placeAll]
  | cons statement rest ih =>
      simp only [placeAll]
      have split : (statement :: rest).map Statement.shape? =
          [statement.shape?] ++ rest.map Statement.shape? := rfl
      rw [ih, count_none_place, split, List.count_append, Nat.add_assoc]

theorem Distinct.nodup_reduceOption {columns : Columns} (distinct : columns.Distinct) :
    columns.reduceOption.Nodup := by
  rw [List.reduceOption, List.Nodup, List.pairwise_filterMap, List.pairwise_iff_getElem]
  intro first second firstInside secondInside before shape isShape other isOther same
  subst same
  have here : columns[first]? = some (some shape) := by
    rw [List.getElem?_eq_getElem firstInside]
    exact congrArg some isShape
  have there : columns[second]? = some (some shape) := by
    rw [List.getElem?_eq_getElem secondInside]
    exact congrArg some isOther
  have same := distinct here there
  omega

theorem length_eq (columns : Columns) :
    columns.length = columns.reduceOption.length + columns.count none := by
  induction columns with
  | nil => rfl
  | cons shape? rest ih =>
      cases shape? with
      | none =>
          simp only [List.length_cons, List.reduceOption_cons_of_none, List.count_cons_self]
          omega
      | some shape =>
          simp only [List.length_cons, List.reduceOption_cons_of_some, List.count_cons]
          simp
          omega

end Columns

namespace Rule

/-- The shapes of the statements of several rules, in order. -/
def allShapes (rules : List Rule) : List (Option Shape) := rules.flatMap shapes

/-- The different shapes that occur in several rules. -/
def kinds (rules : List Rule) : List Shape := (allShapes rules).reduceOption.dedup

/-- The number of statements without a shape in several rules. -/
def shapeless (rules : List Rule) : Nat := (allShapes rules).count none

theorem allShapes_cons (rule : Rule) (rules : List Rule) :
    allShapes (rule :: rules) = rule.shapes ++ allShapes rules := List.flatMap_cons

theorem allShapes_append (first second : List Rule) :
    allShapes (first ++ second) = allShapes first ++ allShapes second := List.flatMap_append

theorem shapeless_cons (rule : Rule) (rules : List Rule) :
    shapeless (rule :: rules) = rule.shapes.count none + shapeless rules := by
  rw [shapeless, allShapes_cons, List.count_append, shapeless]

theorem mem_kinds_iff {rules : List Rule} {shape : Shape} :
    shape ∈ kinds rules ↔ some shape ∈ allShapes rules := by
  rw [kinds, List.mem_dedup, List.reduceOption_mem_iff]

theorem nodup_kinds (rules : List Rule) : (kinds rules).Nodup := List.nodup_dedup _

end Rule

namespace Grid

theorem some_mem_layOut {columns : Columns} {index : Nat} {rules : List Rule} {shape : Shape} :
    some shape ∈ (layOut columns index rules).1 ↔
      some shape ∈ columns ∨ some shape ∈ Rule.allShapes rules := by
  induction rules generalizing columns index with
  | nil => simp [layOut, Rule.allShapes]
  | cons rule rest ih =>
      simp only [layOut]
      rw [ih, Columns.some_mem_placeAll, Rule.allShapes_cons, List.mem_append, or_assoc]
      rfl

theorem count_none_layOut (columns : Columns) (index : Nat) (rules : List Rule) :
    (layOut columns index rules).1.count none = columns.count none + Rule.shapeless rules := by
  induction rules generalizing columns index with
  | nil => simp [layOut, Rule.shapeless, Rule.allShapes]
  | cons rule rest ih =>
      simp only [layOut]
      rw [ih, Columns.count_none_placeAll, Rule.shapeless_cons, Rule.shapes, Nat.add_assoc]

/-- A grid has a column for each different shape and one for each statement without a shape. -/
theorem width_ofRules (rules : List Rule) :
    (ofRules rules).width = (Rule.kinds rules).length + Rule.shapeless rules := by
  have distinct := (sound_ofRules rules).distinct
  have sameKinds : (ofRules rules).columns.reduceOption.Perm (Rule.kinds rules) := by
    rw [List.perm_ext_iff_of_nodup distinct.nodup_reduceOption (Rule.nodup_kinds rules)]
    intro shape
    rw [List.reduceOption_mem_iff, Rule.mem_kinds_iff]
    refine (@some_mem_layOut [] 0 rules shape).trans ?_
    simp
  have sameBlanks : (ofRules rules).columns.count none = Rule.shapeless rules := by
    refine (count_none_layOut [] 0 rules).trans ?_
    simp
  rw [width, Columns.length_eq, sameKinds.length_eq, sameBlanks]

/-- The order of the statements does not count, neither in a rule nor from rule to rule. -/
theorem width_eq_of_perm {first second : List Rule}
    (perm : (Rule.allShapes first).Perm (Rule.allShapes second)) :
    (ofRules first).width = (ofRules second).width := by
  have sameKinds : (Rule.kinds first).Perm (Rule.kinds second) := (perm.filterMap id).dedup
  simp only [width_ofRules, sameKinds.length_eq, Rule.shapeless, perm.count_eq]

/-- Fewer statements need no more columns. -/
theorem width_le_of_sublist {first second : List Rule}
    (sublist : (Rule.allShapes first).Sublist (Rule.allShapes second)) :
    (ofRules first).width ≤ (ofRules second).width := by
  rw [width_ofRules, width_ofRules]
  have fewerKinds : (Rule.kinds first).length ≤ (Rule.kinds second).length := by
    refine (List.subperm_of_subset (Rule.nodup_kinds first) ?_).length_le
    intro shape member
    rw [Rule.mem_kinds_iff] at member ⊢
    exact sublist.subset member
  exact Nat.add_le_add fewerKinds (sublist.count_le none)

end Grid

end Rulefold
