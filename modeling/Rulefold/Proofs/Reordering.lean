import Rulefold.Proofs.Detection
import Rulefold.Proofs.Pieces

/-!
# The same run on two grids

What a run leaves depends on the grid that it lies on in one respect. The columns of its selectors
are numbered as the chain happens to bring them up, and their numbering is the order of the
components of the concatenation and of the tuples. `Segment.survivor_congr` says that on another
grid the same rules leave the same rule, up to one reordering of the components throughout.
-/

namespace Rulefold

/-- Two lists of the same different entries differ by a permutation of the places. -/
theorem exists_order {α : Type} [DecidableEq α] {first second : List α}
    (perm : second.Perm first) (nodup : first.Nodup) :
    ∃ (count : Nat) (entries : Fin count → α) (order : Equiv.Perm (Fin count)),
      first = List.ofFn entries ∧ second = List.ofFn (entries ∘ order) := by
  rcases exists_pairing_of_perm perm (perm.nodup_iff.mpr nodup) with ⟨pairing, same⟩
  refine ⟨first.length, first.get, (finCongr perm.length_eq.symm).trans pairing,
    (List.ofFn_get first).symm, ?_⟩
  apply List.ext_getElem (by simp [perm.length_eq])
  intro place inSecond _
  rw [List.getElem_ofFn]
  exact (same ⟨place, inSecond⟩).symm

theorem map_eq_map_of_forall₂ {α β γ : Type} {related : α → β → Prop} {inputs : List α}
    {outputs : List β} {first : α → γ} {second : β → γ}
    (pairs : List.Forall₂ related inputs outputs)
    (same : ∀ input, ∀ output ∈ outputs, related input output → first input = second output) :
    inputs.map first = outputs.map second := by
  induction pairs with
  | nil => rfl
  | cons pair _ ih =>
      rw [List.map_cons, List.map_cons, same _ _ List.mem_cons_self pair,
        ih fun input output member => same input output (List.mem_cons_of_mem _ member)]

/-- Elements that agree in which of their keys are the same are kept at the same places. -/
theorem Expr.exists_distinct_map {α : Type} {first second : α → Expr}
    (same : ∀ item other, (first item).key = (first other).key ↔
      (second item).key = (second other).key) (items : List α) :
    ∃ kept : List α, distinct (items.map first) = kept.map first ∧
      distinct (items.map second) = kept.map second := by
  induction items with
  | nil => exact ⟨[], rfl, rfl⟩
  | cons item rest ih =>
      rcases ih with ⟨kept, keptFirst, keptSecond⟩
      refine ⟨item :: kept.filter fun other => (first other).key != (first item).key, ?_, ?_⟩
      · rw [List.map_cons, distinct, keptFirst, List.filter_map, List.map_cons]
        rfl
      · have sameFilter : (kept.filter fun other => (first other).key != (first item).key) =
            kept.filter fun other => (second other).key != (second item).key := by
          apply List.filter_congr
          intro other _
          rw [Bool.eq_iff_iff, bne_iff_ne, bne_iff_ne]
          exact not_congr (same other item)
        rw [List.map_cons, distinct, keptSecond, List.filter_map, List.map_cons, sameFilter]
        rfl

/-- The match of a concatenation with a set of tuples. -/
def Match.ofTuples {count : Nat} (flags : Flags SetFlag) (subject : Fin count → Expr)
    (tuples : List (Fin count → Expr)) : Match where
  op := .eq
  left := .concat (List.ofFn subject)
  right := .set flags (tuples.map fun tuple => .element (.concat (List.ofFn tuple)))

namespace Rule

/-- The rules differ at most in the order of the components of a concatenation, which is the same
in the tuples of the set that it is tested against, and in the place of that match. -/
def SameUpToOrder (first second : Rule) : Prop :=
  first.location = second.location ∧ first.handle = second.handle ∧
    ∃ (count : Nat) (order : Equiv.Perm (Fin count)) (flags : Flags SetFlag)
      (subject : Fin count → Expr) (tuples : List (Fin count → Expr))
      (before after secondBefore secondAfter : List Statement),
      before ++ after = secondBefore ++ secondAfter ∧
      first.statements = before ++ .matching (.ofTuples flags subject tuples) :: after ∧
      second.statements = secondBefore ++
        .matching (.ofTuples flags (subject ∘ order) (tuples.map (· ∘ order))) :: secondAfter

/-- The value that a rule tests a field for; an empty tuple if it does not test it. -/
def valueOf (rule : Rule) (field : Field) : Expr :=
  ((rule.tests.find? fun test => test.left = .field field).map Match.right).getD (.concat [])

theorem Plain.eq_of_left_eq {rule : Rule} (plain : rule.Plain) {field : Field}
    {test other : Match} (member : test ∈ rule.tests) (tests : test.Tests field)
    (otherMember : other ∈ rule.tests) (sameLeft : other.left = .field field) : other = test := by
  rcases plain.exists_tests otherMember with ⟨otherField, otherTests⟩
  have sameShape := Statement.shape?_matching_congr (otherTests.1.trans tests.1.symm)
    (sameLeft.trans tests.2.symm)
  have same := plain.eq_of_shape?_eq (mem_tests_iff.mp otherMember) (mem_tests_iff.mp member)
    sameShape
  rwa [Statement.matching.injEq] at same

theorem Plain.valueOf_eq {rule : Rule} (plain : rule.Plain) {field : Field} {test : Match}
    (member : test ∈ rule.tests) (tests : test.Tests field) :
    rule.valueOf field = test.right := by
  have isSome : (rule.tests.find? fun test => test.left = .field field).isSome = true :=
    List.find?_isSome.mpr ⟨test, member, decide_eq_true tests.2⟩
  rcases Option.isSome_iff_exists.mp isSome with ⟨other, found⟩
  have sameLeft : other.left = .field field := by
    simpa using List.find?_some found
  have same := plain.eq_of_left_eq member tests (List.mem_of_find?_eq_some found) sameLeft
  rw [valueOf, found, same]
  rfl

end Rule

/-- The fields that the selectors of a run test, in the order of the columns. -/
def Run.fields (grid : Grid) (run : Run) : List Field := run.selectors.filterMap grid.field?

namespace Run.Proper

variable {grid : Grid} {run : Run} {survivor : Rule}

theorem forall₂_tests (proper : run.Proper grid) (sound : grid.Sound) {row : Row}
    (member : row ∈ run.rows) :
    List.Forall₂ Match.Tests (run.fields grid) (row.testList run.selectors) :=
  Row.forall₂_testList sound (proper.mem_grid row member) (proper.plain member)
    (proper.selectors_subset member)

theorem map_left_testList (proper : run.Proper grid) (sound : grid.Sound) {row : Row}
    (member : row ∈ run.rows) :
    (row.testList run.selectors).map Match.left = (run.fields grid).map Expr.field := by
  symm
  apply map_eq_map_of_forall₂ (proper.forall₂_tests sound member)
  exact fun field test _ tests => tests.2.symm

theorem map_right_testList (proper : run.Proper grid) (sound : grid.Sound) {row : Row}
    (member : row ∈ run.rows) :
    (row.testList run.selectors).map Match.right = (run.fields grid).map row.rule.valueOf := by
  symm
  apply map_eq_map_of_forall₂ (proper.forall₂_tests sound member)
  intro field test inList tests
  exact (proper.plain member).valueOf_eq ((proper.perm_testList sound member).subset inList) tests

theorem nodup_fields (proper : run.Proper grid) (sound : grid.Sound) :
    (run.fields grid).Nodup := by
  rcases proper.exists_mem with ⟨row, member⟩
  have nodup : run.selectors.Nodup := by
    rw [← proper.selectors_eq row member]
    exact Grid.nodup_selectors
  apply nodup.filterMap
  intro column other field isField isOther
  exact sound.distinct (Grid.field?_eq_some_iff.mp isField) (Grid.field?_eq_some_iff.mp isOther)

/-- The fields of a run are those that its rules test. -/
theorem perm_fields (proper : run.Proper grid) (sound : grid.Sound) {row : Row}
    (member : row ∈ run.rows) :
    ((run.fields grid).map Expr.field).Perm (row.rule.tests.map Match.left) := by
  rw [← proper.map_left_testList sound member]
  exact (proper.perm_testList sound member).map Match.left

/-- The tuples have the values of the fields of the run. -/
theorem gathered_eq_tuples (proper : run.Proper grid) (sound : grid.Sound)
    (several : run.selectors.length ≠ 1) {count : Nat} {entries : Fin count → Field}
    (fields : run.fields grid = List.ofFn entries) : run.gathered =
      { op := .eq
        left := .concat (List.ofFn (Expr.field ∘ entries))
        right := .set (Match.gatheredFlags run.selectors.length) (Expr.distinct
          ((run.rows.map Row.rule).map fun rule =>
            .element (.concat (List.ofFn (rule.valueOf ∘ entries))))) } := by
  rcases proper.exists_first with ⟨first, rest, rows⟩
  have tuples : (run.rows.map fun row =>
      Expr.element (.concat ((row.testList run.selectors).map Match.right))) =
        (run.rows.map Row.rule).map fun rule =>
          .element (.concat (List.ofFn (rule.valueOf ∘ entries))) := by
    rw [List.map_map]
    apply List.map_congr_left
    intro row member
    rw [proper.map_right_testList sound member, fields, List.map_ofFn]
    rfl
  rw [proper.gathered_eq_of_several sound several rows, tuples,
    proper.map_left_testList sound (by simp [rows]), fields, List.map_ofFn, Match.gatheredFlags,
    if_neg several]

/-- What a run leaves has the gathered match somewhere among the actions of the first rule. -/
theorem split_actions (proper : run.Proper grid) (sound : grid.Sound)
    (folds : run.fold = .ok survivor) :
    ∃ first rest before after, run.rows.map Row.rule = first :: rest ∧
      survivor.location = first.location ∧ survivor.handle = first.handle ∧
      survivor.statements = before ++ .matching run.gathered :: after ∧
      before ++ after = first.statements.filter Statement.isAction := by
  rcases proper.split sound folds with
    ⟨first, rest, before, test, tests, after, rows, -, statements, rfl⟩
  refine ⟨first.rule, rest.map Row.rule, before.filter Statement.isAction,
    after.filter Statement.isAction, by rw [rows, List.map_cons], rfl, rfl, rfl, ?_⟩
  rw [statements, List.filter_append, List.filter_cons_of_neg (by simp [Statement.isAction,
    Statement.match?])]

section TwoGrids

variable {other : Grid} {otherRun : Run} {otherSurvivor : Rule}

theorem exists_shared (proper : run.Proper grid)
    (sameRules : run.rows.map Row.rule = otherRun.rows.map Row.rule) :
    ∃ row ∈ run.rows, ∃ otherRow ∈ otherRun.rows, row.rule = otherRow.rule := by
  rcases proper.exists_mem with ⟨row, member⟩
  have shared : row.rule ∈ run.rows.map Row.rule := List.mem_map_of_mem member
  rw [sameRules] at shared
  rcases List.mem_map.mp shared with ⟨otherRow, otherMember, same⟩
  exact ⟨row, member, otherRow, otherMember, same.symm⟩

theorem length_selectors_congr (proper : run.Proper grid) (sound : grid.Sound)
    (otherProper : otherRun.Proper other) (otherSound : other.Sound)
    (sameRules : run.rows.map Row.rule = otherRun.rows.map Row.rule) :
    otherRun.selectors.length = run.selectors.length := by
  rcases proper.exists_shared sameRules with ⟨row, member, otherRow, otherMember, same⟩
  rw [← proper.length_tests sound member, ← otherProper.length_tests otherSound otherMember, same]

/-- The selectors of a run come in another order on another grid. -/
theorem exists_order_fields (proper : run.Proper grid) (sound : grid.Sound)
    (otherProper : otherRun.Proper other) (otherSound : other.Sound)
    (sameRules : run.rows.map Row.rule = otherRun.rows.map Row.rule) :
    ∃ (count : Nat) (entries : Fin count → Field) (order : Equiv.Perm (Fin count)),
      run.fields grid = List.ofFn entries ∧
      otherRun.fields other = List.ofFn (entries ∘ order) := by
  apply exists_order _ (proper.nodup_fields sound)
  rcases proper.exists_shared sameRules with ⟨row, member, otherRow, otherMember, same⟩
  have injective : Function.Injective Expr.field := fun _ _ => Expr.field.inj
  rw [← List.map_perm_map_iff injective]
  refine (otherProper.perm_fields otherSound otherMember).trans ?_
  rw [← same]
  exact (proper.perm_fields sound member).symm

/-- With several selectors, what the rules of a run leave is the same on another grid up to the
order of the selectors. -/
theorem sameUpToOrder (proper : run.Proper grid) (sound : grid.Sound)
    (otherProper : otherRun.Proper other) (otherSound : other.Sound)
    (sameRules : run.rows.map Row.rule = otherRun.rows.map Row.rule)
    (several : run.selectors.length ≠ 1) (folds : run.fold = .ok survivor)
    (otherFolds : otherRun.fold = .ok otherSurvivor) : survivor.SameUpToOrder otherSurvivor := by
  have sameCount := proper.length_selectors_congr sound otherProper otherSound sameRules
  rcases proper.exists_order_fields sound otherProper otherSound sameRules with
    ⟨count, entries, order, fields, otherFields⟩
  have sameKeys : ∀ first second : Rule,
      (Expr.element (.concat (List.ofFn (first.valueOf ∘ entries)))).key =
          (Expr.element (.concat (List.ofFn (second.valueOf ∘ entries)))).key ↔
        (Expr.element (.concat (List.ofFn (first.valueOf ∘ entries ∘ order)))).key =
          (Expr.element (.concat (List.ofFn (second.valueOf ∘ entries ∘ order)))).key := by
    intro first second
    simp only [Expr.key, Expr.concat.injEq, List.ofFn_inj, ← Function.comp_assoc,
      order.surjective.right_cancellable]
  -- Tuples clash on one grid exactly when they do on the other, so the same rules keep theirs.
  rcases Expr.exists_distinct_map sameKeys (run.rows.map Row.rule) with
    ⟨kept, distinct, otherDistinct⟩
  rcases proper.split_actions sound folds with
    ⟨first, rest, before, after, rules, location, handle, statements, actions⟩
  rcases otherProper.split_actions otherSound otherFolds with
    ⟨otherFirst, otherRest, otherBefore, otherAfter, otherRules, otherLocation, otherHandle,
      otherStatements, otherActions⟩
  have sameFirst : first = otherFirst := by
    rw [rules, otherRules, List.cons.injEq] at sameRules
    exact sameRules.1
  subst sameFirst
  refine ⟨location.trans otherLocation.symm, handle.trans otherHandle.symm, count, order,
    Match.gatheredFlags run.selectors.length, Expr.field ∘ entries,
    kept.map fun rule => rule.valueOf ∘ entries, before, after, otherBefore, otherAfter,
    actions.trans otherActions.symm, ?_, ?_⟩
  · rw [statements, proper.gathered_eq_tuples sound several fields, distinct, Match.ofTuples,
      List.map_map]
    rfl
  · rw [otherStatements, otherProper.gathered_eq_tuples otherSound (sameCount ▸ several)
      otherFields, ← sameRules, sameCount, otherDistinct, Match.ofTuples, List.map_map,
      List.map_map]
    rfl

end TwoGrids

end Run.Proper

namespace Segment

variable {grid other : Grid} {segment otherSegment : Segment} {survivor otherSurvivor : Rule}

theorem isTupled_congr (sound : grid.Sound) (otherSound : other.Sound)
    (inGrid : segment ∈ grid.segments) (inOther : otherSegment ∈ other.segments)
    (sameRules : segment.rows.map Row.rule = otherSegment.rows.map Row.rule) :
    otherSegment.isTupled = segment.isTupled := by
  have sameLength := congrArg List.length sameRules
  rw [List.length_map, List.length_map] at sameLength
  match segment, otherSegment with
  | kept row, kept otherRow => rfl
  | merged run, merged otherRun =>
      rw [isTupled, isTupled, (Grid.proper_of_mem_segments sound inGrid).length_selectors_congr
        sound (Grid.proper_of_mem_segments otherSound inOther) otherSound sameRules]
  | kept row, merged otherRun =>
      have two_le := (Grid.proper_of_mem_segments otherSound inOther).two_le
      simp only [rows, List.length_singleton] at sameLength
      omega
  | merged run, kept otherRow =>
      have two_le := (Grid.proper_of_mem_segments sound inGrid).two_le
      simp only [rows, List.length_singleton] at sameLength
      omega

/-- On another grid the same rules leave the same rule, up to the order of several selectors. -/
theorem survivor_congr (sound : grid.Sound) (otherSound : other.Sound)
    (inGrid : segment ∈ grid.segments) (inOther : otherSegment ∈ other.segments)
    (sameRules : segment.rows.map Row.rule = otherSegment.rows.map Row.rule)
    (leaves : segment.survivor = .ok survivor)
    (otherLeaves : otherSegment.survivor = .ok otherSurvivor) :
    if segment.isTupled then survivor.SameUpToOrder otherSurvivor
    else otherSurvivor = survivor := by
  have sameTupled := isTupled_congr sound otherSound inGrid inOther sameRules
  cases tupled : segment.isTupled with
  | true =>
      rw [tupled] at sameTupled
      match segment, otherSegment with
      | merged run, merged otherRun =>
          exact (Grid.proper_of_mem_segments sound inGrid).sameUpToOrder sound
            (Grid.proper_of_mem_segments otherSound inOther) otherSound sameRules
            (bne_iff_ne.mp tupled) leaves otherLeaves
      | merged run, kept otherRow => cases sameTupled
      | kept row, _ => cases tupled
  | false =>
      have fused := fuse_eq sound inGrid tupled leaves
      rw [sameRules, fuse_eq otherSound inOther (sameTupled.trans tupled) otherLeaves,
        List.singleton_inj] at fused
      exact fused

end Segment

end Rulefold
