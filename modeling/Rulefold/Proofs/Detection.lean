import Mathlib.Data.List.NodupEquivFin
import Rulefold.Proofs.Grouping

/-!
# Which rules are folded together

It can be told from two neighbours of a chain alone whether they are folded together: whether the
statements of one can be paired with alike statements of the other, whether they test something,
and whether a set stands in the way. The runs of a grid are stretches of such neighbours, and no
stretch could be longer.
-/

namespace Rulefold

theorem exists_pairing_of_perm {α : Type} [DecidableEq α] {first second : List α}
    (perm : first.Perm second) (nodup : first.Nodup) :
    ∃ pairing : Fin first.length ≃ Fin second.length,
      ∀ place, second[pairing place] = first[place] := by
  have secondNodup := perm.nodup_iff.mp nodup
  refine ⟨(nodup.getEquiv first).trans
    ((Equiv.subtypeEquivRight fun _ => perm.mem_iff).trans (secondNodup.getEquiv second).symm), ?_⟩
  intro place
  exact congrArg Subtype.val ((secondNodup.getEquiv second).apply_symm_apply
    ⟨first[place], perm.mem_iff.mp (List.getElem_mem place.isLt)⟩)

namespace Rule

/-- No two statements of a rule are alike. -/
def Unrepeated (rule : Rule) : Prop :=
  rule.statements.Pairwise fun statement other =>
    Statement.alike (some statement) (some other) = false

/-- The statements of two rules can be paired so that those of each pair are alike. -/
def Paired (first second : Rule) : Prop :=
  ∃ pairing : Fin first.statements.length ≃ Fin second.statements.length, ∀ place,
    Statement.alike (some first.statements[place]) (some second.statements[pairing place]) = true

/-- Two rules are folded together when they follow one another. -/
structure FoldsWith (first second : Rule) : Prop where
  left : first.Unrepeated
  right : second.Unrepeated
  paired : first.Paired second
  tests_ne_nil : first.tests ≠ [] ∧ second.tests ≠ []
  one_or_free : first.tests.length = 1 ∧ second.tests.length = 1 ∨
    ∀ test ∈ first.tests ++ second.tests, test.right.isSet = false

variable {first second : Rule}

theorem Plain.unrepeated {rule : Rule} (plain : rule.Plain) : rule.Unrepeated := by
  apply (List.pairwise_map.mp plain.nodup).imp
  intro statement other differ
  rw [← Bool.not_eq_true, Statement.alike_some_iff]
  rintro ⟨shape, isShape, isOtherShape⟩
  exact differ (isShape.trans isOtherShape.symm)

theorem Unrepeated.plain {rule : Rule} (unrepeated : rule.Unrepeated)
    (shaped : none ∉ rule.shapes) : rule.Plain := by
  refine ⟨shaped, List.pairwise_map.mpr ?_⟩
  apply unrepeated.imp_of_mem
  intro statement other member _ apart same
  cases isShape : statement.shape? with
  | none => exact shaped (isShape ▸ List.mem_map_of_mem member)
  | some shape =>
      have alike := Statement.alike_some_iff.mpr ⟨shape, isShape, same ▸ isShape⟩
      simp [alike] at apart

theorem Paired.symm (paired : first.Paired second) : second.Paired first := by
  rcases paired with ⟨pairing, alike⟩
  refine ⟨pairing.symm, fun place => ?_⟩
  rw [Statement.alike_comm]
  simpa using alike (pairing.symm place)

theorem Paired.mem_shapes (paired : first.Paired second) {shape? : Option Shape}
    (member : shape? ∈ first.shapes) : shape? ≠ none ∧ shape? ∈ second.shapes := by
  rcases paired with ⟨pairing, alike⟩
  rcases List.mem_map.mp member with ⟨statement, inRule, rfl⟩
  rcases List.mem_iff_get.mp inRule with ⟨place, rfl⟩
  rcases Statement.alike_some_iff.mp (alike place) with ⟨shape, isShape, isOtherShape⟩
  have inSecond : some shape ∈ second.shapes :=
    isOtherShape ▸ List.mem_map_of_mem (List.getElem_mem (pairing place).isLt)
  simp_all

theorem Alike.paired (alike : first.Alike second) : first.Paired second := by
  rcases exists_pairing_of_perm alike.perm_shapes alike.left.nodup with ⟨pairing, same⟩
  refine ⟨(finCongr (List.length_map _).symm).trans (pairing.trans (finCongr (List.length_map _))),
    fun place => ?_⟩
  have sameHere := same (place.cast (List.length_map _).symm)
  simp only [shapes, Fin.getElem_fin, List.getElem_map, Fin.val_cast] at sameHere
  rcases Option.ne_none_iff_exists'.mp
    (alike.left.shape?_ne_none (List.getElem_mem place.isLt)) with ⟨shape, isShape⟩
  exact Statement.alike_some_iff.mpr ⟨shape, isShape, sameHere.trans isShape⟩

/-- Rules are alike exactly when neither repeats itself and their statements can be paired. -/
theorem alike_iff_paired :
    first.Alike second ↔ first.Unrepeated ∧ second.Unrepeated ∧ first.Paired second := by
  constructor
  · intro alike
    exact ⟨alike.left.unrepeated, alike.right.unrepeated, alike.paired⟩
  · rintro ⟨left, right, paired⟩
    exact {
      left := left.plain fun member => (paired.mem_shapes member).1 rfl
      right := right.plain fun member => (paired.symm.mem_shapes member).1 rfl
      mem_shapes_iff := fun shape =>
        ⟨fun member => (paired.mem_shapes member).2,
          fun member => (paired.symm.mem_shapes member).2⟩ }

theorem foldsWith_iff : first.FoldsWith second ↔ first.Joins second := by
  constructor
  · intro folds
    exact {
      alike := alike_iff_paired.mpr ⟨folds.left, folds.right, folds.paired⟩
      tests_ne_nil := folds.tests_ne_nil.1
      one_or_free := folds.one_or_free.imp_left And.left }
  · intro joins
    rcases alike_iff_paired.mp joins.alike with ⟨left, right, paired⟩
    have sameLength := joins.alike.length_tests
    refine ⟨left, right, paired, ⟨joins.tests_ne_nil, ?_⟩, joins.one_or_free.imp_left ?_⟩
    · intro empty
      apply joins.tests_ne_nil
      simpa [empty] using sameLength
    · intro one
      exact ⟨one, sameLength ▸ one⟩

end Rule

namespace Grid

variable {grid : Grid} {rules : List Rule}

theorem flatMap_rows_runs_sublist : (grid.runs.flatMap Run.rows).Sublist grid.rows := by
  rw [← flatMap_rows_segments, runs]
  induction grid.segments with
  | nil => exact .slnil
  | cons segment rest ih =>
      cases segment with
      | kept row => exact ih.cons row
      | merged run => exact (List.append_sublist_append_left run.rows).mpr ih

/-- Two neighbours lie in one run exactly when they belong together. -/
theorem exists_mem_runs_iff {place : Nat} {first second : Rule}
    (isFirst : rules[place]? = some first) (isSecond : rules[place + 1]? = some second) :
    (∃ run ∈ (ofRules rules).runs, place ∈ run.places ∧ place + 1 ∈ run.places) ↔
      first.Joins second := by
  have sound := sound_ofRules rules
  constructor
  · rintro ⟨run, isRun, firstMember, secondMember⟩
    rcases places_of_mem isRun firstMember with ⟨row, inRun, found⟩
    rcases places_of_mem isRun secondMember with ⟨other, otherInRun, otherFound⟩
    cases isFirst.symm.trans found
    cases isSecond.symm.trans otherFound
    exact (proper_of_mem_segments sound (mem_runs_iff.mp isRun)).joins sound inRun otherInRun
  · intro joins
    have inside : place + 1 < (ofRules rules).rows.length := by
      rw [← List.length_map Row.rule, map_rule_rows_ofRules]
      exact (List.getElem?_eq_some_iff.mp isSecond).1
    have split : (ofRules rules).rows = (ofRules rules).rows.take place ++
        (ofRules rules).rows[place] :: (ofRules rules).rows[place + 1] ::
          (ofRules rules).rows.drop (place + 2) := by
      simp
    rcases getElem?_rows (List.getElem?_eq_getElem (Nat.lt_of_succ_lt inside)) with
      ⟨firstIndex, firstRule⟩
    rcases getElem?_rows (List.getElem?_eq_getElem inside) with ⟨secondIndex, secondRule⟩
    cases isFirst.symm.trans firstRule
    cases isSecond.symm.trans secondRule
    rcases @exists_mem_splitBy Row (fun first second => first.rule.joins second.rule) _ _ _ _ _
      split (Rule.joins_iff.mpr joins) with ⟨part, inSplit, firstMember, secondMember⟩
    rw [← map_rows_segments sound] at inSplit
    rcases List.mem_map.mp inSplit with ⟨segment, inGrid, rfl⟩
    cases segment with
    | kept row =>
        simp only [Segment.rows, List.mem_singleton] at firstMember secondMember
        rw [firstMember, ← secondMember] at firstIndex
        omega
    | merged run =>
        exact ⟨run, mem_runs_iff.mpr inGrid, List.mem_map.mpr ⟨_, firstMember, firstIndex⟩,
          List.mem_map.mpr ⟨_, secondMember, secondIndex⟩⟩

/-- The runs of a chain come in the order of their rules, and none has a rule of another. -/
theorem pairwise_runs : (ofRules rules).runs.Pairwise fun run other =>
    ∀ place ∈ run.places, ∀ later ∈ other.places, place < later := by
  have places := (@flatMap_rows_runs_sublist (ofRules rules)).map Row.index
  rw [map_index_rows_ofRules, List.map_flatMap] at places
  exact (List.pairwise_flatMap.mp (List.pairwise_lt_range.sublist places)).2

theorem mem_selectors_iff_exists_test (sound : grid.Sound) {row : Row} (inGrid : row ∈ grid.rows)
    (plain : row.rule.Plain) {column : Nat} : column ∈ grid.selectors row ↔
      ∃ test, (.matching test, column) ∈ row.rule.statements.zip row.columns := by
  constructor
  · intro member
    rcases Row.exists_match?_of_mem_selectors sound inGrid plain member with ⟨-, test, -, found, -⟩
    rcases Option.bind_eq_some_iff.mp found with ⟨statement, placed, isMatch⟩
    rcases Statement.match?_eq_some_iff.mp isMatch with rfl
    exact ⟨test, Row.mem_zip_of_statement? placed⟩
  · rintro ⟨test, member⟩
    rcases Row.getElem?_of_mem_zip (sound.holds row inGrid) member with ⟨inRule, inColumns, here⟩
    rcases Statement.exists_field_of_matching (plain.shape?_ne_none inRule) with ⟨field, shaped⟩
    exact mem_selectors_iff.mpr ⟨inColumns, field, field?_eq_some_iff.mpr (shaped ▸ here)⟩

/-- The selectors of a run are the columns that hold the shapes of the matches of its rules. -/
theorem mem_selectors_iff_shape {run : Run} (isRun : run ∈ (ofRules rules).runs) {row : Row}
    (member : row ∈ run.rows) {column : Nat} : column ∈ run.selectors ↔
      ∃ test, .matching test ∈ row.rule.statements ∧
        (ofRules rules).columns[column]? = some (Statement.matching test).shape? := by
  have sound := sound_ofRules rules
  have proper := proper_of_mem_runs sound isRun
  have inGrid := proper.mem_grid row member
  have plain := proper.plain member
  rw [← proper.selectors_eq row member, mem_selectors_iff_exists_test sound inGrid plain]
  exact exists_congr fun test =>
    Row.mem_zip_iff sound.distinct (sound.holds row inGrid) plain.shaped

/-- The runs that a scan finds are stretches of at least two rules, in order and without a rule in
common. Two neighbours lie in one of them exactly when they are folded together, and the selectors
of a run are the columns of the matches of each of its rules, in order. -/
theorem scan_maximal {max : Nat} (laidOut : ofRulesWithin max rules = some grid) :
    ∃ cells findings spans, Cells.ofGrid grid = .ok cells ∧
      cells.scan rules grid.columns = .ok findings ∧
      findings.filterMap Finding.span? = spans ∧
      spans.Pairwise (fun span other =>
        ∀ place later, span.Holds place → other.Holds later → place < later) ∧
      (∀ span ∈ spans, 2 ≤ span.count ∧ span.first + span.count ≤ rules.length) ∧
      (∀ place first second, rules[place]? = some first → rules[place + 1]? = some second →
        ((∃ span ∈ spans, span.Holds place ∧ span.Holds (place + 1)) ↔
          first.FoldsWith second)) ∧
      ∀ span ∈ spans, span.selectors.Pairwise (· < ·) ∧ ∀ rule ∈ span.rules rules, ∀ column,
        column ∈ span.selectors ↔ ∃ test, .matching test ∈ rule.statements ∧
          grid.columns[column]? = some (Statement.matching test).shape? := by
  rcases eq_ofRules laidOut with rfl
  have sound := sound_ofRules rules
  refine ⟨_, _, _, ofGrid_eq_ok sound, scan_eq_ok rules, span?_findings _, ?_, ?_, ?_, ?_⟩
  · rw [List.pairwise_map]
    apply pairwise_runs.imp_of_mem
    intro run other isRun isOther ordered place later holds holdsLater
    exact ordered place ((holds_iff isRun).mp holds) later ((holds_iff isOther).mp holdsLater)
  · rw [List.forall_mem_map]
    exact fun run isRun => ⟨two_le_count sound isRun, (stretch_span isRun).1⟩
  · intro place first second isFirst isSecond
    rw [Rule.foldsWith_iff, ← exists_mem_runs_iff isFirst isSecond]
    constructor
    · rintro ⟨span, isSpan, here, next⟩
      rcases List.mem_map.mp isSpan with ⟨run, isRun, rfl⟩
      exact ⟨run, isRun, (holds_iff isRun).mp here, (holds_iff isRun).mp next⟩
    · rintro ⟨run, isRun, here, next⟩
      exact ⟨run.span, List.mem_map_of_mem isRun, (holds_iff isRun).mpr here,
        (holds_iff isRun).mpr next⟩
  · rw [List.forall_mem_map]
    intro run isRun
    have proper := proper_of_mem_runs sound isRun
    refine ⟨?_, ?_⟩
    · rcases proper.exists_mem with ⟨row, member⟩
      rw [Run.selectors_span, ← proper.selectors_eq row member]
      exact List.pairwise_lt_range.filter _
    · rw [← (stretch_span isRun).2.2, List.forall_mem_map]
      exact fun row member column => mem_selectors_iff_shape isRun member

/-- Five rules on two selectors, the third of which tests a set. -/
def cutStretch : List Rule :=
  let pair (mark mtu : Expr) : List Statement := [
    .matching ⟨.eq, .field (.metadata .mark .unspecified), mark⟩,
    .matching ⟨.eq, .field (.route .mtu), mtu⟩]
  let number (value : UInt64) : Expr := .literal (.number value)
  (Chain.ofStatements [pair (number 1) (number 1), pair (number 2) (number 2),
    pair (number 3) (.set .none [number 3]), pair (number 4) (number 4),
    pair (number 5) (number 5)]).rules

theorem scan_maximal_of_cutStretch : ∃ grid cells findings,
    ofRulesWithin 2 cutStretch = some grid ∧ Cells.ofGrid grid = .ok cells ∧
      cells.scan cutStretch grid.columns = .ok findings ∧
      findings.filterMap Finding.span? = [⟨0, 2, [0, 1]⟩, ⟨3, 2, [0, 1]⟩] ∧
      (∃ span ∈ findings.filterMap Finding.span?, span.Holds 3 ∧ span.Holds 4) ∧
      ¬∃ span ∈ findings.filterMap Finding.span?, span.Holds 1 ∧ span.Holds 2 := by
  have fits : (ofRules cutStretch).width ≤ 2 := by
    decide
  have laidOut : ofRulesWithin 2 cutStretch = some (ofRules cutStretch) := by
    rw [ofRulesWithin_eq, if_pos fits]
  rcases scan_maximal laidOut with
    ⟨cells, findings, _, filled, scanned, rfl, -, -, together, -⟩
  refine ⟨_, cells, findings, laidOut, filled, scanned, ?_, ?_, ?_⟩
  · cases filled.symm.trans (ofGrid_eq_ok (sound_ofRules cutStretch))
    cases scanned.symm.trans (scan_eq_ok cutStretch)
    decide
  · exact (together 3 _ _ rfl rfl).mpr (Rule.foldsWith_iff.mpr (by decide))
  · intro common
    exact absurd (Rule.foldsWith_iff.mp ((together 1 _ _ rfl rfl).mp common)) (by decide)

end Grid

end Rulefold
