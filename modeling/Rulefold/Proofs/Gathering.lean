import Rulefold.Proofs.Progress
import Rulefold.Proofs.Reordering

/-!
# What is gathered

A run that a scan comes upon is folded into its first rule, of which nothing changes but its
matches. With several selectors a tuple is taken from each rule: its parts stand in the order of the
columns, wherever the matches stand in the rule. With one selector sets among the values are opened.
Of what has one key the first is kept, and `List.eraseDups` is what that comes to.
-/

namespace Rulefold

namespace Expr

theorem filter_distinct (elements : List Expr) (taken : Expr) :
    ((distinct elements).filter fun other => other.key != taken) =
      distinct (elements.filter fun other => other.key != taken) := by
  induction elements with
  | nil => rfl
  | cons first rest ih =>
      by_cases sameKey : first.key = taken
      · subst sameKey
        simp only [distinct, List.filter_cons, bne_self_eq_false, List.filter_filter, Bool.and_self]
        exact ih
      · have keysDiffer := bne_iff_ne.mpr sameKey
        rw [distinct, List.filter_cons, if_pos keysDiffer, List.filter_cons, if_pos keysDiffer,
          distinct, ← ih, List.filter_filter, List.filter_filter]
        simp only [Bool.and_comm]

theorem distinct_eq_eraseDupsBy (elements : List Expr) :
    distinct elements = elements.eraseDupsBy fun first second => first.key == second.key := by
  match elements with
  | [] => rfl
  | first :: rest =>
      have shorter : (rest.filter fun other => other.key != first.key).length < rest.length + 1 :=
        Nat.lt_succ_of_le (List.length_filter_le _ _)
      have sameFilter : (rest.filter fun other => (other.key == first.key) = false) =
          rest.filter fun other => other.key != first.key := by
        apply List.filter_congr
        intro other _
        rw [bne]
        cases other.key == first.key <;> rfl
      rw [distinct, filter_distinct, distinct_eq_eraseDupsBy, List.eraseDupsBy_cons, sameFilter]
  termination_by elements.length

theorem map_key_distinct (elements : List Expr) :
    (distinct elements).map key = (elements.map key).eraseDups := by
  match elements with
  | [] => rfl
  | first :: rest =>
      have shorter : (rest.filter fun other => other.key != first.key).length < rest.length + 1 :=
        Nat.lt_succ_of_le (List.length_filter_le _ _)
      rw [distinct, filter_distinct, List.map_cons, map_key_distinct, List.map_cons,
        List.eraseDups_cons, List.filter_map]
      rfl
  termination_by elements.length

/-- Elements that are told apart by what they are made from are as distinct as that. -/
theorem distinct_map {α : Type} [BEq α] [LawfulBEq α] {make : α → Expr}
    (apart : ∀ first second, (make first).key = (make second).key → first = second)
    (items : List α) : distinct (items.map make) = items.eraseDups.map make := by
  match items with
  | [] => rfl
  | first :: rest =>
      have shorter : (rest.filter fun other => !other == first).length < rest.length + 1 :=
        Nat.lt_succ_of_le (List.length_filter_le _ _)
      have sameFilter : ((rest.map make).filter fun other => other.key != (make first).key) =
          (rest.filter fun other => !other == first).map make := by
        rw [List.filter_map]
        congr 1
        apply List.filter_congr
        intro other _
        rw [Bool.eq_iff_iff]
        simp only [Function.comp_apply, bne_iff_ne, Bool.not_eq_true', beq_eq_false_iff_ne]
        exact not_congr ⟨apart other first, congrArg fun item => (make item).key⟩
      rw [List.map_cons, distinct, filter_distinct, sameFilter, distinct_map apart,
        List.eraseDups_cons, List.map_cons]
  termination_by items.length

end Expr

/-- Two lists of rules have the same rules at the places of a run. -/
def Span.Agrees (span : Span) (first second : List Rule) : Prop :=
  ∀ place, span.first ≤ place → place < span.first + span.count → first[place]? = second[place]?

/-- A rule has one match on a subject, and it compares the subject with a value for equality. -/
def Rule.Compares (rule : Rule) (subject value : Expr) : Prop :=
  ∀ test : Match, .matching test ∈ rule.statements ∧ test.left = subject ↔
    test = { op := .eq, left := subject, right := value }

theorem Rule.Plain.compares {rule : Rule} (plain : rule.Plain) {field : Field} {test : Match}
    (member : test ∈ rule.tests) (tests : test.Tests field) :
    rule.Compares (.field field) test.right := by
  have isField : test = { op := .eq, left := .field field, right := test.right } := by
    rcases test with ⟨op, left, right⟩
    rcases tests with ⟨rfl, rfl⟩
    rfl
  intro other
  rw [← isField, ← mem_tests_iff]
  constructor
  · intro found
    exact plain.eq_of_left_eq member tests found.1 found.2
  · rintro rfl
    exact ⟨member, tests.2⟩

namespace Run.Proper

variable {grid : Grid} {run : Run} (proper : run.Proper grid) (sound : grid.Sound) {row : Row}
  (member : row ∈ run.rows)

include proper sound member

/-- The tests of a rule of a run are its matches in the columns of the run, in order. -/
theorem forall₂_columns : List.Forall₂
    (fun column test => grid.columns[column]? = some (Statement.matching test).shape?)
    run.selectors (row.testList run.selectors) := by
  have subset := proper.selectors_subset member
  generalize run.selectors = columns at subset
  induction columns with
  | nil => exact .nil
  | cons column rest ih =>
      rw [List.forall_mem_cons] at subset
      rcases Row.exists_match?_of_mem_selectors sound (proper.mem_grid row member)
        (proper.plain member) subset.1 with ⟨field, test, isField, isTest, tests⟩
      rw [Row.testList, List.filterMap_cons_some isTest]
      exact .cons (by rw [Grid.field?_eq_some_iff.mp isField, tests.shape?]) (ih subset.2)

/-- A rule of a run compares the selectors of any other with the values that its matches have. -/
theorem forall₂_compares {other : Row} (otherMember : other ∈ run.rows) :
    List.Forall₂ row.rule.Compares ((other.testList run.selectors).map Match.left)
      ((row.testList run.selectors).map Match.right) := by
  rw [proper.map_left_testList sound otherMember, List.forall₂_map_left_iff,
    List.forall₂_map_right_iff]
  have pairs := List.forall₂_iff_zip.mp (proper.forall₂_tests sound member)
  refine List.forall₂_iff_zip.mpr ⟨pairs.1, fun inZip => ?_⟩
  exact (proper.plain member).compares
    ((proper.perm_testList sound member).subset (List.of_mem_zip inZip).2) (pairs.2 inZip)

omit member

/-- With one selector every rule of a run has one match, and they differ in their values only. -/
theorem exists_tests_eq (single : run.selectors.length = 1) : ∃ field, ∀ row ∈ run.rows,
    row.rule.tests = [{ op := .eq, left := .field field, right := row.rule.valueOf field }] := by
  rcases List.length_eq_one_iff.mp single with ⟨column, selectors⟩
  rcases proper.exists_mem with ⟨row, member⟩
  have fields := congrArg List.length (proper.map_left_testList sound member)
  rw [List.length_map, List.length_map, proper.length_testList sound member, single] at fields
  rcases List.length_eq_one_iff.mp fields.symm with ⟨field, fields⟩
  refine ⟨field, fun other otherMember => ?_⟩
  have tests := proper.forall₂_tests sound otherMember
  rw [proper.testList_eq sound single otherMember, fields] at tests
  rcases List.forall₂_cons_left_iff.mp tests with ⟨test, none, isTest, nothing, onlyTest⟩
  rw [List.forall₂_nil_left_iff.mp nothing] at onlyTest
  have value := (proper.plain otherMember).valueOf_eq (by simp [onlyTest]) isTest
  rcases test with ⟨op, left, right⟩
  rcases isTest with ⟨rfl, rfl⟩
  rw [onlyTest, value]

end Run.Proper

theorem Expr.members_eq_getD (value : Expr) :
    value.members = value.anonymousElements?.getD [.element value] := by
  unfold members
  cases value.anonymousElements? <;> rfl

theorem Expr.map_key_members (value : Expr) : value.members.map key =
    (value.anonymousElements?.map (List.map key)).getD [value] := by
  unfold members
  cases value.anonymousElements? <;> rfl

namespace Grid

variable {rules : List Rule}

theorem exists_run_of_mem_findings {span : Span}
    (found : span ∈ (ofRules rules).findings.filterMap Finding.span?) :
    ∃ run ∈ (ofRules rules).runs, run.span = span := by
  rwa [span?_findings, List.mem_map] at found

theorem merge_eq_ok_of_agrees {run : Run} (isRun : run ∈ (ofRules rules).runs)
    {current : List Rule} (agrees : run.span.Agrees current rules) {survivor : Rule}
    (folds : run.fold = .ok survivor) :
    (ofRules rules).cells.merge current run.span = .ok (current.set run.span.first survivor) := by
  refine merge_eq_ok isRun (fun row member => ?_) folds
  have inPlaces : row.index ∈ run.places := List.mem_map_of_mem member
  rw [places_eq_range' isRun, List.mem_range'_1] at inPlaces
  rw [agrees row.index inPlaces.1 inPlaces.2]
  exact getElem?_index ((infix_of_mem_runs isRun).subset member)

theorem getElem?_first {run : Run} (isRun : run ∈ (ofRules rules).runs) {first : Row}
    {rest : List Row} (rows : run.rows = first :: rest) {current : List Rule}
    (agrees : run.span.Agrees current rules) : current[run.span.first]? = some first.rule := by
  have firstIndex := Run.first_span rows
  have pos : 0 < run.span.count := by
    simp [Run.span, rows]
  rw [agrees _ le_rfl (by omega), firstIndex]
  exact getElem?_index ((infix_of_mem_runs isRun).subset (by simp [rows]))

/-- A run with several selectors, which a scan comes upon, is folded by putting one match in the
place of the first selector of its first rule and taking the matches of the others away. The match
compares the concatenation of the selectors with a set of tuples, one from each rule, of which
duplicates are left out. No other rule changes. -/
theorem merge_joins {max : Nat} {grid : Grid} (laidOut : ofRulesWithin max rules = some grid) :
    ∃ cells findings, Cells.ofGrid grid = .ok cells ∧
      cells.scan rules grid.columns = .ok findings ∧
      ∀ span ∈ findings.filterMap Finding.span?, 2 ≤ span.selectors.length →
        ∀ current : List Rule, span.Agrees current rules →
          ∃ (first survivor : Rule) (test : Match) (tests : List Match)
            (before after : List Statement) (tuples : List (List Expr)) (elements : List Expr),
            current[span.first]? = some first ∧
            cells.merge current span = .ok (current.set span.first survivor) ∧
            List.Forall₂ (fun column test =>
                grid.columns[column]? = some (Statement.matching test).shape?)
              span.selectors (test :: tests) ∧
            (test :: tests).Perm first.tests ∧
            first.statements = before ++ .matching test :: after ∧
            survivor = { first with
              statements := before.filter Statement.isAction ++
                .matching {
                  op := .eq
                  left := .concat ((test :: tests).map Match.left)
                  right := .set (.ofList [.anonymous, .constant, .concat]) elements } ::
                after.filter Statement.isAction } ∧
            survivor.tests.length = 1 ∧
            List.Forall₂ (fun rule tuple =>
                List.Forall₂ rule.Compares ((test :: tests).map Match.left) tuple)
              (span.rules rules) tuples ∧
            elements = tuples.eraseDups.map (fun tuple => .element (.concat tuple)) ∧
            elements.Nodup := by
  have sound := sound_ofRules rules
  rw [eq_ofRules laidOut]
  refine ⟨_, _, ofGrid_eq_ok sound, scan_eq_ok rules, ?_⟩
  intro span found several current agrees
  rcases exists_run_of_mem_findings found with ⟨run, isRun, rfl⟩
  have proper := proper_of_mem_runs sound isRun
  rcases proper.exists_survivor sound with ⟨survivor, folds⟩
  have oneTest := congrArg List.length (proper.tests_survivor sound folds)
  rcases proper.split sound folds with
    ⟨first, rest, before, test, tests, after, rows, table, statements, isSurvivor⟩
  have firstMember : first ∈ run.rows := by
    simp [rows]
  have notOne : run.selectors.length ≠ 1 := by
    rw [Run.selectors_span] at several
    omega
  have gathered := proper.gathered_eq_of_several sound notOne rows
  rw [table] at gathered
  have apart : ∀ one two : List Expr,
      (Expr.element (.concat one)).key = (Expr.element (.concat two)).key → one = two := by
    intro one two same
    exact Expr.concat.inj same
  have distinctMap := Expr.distinct_map apart
    (run.rows.map fun row => (row.testList run.selectors).map Match.right)
  rw [List.map_map] at distinctMap
  refine ⟨first.rule, survivor, test, tests, before, after,
    run.rows.map fun row => (row.testList run.selectors).map Match.right,
    Expr.distinct (run.rows.map fun row =>
      .element (.concat ((row.testList run.selectors).map Match.right))),
    getElem?_first isRun rows agrees, merge_eq_ok_of_agrees isRun agrees folds, ?_, ?_, statements,
    ?_, oneTest, ?_, ?_, ?_⟩
  · rw [← table]
    exact proper.forall₂_columns sound firstMember
  · rw [← table]
    exact proper.perm_testList sound firstMember
  · rw [isSurvivor, gathered]
  · rw [← (stretch_span isRun).2.2, List.forall₂_map_left_iff,
      List.forall₂_map_right_iff, List.forall₂_same, ← table]
    exact fun row member => proper.forall₂_compares sound member firstMember
  · exact distinctMap
  · exact (Expr.pairwise_key_distinct _).imp fun keysDiffer same => keysDiffer (congrArg _ same)

/-- Rules that test two fields in different orders. One tests for what another does. -/
def reordered : List Rule :=
  let mark := Statement.number (.metadata .mark .unspecified)
  let mtu := Statement.number (.route .mtu)
  (Chain.ofStatements [[.notrack], [mark 1, .verdict .accept none, mtu 2],
    [mtu 4, mark 3, .verdict .accept none], [.verdict .accept none, mtu 2, mark 1]]).rules

/-- It does not matter what has become of the rule ahead of the run. -/
theorem merge_joins_of_reordered : ∃ grid cells findings survivor,
    ofRulesWithin 4 reordered = some grid ∧ Cells.ofGrid grid = .ok cells ∧
      cells.scan reordered grid.columns = .ok findings ∧
      ⟨1, 3, [1, 3]⟩ ∈ findings.filterMap Finding.span? ∧
      cells.merge (reordered.set 0 ⟨.internal, [], none⟩) ⟨1, 3, [1, 3]⟩ =
        .ok ((reordered.set 0 ⟨.internal, [], none⟩).set 1 survivor) ∧
      survivor.tests.length = 1 := by
  have laidOut : ofRulesWithin 4 reordered = some (ofRules reordered) := by
    rw [ofRulesWithin_eq, if_pos (by decide)]
  rcases merge_joins laidOut with ⟨cells, findings, filled, scanned, joins⟩
  have isTable := Except.ok.inj (filled.symm.trans (ofGrid_eq_ok (sound_ofRules reordered)))
  subst isTable
  have isFound := Except.ok.inj (scanned.symm.trans (scan_eq_ok reordered))
  subst isFound
  have found : ⟨1, 3, [1, 3]⟩ ∈ (ofRules reordered).findings.filterMap Finding.span? := by
    decide
  have agrees : Span.Agrees ⟨1, 3, [1, 3]⟩ (reordered.set 0 ⟨.internal, [], none⟩) reordered := by
    intro place behind _
    exact List.getElem?_set_ne (Nat.ne_of_lt behind)
  rcases joins _ found (by decide) _ agrees with
    ⟨_, survivor, _, _, _, _, _, _, -, merges, -, -, -, -, oneTest, -⟩
  exact ⟨_, _, _, survivor, laidOut, filled, scanned, found, merges, oneTest⟩

/-- A run with one selector, which a scan comes upon, is folded by changing the value that the one
match of its first rule compares with. The value becomes a set of the values of all rules, of which
anonymous sets are opened and duplicate keys are left out. No other rule changes. -/
theorem merge_widens {max : Nat} {grid : Grid} (laidOut : ofRulesWithin max rules = some grid) :
    ∃ cells findings, Cells.ofGrid grid = .ok cells ∧
      cells.scan rules grid.columns = .ok findings ∧
      ∀ span ∈ findings.filterMap Finding.span?, span.selectors.length = 1 →
        ∀ current : List Rule, span.Agrees current rules →
          ∃ (first : Rule) (test : Match) (before after : List Statement)
            (values elements : List Expr),
            current[span.first]? = some first ∧
            first.statements = before ++ .matching test :: after ∧ first.tests = [test] ∧
            List.Forall₂ (fun column test =>
                grid.columns[column]? = some (Statement.matching test).shape?)
              span.selectors [test] ∧
            cells.merge current span = .ok (current.set span.first { first with
              statements := before ++
                .matching { test with right := .set (.ofList [.anonymous, .constant]) elements } ::
                after }) ∧
            List.Forall₂ (fun rule value => rule.tests = [{ test with right := value }])
              (span.rules rules) values ∧
            elements = (values.flatMap fun value =>
              value.anonymousElements?.getD [.element value]).eraseDupsBy
                (fun first second => first.key == second.key) ∧
            elements.map Expr.key = (values.flatMap fun value =>
              (value.anonymousElements?.map (List.map Expr.key)).getD [value]).eraseDups ∧
            (elements.map Expr.key).Nodup := by
  have sound := sound_ofRules rules
  rw [eq_ofRules laidOut]
  refine ⟨_, _, ofGrid_eq_ok sound, scan_eq_ok rules, ?_⟩
  intro span found single current agrees
  rcases exists_run_of_mem_findings found with ⟨run, isRun, rfl⟩
  rw [Run.selectors_span] at single ⊢
  have proper := proper_of_mem_runs sound isRun
  rcases proper.exists_survivor sound with ⟨survivor, folds⟩
  rcases proper.split_single sound folds single with
    ⟨first, rest, before, test, after, rows, statements, noBefore, noAfter, sameOp, sameLeft,
      isSurvivor⟩
  rcases proper.exists_tests_eq sound single with ⟨field, tests⟩
  have firstMember : first ∈ run.rows := by
    simp [rows]
  have onlyTest : first.rule.tests = [test] := by
    simp [Rule.tests, statements, noBefore, noAfter, Statement.match?]
  have isTest : test = { op := .eq, left := .field field, right := first.rule.valueOf field } := by
    have same := onlyTest.symm.trans (tests first firstMember)
    exact (List.cons.inj same).1
  have rulesOf := (stretch_span isRun).2.2
  have pool : Rule.pool (run.rows.map Row.rule) =
      (run.rows.map fun row => row.rule.valueOf field).flatMap Expr.members := by
    rw [Rule.pool, List.flatMap_map, List.flatMap_map]
    apply List.flatMap_congr
    intro row member
    rw [tests row member, List.flatMap_singleton]
  have right := proper.gathered_right_of_single sound single
  rw [pool] at right
  have gathered : run.gathered = { test with
      right := .set (.ofList [.anonymous, .constant]) (Expr.distinct
        ((run.rows.map fun row => row.rule.valueOf field).flatMap Expr.members)) } := by
    rw [← sameOp, ← sameLeft]
    exact congrArg (Match.mk run.gathered.op run.gathered.left) right
  refine ⟨first.rule, test, before, after, run.rows.map fun row => row.rule.valueOf field,
    Expr.distinct ((run.rows.map fun row => row.rule.valueOf field).flatMap Expr.members),
    getElem?_first isRun rows agrees, statements, onlyTest, ?_, ?_, ?_, ?_, ?_, ?_⟩
  · rw [← onlyTest, ← proper.testList_eq sound single firstMember]
    exact proper.forall₂_columns sound firstMember
  · rw [merge_eq_ok_of_agrees isRun agrees folds, isSurvivor, gathered]
  · rw [← rulesOf, List.forall₂_map_left_iff, List.forall₂_map_right_iff,
      List.forall₂_same]
    intro row member
    rw [tests row member, isTest]
  · rw [Expr.distinct_eq_eraseDupsBy,
      List.flatMap_congr fun value _ => Expr.members_eq_getD value]
  · rw [Expr.map_key_distinct, List.map_flatMap]
    simp only [Expr.map_key_members]
  · rw [List.nodup_iff_pairwise_ne, List.pairwise_map]
    exact Expr.pairwise_key_distinct _

/-- Rules that test one field, one of them for a set with a value of another. -/
def overlapping : List Rule :=
  let mtu (value : Expr) : List Statement := [.matching ⟨.eq, .field (.route .mtu), value⟩]
  let number (value : UInt64) : Expr := .literal (.number value)
  (Chain.ofStatements [mtu (number 1),
    mtu (.set (.ofList [.anonymous]) [.element (number 2), number 1]), mtu (number 3)]).rules

theorem merge_widens_of_overlapping : ∃ grid cells findings,
    ofRulesWithin 1 overlapping = some grid ∧ Cells.ofGrid grid = .ok cells ∧
      cells.scan overlapping grid.columns = .ok findings ∧
      ⟨0, 3, [0]⟩ ∈ findings.filterMap Finding.span? ∧
      ∃ survivor, cells.merge overlapping ⟨0, 3, [0]⟩ = .ok (overlapping.set 0 survivor) := by
  have laidOut : ofRulesWithin 1 overlapping = some (ofRules overlapping) := by
    rw [ofRulesWithin_eq, if_pos (by decide)]
  rcases merge_widens laidOut with ⟨cells, findings, filled, scanned, widens⟩
  have isTable := Except.ok.inj (filled.symm.trans (ofGrid_eq_ok (sound_ofRules overlapping)))
  subst isTable
  have isFound := Except.ok.inj (scanned.symm.trans (scan_eq_ok overlapping))
  subst isFound
  have found : ⟨0, 3, [0]⟩ ∈ (ofRules overlapping).findings.filterMap Finding.span? := by
    decide
  rcases widens _ found rfl overlapping (fun _ _ _ => rfl) with
    ⟨_, _, _, _, _, _, -, -, -, -, merges, -⟩
  exact ⟨_, _, _, laidOut, filled, scanned, found, _, merges⟩

end Grid

end Rulefold
