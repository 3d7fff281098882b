import Rulefold.Proofs.Variety

/-!
# Sets inside sets

Folding does not put sets where only values can stand, as long as it can open the sets that it
gathers. A set among the parts of a concatenation never comes about. A set among the elements of a
set does exactly where a run with one selector tests for a set that is not anonymous, which is not
opened but taken for a value.
-/

namespace Rulefold

namespace Expr

/-- What an expression is without the layers that make it an element of a set. -/
def core : Expr → Expr
  | element key => key.core
  | expr => expr

/-- Says whether no element of a set is itself a set; other expressions have no elements. -/
def elementsApart : Expr → Bool
  | set _ elements => elements.all fun element => !element.core.isSet
  | _ => true

/-- Says whether no part of a concatenation is a set; other expressions have no parts. -/
def partsApart : Expr → Bool
  | concat parts => parts.all fun part => !part.core.isSet
  | _ => true

mutual

/-- Says whether a check succeeds on an expression and on everything it is made of. -/
def everywhere (check : Expr → Bool) : Expr → Bool
  | set flags elements => check (set flags elements) && everywhereAll check elements
  | element key => check (element key) && key.everywhere check
  | concat parts => check (concat parts) && everywhereAll check parts
  | range low high => check (range low high) && low.everywhere check && high.everywhere check
  | subnet base length => check (subnet base length) && base.everywhere check
  | verdict code (some target) =>
    check (verdict code (some target)) && target.everywhere check
  | expr => check expr

/-- Says whether a check succeeds on all of several expressions and on everything they are made
of. -/
def everywhereAll (check : Expr → Bool) : List Expr → Bool
  | [] => true
  | expr :: rest => expr.everywhere check && everywhereAll check rest

end

variable {check : Expr → Bool}

theorem everywhereAll_iff {exprs : List Expr} :
    everywhereAll check exprs = true ↔ ∀ expr ∈ exprs, expr.everywhere check = true := by
  induction exprs with
  | nil => simp [everywhereAll]
  | cons expr rest ih => simp [everywhereAll, ih]

theorem everywhere_set {flags : Flags SetFlag} {elements : List Expr} :
    (set flags elements).everywhere check = true ↔
      check (set flags elements) = true ∧ ∀ expr ∈ elements, expr.everywhere check = true := by
  simp [everywhere, everywhereAll_iff]

theorem everywhere_concat {parts : List Expr} :
    (concat parts).everywhere check = true ↔
      check (concat parts) = true ∧ ∀ part ∈ parts, part.everywhere check = true := by
  simp [everywhere, everywhereAll_iff]

theorem core_eq_self {expr : Expr} (bare : expr.kind ≠ .element) : expr.core = expr := by
  cases expr <;> first | rfl | exact absurd rfl bare

theorem core_key (expr : Expr) : expr.key.core = expr.core := by
  cases expr <;> rfl

theorem elementsApart_distinct {flags : Flags SetFlag} {elements : List Expr} :
    (set flags (distinct elements)).elementsApart = true ↔
      ∀ expr ∈ elements, expr.core.isSet = false := by
  -- Elements are dropped for their keys only, so no set is lost without another staying.
  have sameSets := @exists_mem_distinct_iff elements fun key => key.core.isSet = true
  simp only [core_key] at sameSets
  simpa [elementsApart] using not_congr sameSets

/-- A value brings no set to a set, unless it is a set that is not opened. -/
theorem core_members {value : Expr} (apart : value.everywhere elementsApart = true)
    (bare : value.kind ≠ .element) : (∀ expr ∈ value.members, expr.core.isSet = false) ↔
      (value.isSet = true → value.isAnonymousSet = true) := by
  unfold members isAnonymousSet
  split
  · rename_i elements isElements
    rcases anonymousElements?_eq_some_iff.mp isElements with ⟨flags, rfl, -⟩
    simpa [elementsApart, isElements] using (everywhere_set.mp apart).1
  · rename_i notOpened
    simp [core, core_eq_self bare, notOpened]

end Expr

namespace Statement

/-- The expressions of a statement. -/
def expressions : Statement → List Expr
  | matching test => [test.left, test.right]
  | verdict _ target => target.toList
  | log line => line.label.toList
  | reject answer => answer.message.toList
  | _ => []

/-- Says whether a check succeeds on everything the expressions of a statement are made of. -/
def everywhere (check : Expr → Bool) (statement : Statement) : Bool :=
  statement.expressions.all (Expr.everywhere check)

end Statement

/-- Says whether a check succeeds on everything the expressions of a rule are made of. -/
def Rule.everywhere (check : Expr → Bool) (rule : Rule) : Bool :=
  rule.statements.all (Statement.everywhere check)

/-- Says whether a check succeeds on everything the expressions of a chain are made of. -/
def Chain.everywhere (check : Expr → Bool) (chain : Chain) : Bool :=
  chain.rules.all (Rule.everywhere check)

variable {check : Expr → Bool}

theorem Rule.everywhere_iff {rule : Rule} : rule.everywhere check = true ↔
    ∀ statement ∈ rule.statements, statement.everywhere check = true := List.all_eq_true

theorem Chain.everywhere_iff {chain : Chain} : chain.everywhere check = true ↔
    ∀ rule ∈ chain.rules, rule.everywhere check = true := List.all_eq_true

theorem Statement.everywhere_matching {test : Match} :
    (Statement.matching test).everywhere check = true ↔
      test.left.everywhere check = true ∧ test.right.everywhere check = true := by
  simp [everywhere, expressions]

theorem Rule.everywhere_right {rule : Rule} (holds : rule.everywhere check = true) {test : Match}
    (member : test ∈ rule.tests) : test.right.everywhere check = true :=
  (Statement.everywhere_matching.mp
    (everywhere_iff.mp holds _ (mem_tests_iff.mp member))).2

/-- A check that fields, their concatenations and the wrapping of elements pass in any case. -/
structure Expr.Lenient (check : Expr → Bool) : Prop where
  field : ∀ subject, check (.field subject) = true
  fields : ∀ subjects : List Field, check (.concat (subjects.map Expr.field)) = true
  element : ∀ key, check (.element key) = true

theorem Expr.lenient_elementsApart : Lenient elementsApart :=
  ⟨fun _ => rfl, fun _ => rfl, fun _ => rfl⟩

theorem Expr.lenient_partsApart : Lenient partsApart where
  field _ := rfl
  fields subjects := by simp [partsApart, core, isSet]
  element _ := rfl

namespace Match

variable (lenient : Expr.Lenient check)

include lenient

theorem everywhere_joinedSubject {fields : List Field} {tests : List Match}
    (tested : List.Forall₂ Match.Tests fields tests) :
    (joinedSubject tests).everywhere check = true := by
  have lefts : tests.map Match.left = fields.map Expr.field := by
    induction tested with
    | nil => rfl
    | cons here _ ih => rw [List.map_cons, List.map_cons, here.2, ih]
  by_cases one : tests.length = 1
  · rcases List.length_eq_one_iff.mp one with ⟨test, rfl⟩
    rcases List.forall₂_cons_right_iff.mp tested with ⟨field, rest, tests, -, -⟩
    rw [joinedSubject, tests.2]
    exact lenient.field field
  · rw [joinedSubject_eq one, lefts, Expr.everywhere_concat, List.forall_mem_map]
    exact ⟨lenient.fields fields, fun field _ => lenient.field field⟩

theorem everywhere_members {value : Expr} (holds : value.everywhere check = true) :
    ∀ expr ∈ value.members, expr.everywhere check = true := by
  unfold Expr.members
  split
  · rename_i elements isElements
    rcases Expr.anonymousElements?_eq_some_iff.mp isElements with ⟨flags, rfl, -⟩
    exact (Expr.everywhere_set.mp holds).2
  · simp [Expr.everywhere, lenient.element, holds]

theorem everywhere_joinedMembers {tests : List Match}
    (holds : ∀ test ∈ tests, test.right.everywhere check = true)
    (tuple : tests.length ≠ 1 → check (.concat (tests.map Match.right)) = true) :
    ∀ expr ∈ joinedMembers tests, expr.everywhere check = true := by
  by_cases one : tests.length = 1
  · rcases List.length_eq_one_iff.mp one with ⟨test, rfl⟩
    exact everywhere_members lenient (holds test (by simp))
  · rw [joinedMembers_eq one, List.forall_mem_singleton]
    simp only [Expr.everywhere, lenient.element, Bool.true_and]
    exact Expr.everywhere_concat.mpr ⟨tuple one, List.forall_mem_map.mpr holds⟩

end Match

theorem Match.core_joinedMembers {tests : List Match}
    (apart : ∀ test ∈ tests, test.right.everywhere Expr.elementsApart = true)
    (bare : ∀ test ∈ tests, test.right.kind ≠ .element) :
    (∀ expr ∈ joinedMembers tests, expr.core.isSet = false) ↔
      (tests.length = 1 → ∀ test ∈ tests,
        test.right.isSet = true → test.right.isAnonymousSet = true) := by
  by_cases one : tests.length = 1
  · rcases List.length_eq_one_iff.mp one with ⟨test, rfl⟩
    simpa [joinedMembers] using Expr.core_members (apart test (by simp)) (bare test (by simp))
  · simp [joinedMembers_eq one, Expr.core, Expr.isSet, one]

namespace Run.Proper

variable {grid : Grid} {run : Run} {survivor : Rule}

theorem forall_mem_testList (proper : run.Proper grid) (sound : grid.Sound) {row : Row}
    (member : row ∈ run.rows) {holds : Match → Prop} :
    (∀ test ∈ row.testList run.selectors, holds test) ↔ ∀ test ∈ row.rule.tests, holds test := by
  simp [(proper.perm_testList sound member).mem_iff]

theorem everywhere_left (proper : run.Proper grid) (sound : grid.Sound)
    (lenient : Expr.Lenient check) : run.gathered.left.everywhere check = true := by
  rcases proper.exists_first with ⟨first, rest, rows⟩
  have member : first ∈ run.rows := by
    simp [rows]
  rw [gathered_eq rows, Match.gather]
  apply Match.everywhere_joinedSubject lenient
  exact Row.forall₂_testList sound (proper.mem_grid first member) (proper.plain member)
    (proper.selectors_subset member)

/-- All but the gathered set itself is taken from the rules of the run. -/
theorem everywhere_gathered (proper : run.Proper grid) (sound : grid.Sound)
    (lenient : Expr.Lenient check)
    (rules : ∀ row ∈ run.rows, row.rule.everywhere check = true)
    (tuples : ∀ row ∈ run.rows, run.selectors.length ≠ 1 →
      check (.concat ((row.testList run.selectors).map Match.right)) = true) :
    (Statement.matching run.gathered).everywhere check = true ↔
      check run.gathered.right = true := by
  rw [Statement.everywhere_matching, and_iff_right (proper.everywhere_left sound lenient),
    proper.gathered_right sound, Expr.everywhere_set, and_iff_left_iff_imp]
  intro _ expr member
  rcases List.mem_flatMap.mp ((Expr.distinct_sublist _).subset member) with ⟨row, inRun, brought⟩
  refine Match.everywhere_joinedMembers lenient ?_ ?_ expr brought
  · rw [proper.forall_mem_testList sound inRun]
    exact fun test isTest => Rule.everywhere_right (rules row inRun) isTest
  · rw [proper.length_testList sound inRun]
    exact tuples row inRun

theorem everywhere_survivor (proper : run.Proper grid) (sound : grid.Sound)
    (folds : run.fold = .ok survivor)
    (rules : ∀ row ∈ run.rows, row.rule.everywhere check = true) :
    survivor.everywhere check = true ↔
      (Statement.matching run.gathered).everywhere check = true := by
  rcases proper.split sound folds with
    ⟨first, rest, before, test, tests, after, rows, -, statements, rfl⟩
  have first := rules first (by simp [rows])
  rw [Rule.everywhere_iff, statements] at first
  rw [Rule.everywhere_iff]
  constructor
  · intro holds
    exact holds _ (by simp)
  · intro holds statement member
    simp only [List.mem_append, List.mem_cons, List.mem_filter] at member
    rcases member with member | rfl | member
    · exact first statement (by simp [member])
    · exact holds
    · exact first statement (by simp [member])

/-- The parts of the tuples that several selectors are tested for are not sets. -/
theorem partsApart_tuple (proper : run.Proper grid) (sound : grid.Sound)
    {row : Row} (member : row ∈ run.rows)
    (bare : ∀ test ∈ row.rule.tests, test.right.kind ≠ .element)
    (several : run.selectors.length ≠ 1) :
    Expr.partsApart (.concat ((row.testList run.selectors).map Match.right)) = true := by
  have free := proper.free several row member
  rw [Row.testsSet_eq_any, List.any_eq_false] at free
  rw [← proper.forall_mem_testList sound member] at bare
  simp only [Expr.partsApart, List.all_map, List.all_eq_true, Function.comp_apply,
    Bool.not_eq_true']
  intro test isTest
  rw [Expr.core_eq_self (bare test isTest)]
  simpa using free test isTest

/-- The set that is gathered has a set among its elements exactly if there is a set that is not
opened. -/
theorem elementsApart_gathered (proper : run.Proper grid) (sound : grid.Sound)
    (rules : ∀ row ∈ run.rows, row.rule.everywhere Expr.elementsApart = true)
    (bare : ∀ row ∈ run.rows, ∀ test ∈ row.rule.tests, test.right.kind ≠ .element) :
    run.gathered.right.elementsApart = true ↔
      (run.selectors.length = 1 → ∀ row ∈ run.rows, ∀ test ∈ row.rule.tests,
        test.right.isSet = true → test.right.isAnonymousSet = true) := by
  have each : ∀ row ∈ run.rows,
      (∀ expr ∈ Match.joinedMembers (row.testList run.selectors), expr.core.isSet = false) ↔
        (run.selectors.length = 1 → ∀ test ∈ row.rule.tests,
          test.right.isSet = true → test.right.isAnonymousSet = true) := by
    intro row member
    rw [Match.core_joinedMembers, proper.length_testList sound member,
      proper.forall_mem_testList sound member]
    · rw [proper.forall_mem_testList sound member]
      exact fun test isTest => Rule.everywhere_right (rules row member) isTest
    · rw [proper.forall_mem_testList sound member]
      exact bare row member
  rw [proper.gathered_right sound, Expr.elementsApart_distinct, List.forall_mem_flatMap]
  constructor
  · intro apart single row member
    exact (each row member).mp (apart row member) single
  · intro opened row member
    exact (each row member).mpr fun single => opened single row member

end Run.Proper

theorem forall_mem_iff_of_forall₂ {α β : Type} {first : List α} {second : List β}
    {here : α → Prop} {there : β → Prop}
    (pairs : List.Forall₂ (fun item other => here item ↔ there other) first second) :
    (∀ item ∈ first, here item) ↔ ∀ other ∈ second, there other := by
  induction pairs with
  | nil => simp
  | cons pair _ ih => rw [List.forall_mem_cons, List.forall_mem_cons, pair, ih]

namespace Chain

variable {config : Config} {files : Files} {chain : Chain} {folded : Folded}

theorem everywhere_fold (folds : chain.fold config files = .ok folded)
    (before : chain.everywhere check = true) : folded.chain.everywhere check = true ↔
      ∀ run ∈ chain.grid.runs, (Statement.matching run.gathered).everywhere check = true := by
  have rules : ∀ row ∈ chain.grid.rows, row.rule.everywhere check = true :=
    fun row member => everywhere_iff.mp before _ (rule_mem member)
  -- A rule in no run stays as it is, so it is the gathered matches that decide.
  have pairs : List.Forall₂ (fun segment survivor =>
      (∀ run, segment = .merged run → (Statement.matching run.gathered).everywhere check = true) ↔
        Rule.everywhere check survivor = true) chain.grid.segments folded.chain.rules := by
    refine (foldsTo_of_fold_eq_ok folds).survivors_mem.imp ?_
    intro segment survivor leaves
    cases segment with
    | kept row =>
        have inGrid : row ∈ chain.grid.rows :=
          Grid.mem_rows_of_mem_segments leaves.1 (by simp [Segment.rows])
        rcases leaves.2 with ⟨⟩
        simp [rules row inGrid]
    | merged run =>
        have proper := Grid.proper_of_mem_segments chain.sound_grid leaves.1
        simp only [Segment.merged.injEq, forall_eq']
        exact (proper.everywhere_survivor chain.sound_grid leaves.2
          fun row member => rules row (proper.mem_grid row member)).symm
  rw [everywhere_iff, ← forall_mem_iff_of_forall₂ pairs]
  simp only [Grid.mem_runs_iff]
  exact ⟨fun holds run member => holds _ member run rfl,
    fun holds _ member run isRun => holds run (isRun ▸ member)⟩

/-- Folding never puts a set among the parts of a concatenation. It puts a set among the elements
of a set exactly if the chain is folded and a run with one selector tests for a set that is not
anonymous. -/
theorem foldInto_apart (config : Config) (files : Files)
    (elements : chain.everywhere Expr.elementsApart = true)
    (parts : chain.everywhere Expr.partsApart = true)
    (bare : ∀ rule ∈ chain.rules, ∀ test ∈ rule.tests, test.right.kind ≠ .element)
    {σ : Type} (sink : Sink σ) (state : σ) :
    (chain.foldInto sink state config files).chain.everywhere Expr.partsApart = true ∧
      ((chain.foldInto sink state config files).chain.everywhere Expr.elementsApart = true ↔
        config.maxShapes < chain.variety ∨
          ∀ run ∈ chain.grid.runs, run.selectors.length = 1 → ∀ row ∈ run.rows,
            ∀ test ∈ row.rule.tests,
              test.right.isSet = true → test.right.isAnonymousSet = true) := by
  have sound := chain.sound_grid
  rw [← width_grid]
  cases folds : chain.fold config files with
  | error failure =>
      have tooWide := (fold_eq_error_iff.mp folds).1
      rw [foldInto_of_fold_eq_error folds]
      exact ⟨parts, by simp [elements, tooWide]⟩
  | ok folded =>
      have fits := (foldsTo_of_fold_eq_ok folds).width_le
      rw [(foldInto_of_fold_eq_ok folds).1, everywhere_fold folds parts,
        everywhere_fold folds elements, or_iff_right (Nat.not_lt.mpr fits)]
      constructor
      · intro run isRun
        have proper := Grid.proper_of_mem_segments sound (Grid.mem_runs_iff.mp isRun)
        have inChain := fun row member => rule_mem (proper.mem_grid row member)
        rw [proper.everywhere_gathered sound Expr.lenient_partsApart, proper.gathered_right sound]
        · rfl
        · exact fun row member => everywhere_iff.mp parts _ (inChain row member)
        · exact fun row member =>
            proper.partsApart_tuple sound member (bare _ (inChain row member))
      · refine forall₂_congr fun run isRun => ?_
        have proper := Grid.proper_of_mem_segments sound (Grid.mem_runs_iff.mp isRun)
        have inChain := fun row member => rule_mem (proper.mem_grid row member)
        have rules := fun row member => everywhere_iff.mp elements _ (inChain row member)
        rw [proper.everywhere_gathered sound Expr.lenient_elementsApart rules fun _ _ _ => rfl]
        exact proper.elementsApart_gathered sound rules
          fun row member => bare _ (inChain row member)

/-- A run that opens a set, a run with two selectors, and a set in no run that is not opened. -/
def opened : Chain := .ofStatements [
  [.matching ⟨.eq, .field (.payload .tcp "dport"),
    .set (.ofList [.anonymous]) [.element (.literal (.number 22))]⟩],
  [.number (.payload .tcp "dport") 23],
  [.number (.metadata .mark .unspecified) 1, .number (.route .mtu) 1],
  [.number (.metadata .mark .unspecified) 2, .number (.route .mtu) 2],
  [.matching ⟨.eq, .field (.route .mtu),
    .set (.ofList [.constant]) [.element (.literal (.number 3))]⟩]]

theorem foldInto_apart_of_opened : opened.everywhere Expr.elementsApart = true ∧
    opened.everywhere Expr.partsApart = true ∧
      (∀ rule ∈ opened.rules, ∀ test ∈ rule.tests, test.right.kind ≠ .element) ∧
      opened.grid.runs.length = 2 ∧
      (opened.foldInto Buffer.sink (.empty none) .standard (.ofList [])).chain.everywhere
        Expr.elementsApart = true := by
  have elements : opened.everywhere Expr.elementsApart = true := by
    decide
  have parts : opened.everywhere Expr.partsApart = true := by
    decide
  have bare : ∀ rule ∈ opened.rules, ∀ test ∈ rule.tests, test.right.kind ≠ .element := by
    decide
  have apart := foldInto_apart .standard (.ofList []) elements parts bare Buffer.sink (.empty none)
  refine ⟨elements, parts, bare, by decide, apart.2.mpr (.inr ?_)⟩
  decide

/-- A rule that tests for a set that is not anonymous, and one that tests for a value. -/
def unopened : Chain := .ofStatements [
  [.matching ⟨.eq, .field (.payload .tcp "dport"),
    .set (.ofList [.constant]) [.element (.literal (.number 22))]⟩],
  [.number (.payload .tcp "dport") 23]]

theorem foldInto_nests_unopened : ¬∀ (chain : Chain) (config : Config) (files : Files)
    (folded : Folded), chain.everywhere Expr.elementsApart = true →
      chain.everywhere Expr.partsApart = true →
      (∀ rule ∈ chain.rules, ∀ test ∈ rule.tests, test.right.kind ≠ .element) →
      chain.fold config files = .ok folded →
      folded.chain.everywhere Expr.elementsApart = true ∧
        folded.chain.everywhere Expr.partsApart = true := by
  intro preserved
  have fits : unopened.grid.width ≤ Config.standard.maxShapes := by
    decide
  rcases exists_fold_of_width_le fits with ⟨folded, folds⟩
  have nested : (unopened.fold .standard (.ofList [])).toOption.all
      (fun folded => !folded.chain.everywhere Expr.elementsApart) = true := by
    decide
  have apart := preserved unopened .standard (.ofList []) folded (by decide) (by decide)
    (by decide) folds
  simpa [apart.1] using fold_all nested folds

end Chain

end Rulefold
