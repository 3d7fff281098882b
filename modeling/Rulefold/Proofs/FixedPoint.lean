import Rulefold.Proofs.Folding

/-!
# Folding leaves nothing to fold

The survivor of a run with several selectors tests a concatenation and belongs with no rule; the
survivor of a run with one selector belongs with the rules that its own rules belong with. So no
two neighbours of a folded chain belong together, and whatever the configuration of a later pass,
it finds no run.
-/

namespace Rulefold

theorem Statement.isSome_match?_of_shaped {statement : Statement}
    (shaped : statement.shape? ≠ none) :
    statement.match?.isSome = statement.shape?.any Shape.isSelector := by
  cases statement with
  | matching test =>
      rcases exists_field_of_matching shaped with ⟨field, isShape⟩
      simp [isShape, match?, Shape.isSelector]
  | _ =>
      unfold shape? at shaped ⊢
      split at shaped <;> simp_all [match?, Shape.isSelector]

/-- The shape of a match is told by its two sides but for the value. -/
theorem Statement.shape?_matching_congr {first second : Match} (sameOp : first.op = second.op)
    (sameLeft : first.left = second.left) :
    (matching first).shape? = (matching second).shape? := by
  rcases first with ⟨op, left, right⟩
  rcases second with ⟨otherOp, otherLeft, otherRight⟩
  cases sameOp
  cases sameLeft
  cases op <;> cases left <;> rfl

theorem Statement.filter_isAction_eq_self {statements : List Statement}
    (noTests : statements.filterMap match? = []) : statements.filter isAction = statements := by
  rw [List.filterMap_eq_nil_iff] at noTests
  rw [List.filter_eq_self]
  intro statement member
  simp [isAction, noTests statement member]

namespace Rule

theorem Plain.length_tests {rule : Rule} (plain : rule.Plain) :
    rule.tests.length = rule.shapes.countP fun shape? => shape?.any Shape.isSelector := by
  rw [tests, shapes, List.length_filterMap_eq_countP, List.countP_map]
  apply List.countP_congr
  intro statement member
  rw [Statement.isSome_match?_of_shaped (plain.shape?_ne_none member)]
  rfl

theorem Alike.length_tests {first second : Rule} (alike : first.Alike second) :
    first.tests.length = second.tests.length := by
  rw [alike.left.length_tests, alike.right.length_tests, alike.perm_shapes.countP_eq]

/-- Rules stay together when alike rules take their places, if there is one selector or nothing
changes. -/
theorem Joins.congr {first second firstRule secondRule : Rule} (joins : first.Joins second)
    (firstAlike : first.Alike firstRule) (secondAlike : second.Alike secondRule)
    (firstSame : first.tests.length = 1 ∨ first = firstRule)
    (secondSame : second.tests.length = 1 ∨ second = secondRule) :
    firstRule.Joins secondRule where
  alike := firstAlike.symm.trans (joins.alike.trans secondAlike)
  tests_ne_nil := by
    intro empty
    apply joins.tests_ne_nil
    rw [← List.length_eq_zero_iff, firstAlike.length_tests, empty, List.length_nil]
  one_or_free := by
    by_cases single : first.tests.length = 1
    · left
      rw [← firstAlike.length_tests, single]
    · right
      rcases firstSame with one | rfl
      · exact absurd one single
      · rcases secondSame with one | rfl
        · exact absurd (joins.alike.length_tests.trans one) single
        · exact joins.one_or_free.resolve_left single

end Rule

namespace Run.Proper

variable {grid : Grid} {run : Run} {survivor : Rule}

/-- With one selector all that changes in the first rule is the value that its match tests for. -/
theorem split_single (proper : run.Proper grid) (sound : grid.Sound)
    (folds : run.fold = .ok survivor) (single : run.selectors.length = 1) :
    ∃ first rest before test after, run.rows = first :: rest ∧
      first.rule.statements = before ++ .matching test :: after ∧
      before.filterMap Statement.match? = [] ∧ after.filterMap Statement.match? = [] ∧
      run.gathered.op = test.op ∧ run.gathered.left = test.left ∧
      survivor = { first.rule with
        statements := before ++ .matching run.gathered :: after } := by
  rcases proper.split sound folds with
    ⟨first, rest, before, test, tests, after, rows, table, statements, rfl⟩
  have member : first ∈ run.rows := by
    simp [rows]
  have length := proper.length_tests sound member
  have perm := proper.perm_testList sound member
  rw [table] at perm
  rw [single] at length
  rw [← perm.length_eq, List.length_cons, Nat.add_eq_right, List.length_eq_zero_iff] at length
  subst length
  have onlyTest : first.rule.tests = [test] := List.perm_singleton.mp perm.symm
  have lengths := congrArg List.length onlyTest
  simp only [Rule.tests, statements, List.filterMap_append, List.filterMap_cons,
    Statement.match?, List.length_append, List.length_cons, List.length_nil] at lengths
  have noBefore : before.filterMap Statement.match? = [] :=
    List.length_eq_zero_iff.mp (by omega)
  have noAfter : after.filterMap Statement.match? = [] :=
    List.length_eq_zero_iff.mp (by omega)
  rcases (proper.plain member).exists_tests (onlyTest ▸ List.mem_singleton_self test) with
    ⟨field, isTest⟩
  refine ⟨first, rest, before, test, after, rows, statements, noBefore, noAfter, ?_, ?_, ?_⟩
  · rw [isTest.1]
    rfl
  · rw [gathered_eq rows, table]
    rfl
  · rw [Statement.filter_isAction_eq_self noBefore, Statement.filter_isAction_eq_self noAfter]

/-- With one selector the survivor has the shapes of its first rule. With several the selectors make
way for a statement without a shape. -/
theorem shapes_survivor (proper : run.Proper grid) (sound : grid.Sound)
    (folds : run.fold = .ok survivor) : ∃ first ∈ run.rows,
      (run.selectors.length = 1 ∧ survivor.shapes = first.rule.shapes) ∨
      (run.selectors.length ≠ 1 ∧ ∃ before after, survivor.shapes = before ++ none :: after ∧
        before ++ after ⊆ first.rule.shapes) := by
  by_cases single : run.selectors.length = 1
  · rcases proper.split_single sound folds single with
      ⟨first, rest, before, test, after, rows, statements, -, -, sameOp, sameLeft, rfl⟩
    refine ⟨first, by simp [rows], .inl ⟨single, ?_⟩⟩
    have sameShape := Statement.shape?_matching_congr sameOp sameLeft
    simp [Rule.shapes, statements, sameShape]
  · rcases proper.split sound folds with
      ⟨first, rest, before, test, tests, after, rows, table, statements, rfl⟩
    have firstMember : first ∈ run.rows := by
      simp [rows]
    have selectors := proper.length_tests sound firstMember
    rw [← (proper.perm_testList sound firstMember).length_eq, table, List.length_cons] at selectors
    cases tests with
    | nil => exact absurd selectors.symm single
    | cons second tests =>
        have shapeless : (Statement.matching run.gathered).shape? = none := by
          rw [gathered_eq rows, table]
          rfl
        refine ⟨first, firstMember, .inr ⟨single,
          (before.filter Statement.isAction).map Statement.shape?,
          (after.filter Statement.isAction).map Statement.shape?, ?_, ?_⟩⟩
        · simp [Rule.shapes, shapeless]
        · rw [← List.map_append, Rule.shapes, statements]
          apply List.map_subset
          intro statement member
          rcases List.mem_append.mp member with inBefore | inAfter
          · simp [(List.mem_filter.mp inBefore).1]
          · simp [(List.mem_filter.mp inAfter).1]

/-- A survivor that is plain at all, so that there is one selector, is alike to its rules. -/
theorem alike_survivor (proper : run.Proper grid) (sound : grid.Sound)
    (folds : run.fold = .ok survivor) (plain : survivor.Plain) {row : Row}
    (member : row ∈ run.rows) : survivor.Alike row.rule := by
  rcases proper.shapes_survivor sound folds with
    ⟨first, firstMember, ⟨-, same⟩ | ⟨-, before, after, shapes, -⟩⟩
  · exact ((proper.plain firstMember).alike_of_shapes_eq same).trans
      (proper.alike first firstMember row member)
  · exact absurd plain.shaped (by simp [shapes])

end Run.Proper

namespace Segment

variable {grid : Grid} {segment : Segment} {survivor : Rule}

/-- A plain survivor is alike to the rules of its segment, and if it has several tests it is the
rule that was kept. -/
theorem alike_survivor (sound : grid.Sound) (inGrid : segment ∈ grid.segments)
    (leaves : segment.survivor = .ok survivor) (plain : survivor.Plain) {row : Row}
    (member : row ∈ segment.rows) :
    survivor.Alike row.rule ∧ (survivor.tests.length = 1 ∨ survivor = row.rule) := by
  cases segment with
  | kept kept =>
      cases leaves
      rw [rows, List.mem_singleton] at member
      subst member
      exact ⟨.refl plain, .inr rfl⟩
  | merged run =>
      have proper := Grid.proper_of_mem_segments sound inGrid
      refine ⟨proper.alike_survivor sound leaves plain member, .inl ?_⟩
      rw [proper.tests_survivor sound leaves, List.length_singleton]

end Segment

namespace Grid

variable {grid : Grid}

/-- No two neighbours among the survivors belong together. -/
theorem isChain_survivors (sound : grid.Sound) {survivors : List Rule}
    (leave : List.Forall₂ (fun segment survivor => segment.survivor = .ok survivor)
      grid.segments survivors) :
    survivors.IsChain fun first second => ¬first.Joins second := by
  rcases List.forall₂_iff_zip.mp leave with ⟨sameLength, leaves⟩
  have apart := isChain_segments sound
  rw [← List.map_fst_zip (Nat.le_of_eq sameLength), List.isChain_map] at apart
  rw [← List.map_snd_zip (Nat.le_of_eq sameLength.symm), List.isChain_map]
  apply apart.imp_of_mem_imp
  intro first second firstMember secondMember meets joins
  have firstInGrid := (List.of_mem_zip firstMember).1
  have secondInGrid := (List.of_mem_zip secondMember).1
  have firstNotNil := Segment.rows_ne_nil sound firstInGrid
  have secondNotNil := Segment.rows_ne_nil sound secondInGrid
  rcases Segment.alike_survivor sound firstInGrid (leaves firstMember) joins.alike.left
    (List.getLast_mem firstNotNil) with ⟨firstAlike, firstSame⟩
  rcases Segment.alike_survivor sound secondInGrid (leaves secondMember) joins.alike.right
    (List.head_mem secondNotNil) with ⟨secondAlike, secondSame⟩
  exact meets _ (List.getLast?_eq_some_getLast firstNotNil) _
    (List.head?_eq_some_head secondNotNil)
    (joins.congr firstAlike secondAlike firstSame secondSame)

theorem runs_eq_nil (sound : grid.Sound)
    (apart : (grid.rows.map Row.rule).IsChain fun first second => ¬first.Joins second) :
    grid.runs = [] := by
  rw [List.eq_nil_iff_forall_not_mem]
  intro run isRun
  have inSegments := mem_runs_iff.mp isRun
  have proper := proper_of_mem_segments sound inSegments
  have two_le := proper.two_le
  rcases List.append_of_mem inSegments with ⟨before, after, segments⟩
  have rows : grid.segments.flatMap Segment.rows = grid.rows := flatMap_rows_segments
  rw [segments, List.flatMap_append, List.flatMap_cons, Segment.rows] at rows
  rw [List.isChain_map, ← rows] at apart
  have inRun := apart.right_of_append.left_of_append
  cases found : run.rows with
  | nil => simp [found] at two_le
  | cons first others =>
      cases others with
      | nil => simp [found] at two_le
      | cons second rest =>
          rw [found, List.isChain_cons_cons] at inRun
          exact inRun.1 (proper.joins sound (by simp [found]) (by simp [found]))

theorem exists_kept (settled : grid.runs = []) {segment : Segment}
    (member : segment ∈ grid.segments) : ∃ row, segment = .kept row := by
  cases segment with
  | kept row => exact ⟨row, rfl⟩
  | merged run =>
      have isRun := mem_runs_iff.mpr member
      rw [settled] at isRun
      cases isRun

theorem survivors_eq_rules {segments : List Segment} {survivors : List Rule}
    (allKept : ∀ segment ∈ segments, ∃ row, segment = .kept row)
    (leave : List.Forall₂ (fun segment survivor => segment.survivor = .ok survivor)
      segments survivors) : survivors = (segments.flatMap Segment.rows).map Row.rule := by
  induction leave with
  | nil => rfl
  | cons leaves _ ih =>
      rw [List.forall_mem_cons] at allKept
      rcases allKept.1 with ⟨row, rfl⟩
      cases leaves
      simp [Segment.rows, ih allKept.2]

end Grid

/-- Remarks do not reach the sink. -/
theorem Journal.deliver_remarks_append {σ : Type} (sink : Sink σ) (state : σ)
    (remarks : List Diagnostic) (rest : Journal) :
    (Journal.deliver sink state (remarks.map .remark ++ rest)).2 =
      (Journal.deliver sink state rest).2 := by
  induction remarks with
  | nil => rfl
  | cons remark remarks ih =>
      rw [List.map_cons, List.cons_append, Journal.deliver]
      exact ih

namespace Chain

variable {config : Config} {files : Files} {chain : Chain} {folded : Folded}

/-- There is no run in the chain. -/
def Settled (chain : Chain) : Prop := chain.grid.runs = []

/-- Folding settles a chain. -/
theorem settled_of_fold (folds : chain.fold config files = .ok folded) :
    folded.chain.Settled := by
  apply Grid.runs_eq_nil folded.chain.sound_grid
  rw [map_rule_rows]
  exact Grid.isChain_survivors chain.sound_grid (foldsTo_of_fold_eq_ok folds).survivors

/-- Folding a settled chain changes nothing, merges nothing and writes nothing. -/
theorem Settled.fold (settled : chain.Settled) (folds : chain.fold config files = .ok folded) :
    folded.chain = chain ∧ folded.merges = [] ∧ ∀ (σ : Type) (sink : Sink σ) (state : σ),
      (Journal.deliver sink state folded.journal).2 = state := by
  have foldsTo := foldsTo_of_fold_eq_ok folds
  have noMerges : folded.merges = [] := by
    rw [List.eq_nil_iff_forall_not_mem]
    intro merge member
    have isRun := Grid.mem_runs_iff.mpr (foldsTo.of_mem_merges member).1
    rw [settled] at isRun
    cases isRun
  have rules : folded.chain.rules = chain.rules := by
    rw [Grid.survivors_eq_rules (fun _ => Grid.exists_kept settled) foldsTo.survivors,
      map_rule_segments]
  refine ⟨?_, noMerges, ?_⟩
  · rw [foldsTo.chain_eq, rules]
  · intro σ sink state
    rcases foldsTo.journal_eq with ⟨remarks, journal⟩
    have silent : report config files [] = "" := by
      unfold report
      split <;> rfl
    have nothing : Text.encode "" = [] := rfl
    rw [journal, noMerges, silent, Journal.deliver_remarks_append, Journal.deliver, nothing,
      Sink.writeAll_nil]
    rfl

/-- The chain after folding, or as it was if folding fails. -/
def refold (chain : Chain) (config : Config) (files : Files) : Chain :=
  match chain.fold config files with
  | .ok folded => folded.chain
  | .error _ => chain

theorem Settled.refold_eq_self (settled : chain.Settled) (config : Config) (files : Files) :
    chain.refold config files = chain := by
  unfold refold
  split
  · rename_i folds
    exact (settled.fold folds).1
  · rfl

theorem Settled.pass_eq_self (settled : chain.Settled) (config : Config) (files : Files)
    (table : String) : (chain.pass config files table).result = chain := by
  unfold pass
  split
  · rfl
  · split
    · rename_i folds
      exact (settled.fold folds).1
    · rfl

/-- The chain after a pass, over the chain alone or over a table that it is a part of. -/
def afterPass (chain : Chain) (config : Config) (files : Files) : Option String → Chain
  | none => chain.refold config files
  | some table => (chain.pass config files table).result

theorem Settled.afterPass_eq_self (settled : chain.Settled) (config : Config) (files : Files)
    (table? : Option String) : chain.afterPass config files table? = chain := by
  cases table? with
  | none => exact settled.refold_eq_self config files
  | some table => exact settled.pass_eq_self config files table

/-- Folding reaches a fixed point at once: whatever the configuration, folding again changes
nothing, merges nothing and writes nothing, unless it fails for want of capacity. So no sequence of
passes changes the chain any more. -/
theorem fold_again (folds : chain.fold config files = .ok folded) :
    (∀ (later : Config) (laterFiles : Files),
      (∃ again, folded.chain.fold later laterFiles = .ok again ∧ again.chain = folded.chain ∧
        again.merges = [] ∧ ∀ (σ : Type) (sink : Sink σ) (state : σ),
          (Journal.deliver sink state again.journal).2 = state) ∨
      folded.chain.fold later laterFiles = .error (.tooManyShapes later.maxShapes)) ∧
    ∀ passes : List (Config × Files × Option String),
      passes.foldl (fun chain (later, laterFiles, table?) =>
        chain.afterPass later laterFiles table?) folded.chain = folded.chain := by
  have settled := settled_of_fold folds
  constructor
  · intro later laterFiles
    cases foldsAgain : folded.chain.fold later laterFiles with
    | ok again => exact .inl ⟨again, rfl, settled.fold foldsAgain⟩
    | error failure =>
        right
        rw [(fold_eq_error_iff.mp foldsAgain).2]
  · intro passes
    apply List.foldl_fixed'
    rintro ⟨later, laterFiles, table?⟩
    exact settled.afterPass_eq_self later laterFiles table?

/-- A run on one field, a run on two, and a rule that is like those of the first. -/
def crowded : Chain := .ofStatements [
  [.number (.route .mtu) 1, .verdict .accept none],
  [.number (.route .mtu) 2, .verdict .accept none],
  [.number (.metadata .mark .unspecified) 1, .number (.route .mtu) 1],
  [.number (.metadata .mark .unspecified) 2, .number (.route .mtu) 2],
  [.number (.route .mtu) 3, .verdict .accept none]]

theorem fold_again_crowded : ∃ folded, crowded.fold .standard (.ofList []) = .ok folded ∧
    folded.chain.rules.length = 3 ∧
      ∀ passes : List (Config × Files × Option String),
        passes.foldl (fun chain (later, laterFiles, table?) =>
          chain.afterPass later laterFiles table?) folded.chain = folded.chain := by
  have fits : crowded.grid.width ≤ Config.standard.maxShapes := by
    decide
  rcases exists_fold_of_width_le fits with ⟨folded, folds⟩
  have count : (crowded.fold .standard (.ofList [])).toOption.all
      (fun folded => folded.chain.rules.length = 3) = true := by
    decide
  exact ⟨folded, folds, by simpa using fold_all count folds, (fold_again folds).2⟩

end Chain

end Rulefold
