import Rulefold.Proofs.Passing
import Rulefold.Proofs.Progress

/-!
# What folding a chain leaves

`Chain.FoldsTo` says what folding a chain leaves: a rule for each of its segments. Folding fails
only for want of capacity, and no fault ever keeps a chain from being folded.
-/

namespace Rulefold

/-- The test of a field for a number. -/
def Statement.number (field : Field) (value : UInt64) : Statement :=
  .matching { op := .eq, left := .field field, right := .literal (.number value) }

/-- A chain of rules that have their statements only. -/
def Chain.ofStatements (rules : List (List Statement)) : Chain :=
  { name := ""
    flags := .none
    rules := rules.map fun statements => { location := .internal, statements, handle := none } }

namespace Chain

variable {config : Config} {files : Files} {chain : Chain}

theorem sound_grid (chain : Chain) : chain.grid.Sound := Grid.sound_ofRules chain.rules

theorem map_rule_rows (chain : Chain) : chain.grid.rows.map Row.rule = chain.rules :=
  Grid.map_rule_rows_ofRules chain.rules

theorem rule_mem {row : Row} (member : row ∈ chain.grid.rows) : row.rule ∈ chain.rules := by
  rw [← chain.map_rule_rows]
  exact List.mem_map_of_mem member

theorem map_rule_segments (chain : Chain) :
    (chain.grid.segments.flatMap Segment.rows).map Row.rule = chain.rules := by
  rw [Grid.flatMap_rows_segments, map_rule_rows]

/-- What folding a chain leaves: a rule for each segment, in order. -/
structure FoldsTo (chain : Chain) (config : Config) (files : Files) (folded : Folded) : Prop where
  width_le : chain.grid.width ≤ config.maxShapes
  chain_eq : folded.chain = { chain with rules := folded.chain.rules }
  survivors : List.Forall₂ (fun segment survivor => segment.survivor = .ok survivor)
    chain.grid.segments folded.chain.rules
  merges_eq : folded.merges = mergesOf chain.grid.segments folded.chain.rules
  journal_eq : ∃ remarks : List Diagnostic, folded.journal =
    remarks.map .remark ++ [.report chain.name (report config files folded.merges)]

theorem mem_mergesOf_iff {segments : List Segment} {survivors : List Rule} {merge : Merge} :
    merge ∈ mergesOf segments survivors ↔
      (.merged merge.run, merge.survivor) ∈ segments.zip survivors := by
  simp only [mergesOf, List.mem_filterMap, Prod.exists, Option.map_eq_some_iff]
  constructor
  · intro found
    rcases found with ⟨segment, survivor, member, run, isRun, rfl⟩
    cases segment with
    | kept row => cases isRun
    | merged other =>
        cases isRun
        exact member
  · intro member
    exact ⟨_, _, member, merge.run, rfl, rfl⟩

theorem foldsTo_of_fold_eq_ok {folded : Folded} (folds : chain.fold config files = .ok folded) :
    chain.FoldsTo config files folded := by
  rw [fold_eq, Grid.ofRulesWithin_eq] at folds
  by_cases fits : (Grid.ofRules chain.rules).width ≤ config.maxShapes
  · rw [if_pos fits] at folds
    simp only at folds
    split at folds
    · cases folds
    · rename_i survivors found
      cases folds
      exact {
        width_le := fits
        chain_eq := rfl
        survivors := mapM_eq_ok_iff.mp found
        merges_eq := rfl
        journal_eq := ⟨_, rfl⟩ }
  · rw [if_neg fits] at folds
    cases folds

theorem FoldsTo.survivors_mem {folded : Folded} (foldsTo : chain.FoldsTo config files folded) :
    List.Forall₂ (fun segment survivor =>
      segment ∈ chain.grid.segments ∧ segment.survivor = .ok survivor)
      chain.grid.segments folded.chain.rules :=
  (List.forall₂_and_left _ _).mpr ⟨fun _ member => member, foldsTo.survivors⟩

theorem FoldsTo.of_mem_merges {folded : Folded} (foldsTo : chain.FoldsTo config files folded)
    {merge : Merge} (member : merge ∈ folded.merges) :
    .merged merge.run ∈ chain.grid.segments ∧ merge.run.fold = .ok merge.survivor := by
  rw [foldsTo.merges_eq, mem_mergesOf_iff] at member
  exact ⟨(List.of_mem_zip member).1, (List.forall₂_iff_zip.mp foldsTo.survivors).2 member⟩

theorem map_run_mergesOf {segments : List Segment} {survivors : List Rule}
    (sameLength : segments.length = survivors.length) :
    (mergesOf segments survivors).map Merge.run = segments.filterMap Segment.run? := by
  induction segments generalizing survivors with
  | nil => rfl
  | cons segment rest ih =>
      cases survivors with
      | nil => cases sameLength
      | cons survivor survivors =>
          rw [mergesOf_cons, List.map_append, ih (Nat.succ.inj sameLength), List.filterMap_cons]
          cases segment <;> rfl

/-- Every run of a chain is folded. -/
theorem length_merges {folded : Folded} (folds : chain.fold config files = .ok folded) :
    folded.merges.length = chain.grid.runs.length := by
  have foldsTo := foldsTo_of_fold_eq_ok folds
  rw [foldsTo.merges_eq, Grid.runs, ← map_run_mergesOf foldsTo.survivors.length_eq,
    List.length_map]

/-- Folding a chain fails exactly when the chain is over capacity. -/
theorem fold_eq_error_iff {failure : PassError} : chain.fold config files = .error failure ↔
    config.maxShapes < chain.grid.width ∧ failure = .tooManyShapes config.maxShapes := by
  rcases Grid.exists_survivors chain.sound_grid with ⟨survivors, found⟩
  rw [grid] at found ⊢
  rw [fold_eq, Grid.ofRulesWithin_eq]
  by_cases fits : (Grid.ofRules chain.rules).width ≤ config.maxShapes
  · simp [fits, found]
  · simp [fits, Nat.lt_of_not_le fits, eq_comm]

theorem exists_fold_of_width_le (fits : chain.grid.width ≤ config.maxShapes) :
    ∃ folded, chain.fold config files = .ok folded := by
  cases folds : chain.fold config files with
  | ok folded => exact ⟨folded, rfl⟩
  | error failure => exact absurd (fold_eq_error_iff.mp folds).1 (Nat.not_lt.mpr fits)

/-- What a pass does to a chain: it passes it over, fails on it for want of capacity or folds it. -/
theorem pass_cases (config : Config) (files : Files) (table : String) (chain : Chain) :
    (chain.isOffloaded = true ∧ (chain.pass config files table).result = chain ∧
      (chain.pass config files table).summary = ⟨0, 0, 1, []⟩) ∨
    (chain.isOffloaded = false ∧ config.maxShapes < chain.grid.width ∧
      (chain.pass config files table).result = chain ∧
      (chain.pass config files table).summary = ⟨0, 0, 0, [(table, chain.name)]⟩) ∨
    (chain.isOffloaded = false ∧ ∃ folded, chain.fold config files = .ok folded ∧
      (chain.pass config files table).result = folded.chain ∧
      (chain.pass config files table).summary =
        ⟨folded.merges.length, chain.rules.length - folded.chain.rules.length, 0, []⟩) := by
  unfold pass
  cases chain.isOffloaded with
  | true => exact .inl ⟨rfl, rfl, rfl⟩
  | false =>
      cases folds : chain.fold config files with
      | ok folded => exact .inr (.inr ⟨rfl, folded, rfl, rfl, rfl⟩)
      | error failure =>
          rcases fold_eq_error_iff.mp folds with ⟨tooWide, rfl⟩
          exact .inr (.inl ⟨rfl, tooWide, rfl, rfl⟩)

theorem fold_all {check : Folded → Bool} {folded : Folded}
    (checked : (chain.fold config files).toOption.all check = true)
    (folds : chain.fold config files = .ok folded) : check folded = true := by
  rw [folds] at checked
  exact checked

/-- A segment has at least the rule that it leaves, and if it is a run it has another. -/
theorem length_survivors_add_length_mergesOf {grid : Grid} {segments : List Segment}
    {survivors : List Rule} (sound : grid.Sound) (leave : List.Forall₂ (fun segment survivor =>
      segment ∈ grid.segments ∧ segment.survivor = .ok survivor) segments survivors) :
    survivors.length + (mergesOf segments survivors).length ≤
      (segments.flatMap Segment.rows).length := by
  induction leave with
  | nil => exact Nat.le_refl 0
  | @cons segment survivor segments survivors leaves _ ih =>
      have here : 1 + (segment.run?.map fun run => Merge.mk run survivor).toList.length ≤
          segment.rows.length := by
        cases segment with
        | kept row => exact Nat.le_refl 1
        | merged run => exact (Grid.proper_of_mem_segments sound leaves.1).two_le
      rw [mergesOf_cons, List.length_append, List.flatMap_cons, List.length_append,
        List.length_cons]
      omega

/-- Each merge takes at least one rule away. -/
theorem length_fold_add_length_merges {folded : Folded}
    (folds : chain.fold config files = .ok folded) :
    folded.chain.rules.length + folded.merges.length ≤ chain.rules.length := by
  have foldsTo := foldsTo_of_fold_eq_ok folds
  have counted := length_survivors_add_length_mergesOf chain.sound_grid foldsTo.survivors_mem
  rw [← foldsTo.merges_eq] at counted
  rw [← chain.map_rule_segments, List.length_map]
  exact counted

/-- The rules that a pass counts as gone are gone, and they are no fewer than the merges. -/
theorem rulesRemoved_pass (config : Config) (files : Files) (table : String) (chain : Chain) :
    (chain.pass config files table).summary.rulesRemoved +
        (chain.pass config files table).result.rules.length = chain.rules.length ∧
      (chain.pass config files table).summary.merges ≤
        (chain.pass config files table).summary.rulesRemoved := by
  rcases pass_cases config files table chain with ⟨-, result, summary⟩ | ⟨-, -, result, summary⟩ |
    ⟨-, folded, folds, result, summary⟩
  · simp [result, summary]
  · simp [result, summary]
  · have counted := length_fold_add_length_merges folds
    simp only [result, summary]
    omega

/-- Folding all runs of a chain meets no fault, although the places that it goes by are found before
any rule is changed: only a want of capacity keeps a chain from being folded. No more rules are left
than there were, so that those that went can be counted. -/
theorem fold_meets_no_fault (config : Config) (files : Files) (chain : Chain) :
    ∃ folded, chain.foldOn config files chain.grid = .ok folded ∧
      folded.merges.map Merge.run = chain.grid.runs ∧
      chain.fold config files = (if chain.grid.width ≤ config.maxShapes then .ok folded
        else .error (.tooManyShapes config.maxShapes)) ∧
      folded.chain.rules.length ≤ chain.rules.length ∧
      ∀ table, (chain.pass config files table).summary.rulesRemoved +
        (chain.pass config files table).result.rules.length = chain.rules.length := by
  rcases Grid.exists_survivors chain.sound_grid with ⟨survivors, leave⟩
  have folds := @foldOn_eq_ok config files chain survivors leave
  have leaves := mapM_eq_ok_iff.mp leave
  have counted := length_survivors_add_length_mergesOf chain.sound_grid
    ((List.forall₂_and_left _ _).mpr ⟨fun _ member => member, leaves⟩)
  have length := congrArg List.length chain.map_rule_segments
  rw [List.length_map] at length
  refine ⟨_, folds, map_run_mergesOf leaves.length_eq, ?_, ?_,
    fun table => (rulesRemoved_pass config files table chain).1⟩
  · rw [fold, Grid.ofRulesWithin_eq, ← grid]
    by_cases fits : chain.grid.width ≤ config.maxShapes
    · rw [if_pos fits, if_pos fits]
      simp only [folds]
      rfl
    · rw [if_neg fits, if_neg fits]
  · exact (Nat.le_of_add_right_le counted).trans_eq length

/-- The places of a run do not serve twice: a rule that has lost a match does not have it where it
was. -/
example : (do
    let rules := (Chain.ofStatements [
      [.number (.metadata .mark .unspecified) 1, .number (.route .mtu) 1],
      [.number (.metadata .mark .unspecified) 2, .number (.route .mtu) 2]]).rules
    let cells ← Cells.ofGrid (.ofRules rules)
    let once ← cells.merge rules ⟨0, 2, [0, 1]⟩
    cells.merge once ⟨0, 2, [0, 1]⟩) = .error (.beyondEnd 1 1) := by
  decide

end Chain

end Rulefold
