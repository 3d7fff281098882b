import Rulefold.Proofs.Reordering

/-!
# Folding is local

Where no run crosses from one part of a chain to the next, each part is folded as if it stood
alone. The rules before the boundary lie on the same grid as they would alone. Those behind it find
columns that are there already, so their selectors may be numbered in another order, and this shows
only in the order of the components of a concatenation and in its place.
-/

namespace Rulefold

namespace Grid

/-- Rules that follow others are laid out below the columns of these. -/
theorem layOut_append (columns : Columns) (index : Nat) (first second : List Rule) :
    layOut columns index (first ++ second) =
      ((layOut (layOut columns index first).1 (index + first.length) second).1,
        (layOut columns index first).2 ++
          (layOut (layOut columns index first).1 (index + first.length) second).2) := by
  induction first generalizing columns index with
  | nil => rfl
  | cons rule rest ih =>
      have shift : index + 1 + rest.length = index + (rest.length + 1) := by omega
      simp only [List.cons_append, layOut, ih, List.length_cons, shift]

/-- The rows of rules that follow others. -/
def rowsBehind (before after : List Rule) : List Row :=
  (layOut (ofRules before).columns before.length after).2

variable {before after : List Rule}

theorem rows_append (before after : List Rule) :
    (ofRules (before ++ after)).rows = (ofRules before).rows ++ rowsBehind before after := by
  simp only [ofRules, layOut_append, rowsBehind, Nat.zero_add]

theorem columns_prefix_append (before after : List Rule) :
    (ofRules before).columns <+: (ofRules (before ++ after)).columns := by
  simp only [ofRules, layOut_append]
  exact prefix_layOut _ _ after

theorem map_rule_rowsBehind (before after : List Rule) :
    (rowsBehind before after).map Row.rule = after := map_rule_layOut _ _ after

section Prefix

variable {grid later : Grid}

/-- Columns that are added later have no effect on the selectors of a row. -/
theorem selectors_eq_of_prefix (grown : grid.columns <+: later.columns) {row : Row}
    (holds : grid.columns.Holds row.rule.statements row.columns) :
    later.selectors row = grid.selectors row := by
  rcases grown with ⟨added, columns⟩
  have inside : ∀ column ∈ row.columns, column < grid.width := by
    intro column member
    have placed : grid.columns[column]? ∈ row.columns.map fun place => grid.columns[place]? :=
      List.mem_map_of_mem member
    rw [holds] at placed
    rcases List.mem_map.mp placed with ⟨statement, -, found⟩
    exact (List.getElem?_eq_some_iff.mp found.symm).1
  have width : later.width = grid.width + added.length := by
    rw [Grid.width, Grid.width, ← columns, List.length_append]
  have none_added : ((List.range added.length).map (grid.width + ·)).filter (fun column =>
      (row.cell? column).isSome && later.isSelector column) = [] := by
    rw [List.filter_eq_nil_iff, List.forall_mem_map]
    intro extra _ selected
    have inRow := Row.isSome_cell?_iff.mp (Bool.and_eq_true_iff.mp selected).1
    have bound := inside _ inRow
    omega
  rw [selectors, selectors, width, List.range_add, List.filter_append, none_added,
    List.append_nil]
  apply List.filter_congr
  intro column inRange
  rw [isSelector, isSelector, ← columns, List.getElem?_append_left (List.mem_range.mp inRange)]

theorem segmentOf_eq_of_prefix (grown : grid.columns <+: later.columns) (sound : grid.Sound)
    {rows : List Row} (subset : ∀ row ∈ rows, row ∈ grid.rows) :
    later.segmentOf rows = grid.segmentOf rows := by
  match rows with
  | [] => rfl
  | [row] => rfl
  | first :: second :: rest =>
      simp only [segmentOf, sharedSelectors,
        selectors_eq_of_prefix grown (sound.holds first (subset first (by simp)))]

end Prefix

section Boundary

variable {before after : List Rule}

/-- Rules that belong together lie in one run, also across the boundary. -/
theorem joins_eq_false_of_apart (apart : ∀ run ∈ (ofRules (before ++ after)).runs,
      ∀ last ∈ run.rows.map Row.index, last + 1 = before.length →
        before.length ∉ run.rows.map Row.index) :
    ∀ last ∈ (ofRules before).rows.getLast?, ∀ head ∈ (rowsBehind before after).head?,
      last.rule.joins head.rule = false := by
  intro last isLast head isHead
  rcases List.getLast?_eq_some_iff.mp isLast with ⟨front, rows⟩
  rcases List.head?_eq_some_iff.mp isHead with ⟨rest, behind⟩
  have beforeRules : before = front.map Row.rule ++ [last.rule] := by
    rw [← map_rule_rows_ofRules before, rows, List.map_append, List.map_singleton]
  have afterRules : after = head.rule :: rest.map Row.rule := by
    rw [← map_rule_rowsBehind before after, behind, List.map_cons]
  by_contra joins
  rw [Bool.not_eq_false, Rule.joins_iff] at joins
  have isLastRule : (before ++ after)[front.length]? = some last.rule := by
    simp [beforeRules]
  have isHeadRule : (before ++ after)[front.length + 1]? = some head.rule := by
    simp [beforeRules, afterRules]
  rcases (exists_mem_runs_iff isLastRule isHeadRule).mpr joins with
    ⟨run, isRun, lastMember, headMember⟩
  have length : front.length + 1 = before.length := by
    simp [beforeRules]
  exact apart run isRun front.length lastMember length (length ▸ headMember)

/-- Where no run crosses the boundary, the first part falls into its own segments, and the second
part where it does by itself. -/
theorem segments_append (apart : ∀ last ∈ (ofRules before).rows.getLast?,
      ∀ head ∈ (rowsBehind before after).head?, last.rule.joins head.rule = false) :
    ∃ behind, (ofRules (before ++ after)).segments = (ofRules before).segments ++ behind ∧
      (ofRules after).segments.map (fun segment => segment.rows.map Row.rule) =
        behind.map fun segment => segment.rows.map Row.rule := by
  have grown := columns_prefix_append before after
  have sound := sound_ofRules before
  refine ⟨((rowsBehind before after).splitBy fun first second =>
    first.rule.joins second.rule).map (ofRules (before ++ after)).segmentOf, ?_, ?_⟩
  · rw [segments_eq (sound_ofRules (before ++ after)), rows_append, List.splitBy_append apart,
      List.map_append, segments_eq sound]
    congr 1
    apply List.map_congr_left
    intro rows inSplit
    exact segmentOf_eq_of_prefix grown sound fun row member => mem_of_mem_splitBy inSplit member
  · rw [map_rules_segments (sound_ofRules after), map_rule_rows_ofRules, List.map_map]
    have own : ((fun segment : Segment => segment.rows.map Row.rule) ∘
        (ofRules (before ++ after)).segmentOf) = List.map Row.rule :=
      funext fun rows => congrArg (List.map Row.rule) (rows_segmentOf rows)
    rw [own, ← splitBy_map, map_rule_rowsBehind]

end Boundary

end Grid

theorem Segment.rightUnique_survivor : Relator.RightUnique fun (segment : Segment) survivor =>
    segment.survivor = .ok survivor := by
  intro segment survivor other leaves leavesOther
  rw [leaves] at leavesOther
  exact Except.ok.inj leavesOther

section Forall₂

theorem forall₂_of_append {α β : Type} {related : α → β → Prop} {first second : List α}
    {outputs : List β} (leave : List.Forall₂ related (first ++ second) outputs) :
    List.Forall₂ related first (outputs.take first.length) ∧
      List.Forall₂ related second (outputs.drop first.length) :=
  ⟨(List.forall₂_take_append _ _ _ leave.flip).flip,
    (List.forall₂_drop_append _ _ _ leave.flip).flip⟩

theorem forall₂_of_map_eq {α β : Type} {each : α → β} {first second : List α}
    (same : first.map each = second.map each) :
    List.Forall₂ (fun item other => each item = each other) first second := by
  rwa [← List.forall₂_eq_eq_eq, List.forall₂_map_left_iff, List.forall₂_map_right_iff] at same

/-- Items that are matched up one by one, where those of both sides leave something. -/
theorem forall₂_zip {α β γ δ : Type} {matched : α → β → Prop} {left : α → γ → Prop}
    {right : β → δ → Prop} {first : List α} {second : List β} {firstLeft : List γ}
    {secondLeft : List δ} (pairs : List.Forall₂ matched first second)
    (leave : List.Forall₂ left first firstLeft)
    (otherLeave : List.Forall₂ right second secondLeft) :
    List.Forall₂ (fun (item, leaves) otherLeaves =>
      left item leaves ∧ ∃ other, matched item other ∧ right other otherLeaves)
      (first.zip firstLeft) secondLeft := by
  induction pairs generalizing firstLeft secondLeft with
  | nil =>
      cases leave
      cases otherLeave
      exact .nil
  | cons pair _ ih =>
      cases leave with
      | cons leaves leave =>
          cases otherLeave with
          | cons otherLeaves otherLeave =>
              exact .cons ⟨leaves, _, pair, otherLeaves⟩ (ih leave otherLeave)

end Forall₂

namespace Chain

variable {config : Config} {files : Files} {chain : Chain} {folded : Folded}

/-- Folding is local. If no run of a chain has both the last rule of one part and the first rule of
the next, then the first part is folded as if it stood alone, and so is the second, except that the
selectors of a run may be taken in another order. -/
theorem fold_apart {before after : List Rule}
    (apart : ∀ run ∈ (chain.withRules (before ++ after)).grid.runs,
      ∀ last ∈ run.rows.map Row.index, last + 1 = before.length →
        before.length ∉ run.rows.map Row.index)
    (folds : (chain.withRules (before ++ after)).fold config files = .ok folded) :
    ∃ first second, (chain.withRules before).fold config files = .ok first ∧
      (chain.withRules after).fold config files = .ok second ∧
      folded.chain.rules.length = (first.chain.rules ++ second.chain.rules).length ∧
      folded.chain.rules.take first.chain.rules.length = first.chain.rules ∧
      List.Forall₂ (fun (segment, alone) rule => segment.survivor = .ok alone ∧
          if segment.isTupled then alone.SameUpToOrder rule else rule = alone)
        ((chain.withRules after).grid.segments.zip second.chain.rules)
        (folded.chain.rules.drop first.chain.rules.length) := by
  have foldsTo := foldsTo_of_fold_eq_ok folds
  rcases exists_folds_of_append folds with ⟨first, second, firstFolds, secondFolds⟩
  rcases Grid.segments_append (Grid.joins_eq_false_of_apart apart) with
    ⟨behind, segments, sameRules⟩
  have firstLeave := (foldsTo_of_fold_eq_ok firstFolds).survivors
  have secondLeave := (foldsTo_of_fold_eq_ok secondFolds).survivors_mem
  have leave := foldsTo.survivors_mem
  have whole : (chain.withRules (before ++ after)).grid.segments =
      (Grid.ofRules before).segments ++ behind := segments
  have firstLength : (Grid.ofRules before).segments.length = first.chain.rules.length :=
    firstLeave.length_eq
  have length := leave.length_eq
  rw [whole] at leave length
  rcases forall₂_of_append leave with ⟨takeLeave, dropLeave⟩
  rw [firstLength] at takeLeave dropLeave
  have sameEach := forall₂_of_map_eq sameRules
  refine ⟨first, second, firstFolds, secondFolds, ?_, ?_, ?_⟩
  · rw [List.length_append, ← length, List.length_append, firstLength, ← sameEach.length_eq,
      ← secondLeave.length_eq]
    rfl
  · exact List.right_unique_forall₂' Segment.rightUnique_survivor
      (takeLeave.imp fun _ _ leaves => leaves.2) firstLeave
  · refine (forall₂_zip sameEach secondLeave dropLeave).imp ?_
    rintro ⟨segment, alone⟩ rule ⟨leaves, other, sameRules, otherLeaves⟩
    have inGrid : other ∈ (chain.withRules (before ++ after)).grid.segments :=
      whole ▸ otherLeaves.1
    exact ⟨leaves.2, Segment.survivor_congr (chain.withRules after).sound_grid
      (chain.withRules (before ++ after)).sound_grid leaves.1 inGrid sameRules leaves.2
      otherLeaves.2⟩

/-- A rule that brings up a selector before the rules of `pairs` do. -/
def preamble : Chain := .ofStatements [[.number (.route .mtu) 9, .notrack]]

/-- A run with two selectors, the second of which comes first behind the preamble. -/
def pairs : Chain := .ofStatements [
  [.number (.metadata .mark .unspecified) 1, .number (.route .mtu) 1, .verdict .accept none],
  [.number (.metadata .mark .unspecified) 2, .number (.route .mtu) 2, .verdict .accept none]]

theorem fold_apart_of_preamble : ∃ folded second,
    (preamble.withRules (preamble.rules ++ pairs.rules)).fold .standard (.ofList []) = .ok folded ∧
      (preamble.withRules pairs.rules).fold .standard (.ofList []) = .ok second ∧
      folded.chain.rules.drop 1 ≠ second.chain.rules ∧
      List.Forall₂ Rule.SameUpToOrder second.chain.rules (folded.chain.rules.drop 1) := by
  have fits : (preamble.withRules (preamble.rules ++ pairs.rules)).grid.width ≤
      Config.standard.maxShapes := by
    decide
  rcases @exists_fold_of_width_le _ (.ofList []) _ fits with ⟨folded, folds⟩
  rcases fold_apart (by decide) folds with ⟨first, second, firstFolds, secondFolds, -, -, others⟩
  refine ⟨folded, second, folds, secondFolds, ?_, ?_⟩
  · have differ : ((preamble.withRules (preamble.rules ++ pairs.rules)).fold .standard
        (.ofList [])).toOption.map (fun folded => folded.chain.rules.drop 1) ≠
          ((preamble.withRules pairs.rules).fold .standard (.ofList [])).toOption.map
            fun folded => folded.chain.rules := by
      decide
    rw [folds, secondFolds] at differ
    exact fun same => differ (congrArg some same)
  · have count : ((preamble.withRules preamble.rules).fold .standard (.ofList [])).toOption.all
        (fun folded => folded.chain.rules.length = 1) = true := by
      decide
    have one : first.chain.rules.length = 1 := by
      simpa using fold_all count firstFolds
    have tupled : ∀ segment ∈ (preamble.withRules pairs.rules).grid.segments,
        segment.isTupled = true := by
      decide
    have sameLength := (foldsTo_of_fold_eq_ok secondFolds).survivors.length_eq
    rw [one] at others
    rw [← List.map_snd_zip sameLength.ge, List.forall₂_map_left_iff]
    have allTupled : ∀ entry ∈ (preamble.withRules pairs.rules).grid.segments.zip
        second.chain.rules, entry.1.isTupled = true :=
      fun entry member => tupled entry.1 (List.of_mem_zip member).1
    refine ((List.forall₂_and_left _ _).mpr ⟨allTupled, others⟩).imp ?_
    rintro ⟨segment, alone⟩ rule ⟨isTupled, -, same⟩
    rwa [if_pos isTupled] at same

end Chain

end Rulefold
