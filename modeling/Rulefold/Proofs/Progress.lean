import Rulefold.Pass
import Rulefold.Proofs.Rewriting

/-!
# Folding one run after another

Folding the runs of a chain one after another in one list of rules meets no fault. What is left is a
rule for each segment of the chain, and the report is that on the merges, in order. The rules of a
run are in their places when its turn comes, because every run that was folded before lies ahead of
it.
-/

namespace Rulefold

namespace Chain

/-- The merges among segments and the rules they left. -/
def mergesOf (segments : List Segment) (survivors : List Rule) : List Merge :=
  (segments.zip survivors).filterMap fun (segment, survivor) =>
    segment.run?.map fun run => { run, survivor }

/-- The report on all merges of a chain. -/
def report (config : Config) (files : Files) (merges : List Merge) : String :=
  if config.audit then String.join (merges.map (Merge.report files)) else ""

/-- What is to be said on the report. -/
def reportRemarks (config : Config) (files : Files) (merges : List Merge) : List Diagnostic :=
  if config.audit then merges.flatMap (Merge.remarks files) else []

theorem mergesOf_cons (segment : Segment) (segments : List Segment) (survivor : Rule)
    (survivors : List Rule) : mergesOf (segment :: segments) (survivor :: survivors) =
      (segment.run?.map fun run => Merge.mk run survivor).toList ++
        mergesOf segments survivors := by
  rw [mergesOf, List.zip_cons_cons, List.filterMap_cons]
  cases segment <;> rfl

variable {config : Config} {files : Files}

theorem report_cons (merge : Merge) (merges : List Merge) : report config files (merge :: merges) =
    report config files [merge] ++ report config files merges := by
  unfold report
  split
  · simp [String.join_cons]
  · rfl

theorem reportRemarks_cons (merge : Merge) (merges : List Merge) :
    reportRemarks config files (merge :: merges) =
      reportRemarks config files [merge] ++ reportRemarks config files merges := by
  unfold reportRemarks
  split
  · simp
  · rfl

end Chain

namespace Segment

/-- The rules of a segment once it is folded, before any of them goes. -/
def settled (segment : Segment) (survivor : Rule) : List Rule :=
  survivor :: segment.rows.tail.map Row.rule

/-- For each rule of a segment whether it goes. -/
def gone (segment : Segment) : List Bool :=
  false :: List.replicate (segment.rows.length - 1) true

/-- The rules of several segments once they are folded. -/
def settledAll (segments : List Segment) (survivors : List Rule) : List Rule :=
  (segments.zip survivors).flatMap fun (segment, survivor) => segment.settled survivor

theorem rows_ne_nil {grid : Grid} (sound : grid.Sound) {segment : Segment}
    (member : segment ∈ grid.segments) : segment.rows ≠ [] := by
  cases segment with
  | kept row => exact List.cons_ne_nil row []
  | merged run =>
      rcases (Grid.proper_of_mem_segments sound member).exists_first with ⟨first, rest, rows⟩
      rw [Segment.rows, rows]
      exact List.cons_ne_nil first rest

theorem length_settled {grid : Grid} (sound : grid.Sound) {segment : Segment}
    (member : segment ∈ grid.segments) (survivor : Rule) :
    (segment.settled survivor).length = segment.rows.length := by
  have pos := List.length_pos_iff.mpr (rows_ne_nil sound member)
  rw [settled, List.length_cons, List.length_map, List.length_tail]
  omega

theorem length_gone {grid : Grid} (sound : grid.Sound) {segment : Segment}
    (member : segment ∈ grid.segments) : segment.gone.length = segment.rows.length := by
  have pos := List.length_pos_iff.mpr (rows_ne_nil sound member)
  rw [gone, List.length_cons, List.length_replicate]
  omega

end Segment

theorem Rule.foldReport_congr (files : Files) {first survivor : Rule} (rest : List Rule)
    (location : survivor.location = first.location) :
    foldReport files (survivor :: rest) survivor = foldReport files (first :: rest) survivor := by
  simp only [foldReport, List.map_cons, quotation, location]

theorem Rule.foldRemarks_congr (files : Files) {first survivor : Rule} (rest : List Rule)
    (location : survivor.location = first.location) :
    foldRemarks files (survivor :: rest) = foldRemarks files (first :: rest) := by
  simp only [foldRemarks, List.flatMap_cons, quotationRemarks, location]

namespace Progress

variable {config : Config} {files : Files} {rules : List Rule}

section Step

variable {run : Run} {survivor : Rule} {before after : List Row}

theorem intact_of_split (split : (Grid.ofRules rules).rows = before ++ run.rows ++ after)
    {done : List Rule} (doneLength : done.length = before.length) {row : Row}
    (member : row ∈ run.rows) :
    (done ++ (run.rows ++ after).map Row.rule)[row.index]? = some row.rule := by
  rcases List.mem_iff_getElem?.mp member with ⟨place, found⟩
  have inRun := (List.getElem?_eq_some_iff.mp found).1
  have inGrid : (Grid.ofRules rules).rows[before.length + place]? = some row := by
    rw [split, List.append_assoc, List.getElem?_append_right (by omega),
      List.getElem?_append_left (by omega), Nat.add_sub_cancel_left, found]
  rw [(Grid.getElem?_rows inGrid).1, List.getElem?_append_right (by omega), List.getElem?_map,
    List.getElem?_append_left (by omega), doneLength, Nat.add_sub_cancel_left, found]
  rfl

theorem runOf_of_split (split : (Grid.ofRules rules).rows = before ++ run.rows ++ after)
    (start : run.span.first = before.length) : (Grid.ofRules rules).runOf run.span = run := by
  rw [Grid.runOf, start, split, List.append_assoc, List.drop_left, Run.selectors_span]
  simp [Run.span]

/-- Folding a run when the rules from its first on are as they were. -/
theorem step_eq_ok (isRun : run ∈ (Grid.ofRules rules).runs)
    (split : (Grid.ofRules rules).rows = before ++ run.rows ++ after)
    (folds : run.fold = .ok survivor) {done : List Rule} {flags : List Bool}
    (doneLength : done.length = before.length) (flagsLength : flags.length = before.length)
    (merges : List Merge) (report : String) (remarks : List Diagnostic) :
    step config files (Grid.ofRules rules) (Grid.ofRules rules).cells
        { rules := done ++ (run.rows ++ after).map Row.rule
          absorbed := flags ++ List.replicate (run.rows ++ after).length false
          merges, report, remarks } run.span =
      .ok {
        rules := done ++ (Segment.merged run).settled survivor ++ after.map Row.rule
        absorbed := flags ++ (Segment.merged run).gone ++ List.replicate after.length false
        merges := merges ++ [{ run, survivor }]
        report := report ++ Chain.report config files [{ run, survivor }]
        remarks := remarks ++ Chain.reportRemarks config files [{ run, survivor }] } := by
  have sound := Grid.sound_ofRules rules
  have proper := Grid.proper_of_mem_runs sound isRun
  rcases proper.split sound folds with ⟨first, rest, _, _, _, _, rows, -, -, isSurvivor⟩
  have location : survivor.location = first.rule.location := by
    rw [isSurvivor]
  have start : run.span.first = before.length :=
    Grid.firstIndex_of_split split (by simp [rows])
  have last : run.span.last = .ok (before.length + rest.length) := by
    rw [Grid.last_eq_ok isRun, start]
    simp [Run.span, rows]
  have merged := Grid.merge_eq_ok isRun (fun row member => intact_of_split split doneLength member)
    folds
  have settled : (done ++ (run.rows ++ after).map Row.rule).set before.length survivor =
      done ++ ((survivor :: rest.map Row.rule) ++ after.map Row.rule) := by
    simp [rows, ← doneLength]
  have isFirst : (done ++ ((survivor :: rest.map Row.rule) ++ after.map Row.rule))[before.length]? =
      some survivor := by
    simp [← doneLength]
  have told : Checked.slice (done ++ ((survivor :: rest.map Row.rule) ++ after.map Row.rule))
      before.length (before.length + rest.length) = .ok (survivor :: rest.map Row.rule) := by
    have inside : before.length + rest.length <
        (done ++ ((survivor :: rest.map Row.rule) ++ after.map Row.rule)).length := by
      simp only [List.length_append, List.length_cons, List.length_map, doneLength]
      omega
    rw [Checked.slice_eq_ok (by omega) inside, ← doneLength, Nat.add_assoc,
      List.take_length_add_append, List.drop_left, List.take_left' (by simp)]
  have gone : Checked.fill (flags ++ List.replicate (run.rows ++ after).length false)
      (before.length + 1) (before.length + rest.length) true =
        .ok (flags ++ (Segment.merged run).gone ++ List.replicate after.length false) := by
    have split : List.replicate (run.rows ++ after).length false =
        false :: (List.replicate rest.length false ++ List.replicate after.length false) := by
      rw [← List.replicate_add, ← List.replicate_succ, rows]
      simp
    have inside : before.length + rest.length <
        (flags ++ List.replicate (run.rows ++ after).length false).length := by
      simp only [List.length_append, List.length_replicate, List.length_cons, rows, flagsLength]
      omega
    rw [Checked.fill_eq_ok (by omega) inside, split, ← flagsLength, List.take_length_add_append,
      Nat.add_assoc, List.drop_length_add_append]
    have length : flags.length + (rest.length + 1) - (flags.length + 1) = rest.length := by
      omega
    simp [Segment.gone, Segment.rows, rows, length]
  rw [step, merged, Checked.ok_bind, last, Checked.ok_bind, start, settled,
    Checked.get_eq_ok isFirst, Checked.ok_bind, told, gone, runOf_of_split split start]
  cases audited : config.audit with
  | true =>
      simp [Chain.report, Chain.reportRemarks, audited, Merge.report, Merge.remarks, Merge.rules,
        rows, Rule.foldReport_congr files _ location, Rule.foldRemarks_congr files _ location,
        Segment.settled, Segment.rows, pure, Except.pure, Checked.ok_bind]
  | false =>
      simp [Chain.report, Chain.reportRemarks, audited, Rule.foldRemarks, rows, Segment.settled,
        Segment.rows, pure, Except.pure, Checked.ok_bind]

end Step

/-- Folding the runs of the rest of a chain, when those before have been folded. -/
theorem foldlM_step_eq_ok {earlier segments : List Segment} {survivors : List Rule}
    (split : (Grid.ofRules rules).segments = earlier ++ segments)
    (leave : List.Forall₂ (fun segment survivor => segment.survivor = .ok survivor)
      segments survivors) {done : List Rule} {flags : List Bool}
    (doneLength : done.length = (earlier.flatMap Segment.rows).length)
    (flagsLength : flags.length = (earlier.flatMap Segment.rows).length)
    (merges : List Merge) (report : String) (remarks : List Diagnostic) :
    ((segments.filterMap Segment.run?).map Run.span).foldlM
        (step config files (Grid.ofRules rules) (Grid.ofRules rules).cells)
        { rules := done ++ (segments.flatMap Segment.rows).map Row.rule
          absorbed := flags ++ List.replicate (segments.flatMap Segment.rows).length false
          merges, report, remarks } =
      .ok {
        rules := done ++ Segment.settledAll segments survivors
        absorbed := flags ++ segments.flatMap Segment.gone
        merges := merges ++ Chain.mergesOf segments survivors
        report := report ++ Chain.report config files (Chain.mergesOf segments survivors)
        remarks := remarks ++
          Chain.reportRemarks config files (Chain.mergesOf segments survivors) } := by
  -- The rules behind those that are done are untouched, and they are as many places away from the
  -- start as before any run was folded.
  induction leave generalizing earlier done flags merges report remarks with
  | nil =>
      simp [Segment.settledAll, Chain.mergesOf, Chain.report, Chain.reportRemarks, pure,
        Except.pure, String.join_nil]
  | @cons segment survivor segments survivors leaves _ ih =>
      have sound := Grid.sound_ofRules rules
      have member : segment ∈ (Grid.ofRules rules).segments := by
        simp [split]
      have rowsSplit : (Grid.ofRules rules).rows = earlier.flatMap Segment.rows ++ segment.rows ++
          segments.flatMap Segment.rows := by
        rw [← Grid.flatMap_rows_segments, split]
        simp
      have later := @ih (earlier ++ [segment]) (by simp [split])
        (done ++ segment.settled survivor) (flags ++ segment.gone)
        (by simp [doneLength, Segment.length_settled sound member])
        (by simp [flagsLength, Segment.length_gone sound member])
      have settledAll : Segment.settledAll (segment :: segments) (survivor :: survivors) =
          segment.settled survivor ++ Segment.settledAll segments survivors := rfl
      rw [settledAll, Chain.mergesOf_cons, List.flatMap_cons, List.flatMap_cons]
      cases segment with
      | kept row =>
          cases leaves
          have spans : (Segment.kept row :: segments).filterMap Segment.run? =
              segments.filterMap Segment.run? := rfl
          rw [spans]
          simpa [Segment.settled, Segment.gone, Segment.rows, Segment.run?, Nat.add_comm 1,
            List.replicate_succ] using later merges report remarks
      | merged run =>
          have here := @step_eq_ok config files _ _ _ _ _ (Grid.mem_runs_iff.mpr member) rowsSplit
            leaves _ _ doneLength flagsLength merges report remarks
          have spans : ((Segment.merged run :: segments).filterMap Segment.run?).map Run.span =
              run.span :: (segments.filterMap Segment.run?).map Run.span := rfl
          have isMerge : ((Segment.merged run).run?.map fun run => Merge.mk run survivor).toList ++
              Chain.mergesOf segments survivors =
                { run, survivor } :: Chain.mergesOf segments survivors := rfl
          rw [spans, List.foldlM_cons, Segment.rows, here, Checked.ok_bind, later, isMerge,
            Chain.report_cons _ (Chain.mergesOf segments survivors),
            Chain.reportRemarks_cons _ (Chain.mergesOf segments survivors)]
          simp only [List.append_assoc, String.append_assoc, List.singleton_append]

theorem survivors_absorbed (rules : List Rule) (count : Nat) (merges : List Merge)
    (report : String) (remarks : List Diagnostic) : Progress.survivors {
      rules
      absorbed := List.replicate count true
      merges, report, remarks } = [] := by
  rw [Progress.survivors, List.filterMap_eq_nil_iff]
  rintro ⟨rule, gone⟩ member
  rw [List.eq_of_mem_replicate (List.of_mem_zip member).2]
  rfl

/-- Of the rules of a chain those remain that the segments leave. -/
theorem survivors_settledAll {segments : List Segment} {survivors : List Rule}
    (leave : List.Forall₂ (fun segment survivor => segment.survivor = .ok survivor)
      segments survivors) (merges : List Merge) (report : String) (remarks : List Diagnostic) :
    Progress.survivors {
      rules := Segment.settledAll segments survivors
      absorbed := segments.flatMap Segment.gone
      merges, report, remarks } = survivors := by
  induction leave with
  | nil => rfl
  | @cons segment survivor segments survivors _ _ ih =>
      have settledAll : Segment.settledAll (segment :: segments) (survivor :: survivors) =
          segment.settled survivor ++ Segment.settledAll segments survivors := rfl
      have sameLength : (segment.settled survivor).length = segment.gone.length := by
        simp [Segment.settled, Segment.gone]
      have absorbed := survivors_absorbed (segment.rows.tail.map Row.rule)
        (segment.rows.length - 1) merges report remarks
      rw [Progress.survivors] at ih absorbed ⊢
      dsimp only at ih absorbed ⊢
      rw [settledAll, List.flatMap_cons, List.zip_append sameLength, List.filterMap_append, ih,
        Segment.settled, Segment.gone, List.zip_cons_cons, List.filterMap_cons, absorbed]
      rfl

end Progress

namespace Chain

variable {config : Config} {files : Files} {chain : Chain}

/-- The grid of the rules of a chain. -/
def grid (chain : Chain) : Grid := Grid.ofRules chain.rules

theorem candidates_eq_ok (rules : List Rule) :
    ((Grid.ofRules rules).runs.map Run.span).mapM Span.candidate =
      .ok ((Grid.ofRules rules).runs.map Run.candidate) := by
  rw [mapM_eq_ok_iff, List.forall₂_map_left_iff, List.forall₂_map_right_iff, List.forall₂_same]
  intro run isRun
  have proper := Grid.proper_of_mem_runs (Grid.sound_ofRules rules) isRun
  rcases Grid.infix_of_mem_runs isRun with ⟨before, after, split⟩
  have ne_nil : run.rows ≠ [] := by
    rcases proper.exists_first with ⟨first, rest, rows⟩
    simp [rows]
  have last := Grid.lastIndex_of_split split.symm ne_nil
  have first := Grid.firstIndex_of_split split.symm ne_nil
  rw [Span.candidate, Grid.last_eq_ok isRun, Run.candidate]
  simp only [Run.span, first, ← last]
  rfl

/-- Folding the runs of a chain in place leaves what its segments leave, whatever the capacity. -/
theorem foldOn_eq_ok {survivors : List Rule}
    (leave : chain.grid.segments.mapM Segment.survivor = .ok survivors) :
    chain.foldOn config files chain.grid = .ok {
      chain := { chain with rules := survivors }
      merges := mergesOf chain.grid.segments survivors
      journal := (.laidOut chain.name chain.rules.length chain.grid.width :: chain.grid.remarks ++
        reportRemarks config files (mergesOf chain.grid.segments survivors)).map .remark ++
        [.report chain.name (report config files (mergesOf chain.grid.segments survivors))] } := by
  rw [grid] at leave ⊢
  have leaves := mapM_eq_ok_iff.mp leave
  have folded := @Progress.foldlM_step_eq_ok config files chain.rules []
    (Grid.ofRules chain.rules).segments survivors rfl leaves [] [] rfl rfl [] "" []
  have length := congrArg List.length (Grid.map_rule_rows_ofRules chain.rules)
  rw [List.length_map] at length
  rw [← Grid.runs, Grid.flatMap_rows_segments, Grid.map_rule_rows_ofRules, length] at folded
  simp only [List.nil_append, String.empty_append] at folded
  have start : Progress.start chain.rules =
      { rules := chain.rules
        absorbed := List.replicate chain.rules.length false
        merges := []
        report := ""
        remarks := [] } := rfl
  simp only [foldOn, Grid.ofGrid_eq_ok (Grid.sound_ofRules chain.rules), Grid.scan_eq_ok,
    Grid.span?_findings, Grid.remark?_findings, candidates_eq_ok, start, folded, Checked.ok_bind,
    Progress.survivors_settledAll leaves]
  simp only [Grid.remarks, List.cons_append, List.append_assoc]
  rfl

/-- Folding a chain in place gives a rule for each of its segments. -/
theorem fold_eq (config : Config) (files : Files) (chain : Chain) : chain.fold config files =
    match Grid.ofRulesWithin config.maxShapes chain.rules with
    | none => .error (.tooManyShapes config.maxShapes)
    | some grid =>
      match grid.segments.mapM Segment.survivor with
      | .error fault => .error (.unfolded fault)
      | .ok survivors =>
        let merges := mergesOf grid.segments survivors
        let remarks := .laidOut chain.name chain.rules.length grid.width :: grid.remarks ++
          reportRemarks config files merges
        .ok {
          chain := { chain with rules := survivors }
          merges
          journal :=
            remarks.map .remark ++ [.report chain.name (report config files merges)] } := by
  rw [fold, Grid.ofRulesWithin_eq]
  by_cases fits : (Grid.ofRules chain.rules).width ≤ config.maxShapes
  · rcases Grid.exists_survivors (Grid.sound_ofRules chain.rules) with ⟨survivors, leave⟩
    have folds := @foldOn_eq_ok config files chain survivors leave
    rw [grid] at folds
    rw [if_pos fits]
    simp only [folds, leave]
    rfl
  · rw [if_neg fits]

end Chain

end Rulefold
