import Rulefold.Proofs.Cells
import Rulefold.Proofs.Runs
import Rulefold.Scan

/-!
# What a scan comes upon

A scan meets no fault, and it comes upon the runs of the grid. It compares a rule with the first of
its stretch, where the stretches of the grid compare neighbours; since likeness is an equivalence
these are the same stretches. Cutting at the rules that test a set leaves the same pieces too.
-/

namespace Rulefold

/-- The indices of a run. -/
def Run.span (run : Run) : Span where
  first := Row.firstIndex run.rows
  count := run.rows.length
  selectors := run.selectors

/-- The rule at a place is in the run. -/
def Span.Holds (span : Span) (place : Nat) : Prop :=
  span.first ≤ place ∧ place < span.first + span.count

/-- The rules of a chain at the places of a run. -/
def Span.rules (span : Span) (rules : List Rule) : List Rule :=
  (rules.drop span.first).take span.count

theorem Run.selectors_span (run : Run) : run.span.selectors = run.selectors := rfl

theorem Run.first_span {run : Run} {first : Row} {rest : List Row}
    (rows : run.rows = first :: rest) : run.span.first = first.index := by
  rw [span, Row.firstIndex, rows]
  rfl

theorem Grid.two_le_count {grid : Grid} (sound : grid.Sound) {run : Run}
    (isRun : run ∈ grid.runs) : 2 ≤ run.span.count :=
  (proper_of_mem_runs sound isRun).two_le

namespace Finding

/-- Rows that belong together are a run if they are two or more. -/
def ofRows (selectors : List Nat) (rows : List Row) : List Finding :=
  if 2 ≤ rows.length then [.run (Run.span { rows, selectors })] else []

/-- What there is in some rows, of which those that test a set are cut out. Pending rows have been
passed and not been cut out. -/
def ofCut (selectors : List Nat) (pending : List Row) : List Row → List Finding
  | [] => ofRows selectors pending
  | row :: rest =>
    if row.testsSet selectors then
      .remark (.setAmongSelectors row.index) :: ofRows selectors pending ++
        ofCut selectors [] rest
    else ofCut selectors (pending ++ [row]) rest

theorem remark?_ofRows (selectors : List Nat) (rows : List Row) :
    (ofRows selectors rows).filterMap remark? = [] := by
  unfold ofRows
  split <;> rfl

theorem remark?_ofCut (selectors : List Nat) (pending rows : List Row) :
    (ofCut selectors pending rows).filterMap remark? =
      (rows.filter (·.testsSet selectors)).map fun row => .setAmongSelectors row.index := by
  induction rows generalizing pending with
  | nil => exact remark?_ofRows selectors pending
  | cons row rest ih =>
      rw [ofCut]
      by_cases testsSet : row.testsSet selectors = true
      · rw [if_pos testsSet, List.cons_append, List.filterMap_cons, List.filterMap_append, ih,
          remark?_ofRows, List.filter_cons, if_pos testsSet]
        rfl
      · rw [if_neg testsSet, ih, List.filter_cons, if_neg testsSet]

theorem span?_ofRows (selectors : List Nat) (rows : List Row) :
    (ofRows selectors rows).filterMap span? =
      ((Segment.ofRows selectors rows).filterMap Segment.run?).map Run.span := by
  unfold ofRows Segment.ofRows
  by_cases long : 2 ≤ rows.length
  · rw [if_pos long, if_neg (by omega)]
    rfl
  · rw [if_neg long, if_pos (by omega), List.filterMap_map]
    symm
    rw [List.filterMap_nil, List.map_eq_nil_iff, List.filterMap_eq_nil_iff]
    exact fun _ _ => rfl

section Cut

variable {selectors : List Nat} {pending : List Row}

theorem flatMap_ofRows_splitBy (free : ∀ row ∈ pending, row.testsSet selectors = false) :
    ((pending.splitBy fun first second =>
        !first.testsSet selectors && !second.testsSet selectors).flatMap
      (Segment.ofRows selectors)) = Segment.ofRows selectors pending := by
  by_cases empty : pending = []
  · rw [empty]
    rfl
  · have together : pending.IsChain fun first second =>
        (!first.testsSet selectors && !second.testsSet selectors) = true := by
      apply List.Pairwise.isChain
      apply List.pairwise_of_forall_mem_list
      intro first firstMember second secondMember
      simp [free first firstMember, free second secondMember]
    rw [List.splitBy_of_isChain empty together, List.flatMap_singleton]

/-- Cutting rows out leaves the pieces between them. -/
theorem span?_ofCut (rows : List Row) (free : ∀ row ∈ pending, row.testsSet selectors = false) :
    (ofCut selectors pending rows).filterMap span? =
      ((((pending ++ rows).splitBy fun first second =>
        !first.testsSet selectors && !second.testsSet selectors).flatMap
          (Segment.ofRows selectors)).filterMap Segment.run?).map Run.span := by
  induction rows generalizing pending with
  | nil => rw [ofCut, List.append_nil, flatMap_ofRows_splitBy free, span?_ofRows]
  | cons row rest ih =>
      rw [ofCut]
      by_cases testsSet : row.testsSet selectors = true
      · have alone : [row].splitBy (fun first second =>
            !first.testsSet selectors && !second.testsSet selectors) = [[row]] := rfl
        have single : Segment.ofRows selectors [row] = [.kept row] := rfl
        have later := @ih [] (List.forall_mem_nil _)
        rw [List.nil_append] at later
        rw [if_pos testsSet, List.cons_append, List.filterMap_cons_none rfl,
          List.filterMap_append, later, span?_ofRows,
          List.splitBy_append_cons _ (by simp [testsSet]), ← List.singleton_append,
          List.splitBy_append (by simp [testsSet]), alone, List.flatMap_append,
          flatMap_ofRows_splitBy free, List.flatMap_append, List.flatMap_singleton, single,
          List.filterMap_append, List.filterMap_append, List.filterMap_cons_none rfl,
          List.filterMap_nil, List.nil_append, List.map_append]
      · rw [Bool.not_eq_true] at testsSet
        have later := @ih (pending ++ [row]) (by simpa [or_imp, forall_and, testsSet])
        rw [if_neg (by simp [testsSet]), later, List.append_assoc, List.singleton_append]

end Cut

end Finding

namespace Grid

section Findings

variable (grid : Grid)

/-- What a scan comes upon in a stretch. -/
def findingsOn (stretch : List Row) : List Finding :=
  if stretch.length < 2 then []
  else
    match grid.sharedSelectors stretch with
    | [] => [.remark (.noSelector (Row.firstIndex stretch) (Row.lastIndex stretch))]
    | [column] => [.run (Run.span { rows := stretch, selectors := [column] })]
    | columns => Finding.ofCut columns [] stretch

/-- All that a scan comes upon, in order. -/
def findings : List Finding := grid.stretches.flatMap grid.findingsOn

theorem remark?_findings : grid.findings.filterMap Finding.remark? =
    grid.stretches.flatMap grid.remarksOn := by
  rw [findings, List.filterMap_flatMap]
  apply List.flatMap_congr
  intro stretch _
  unfold findingsOn remarksOn
  split
  · rfl
  · rcases grid.sharedSelectors stretch with _ | ⟨column, _ | ⟨other, rest⟩⟩
    · rfl
    · rfl
    · exact Finding.remark?_ofCut (column :: other :: rest) [] stretch

theorem span?_findings :
    grid.findings.filterMap Finding.span? = grid.runs.map Run.span := by
  rw [findings, runs, segments, List.filterMap_flatMap, List.filterMap_flatMap, List.map_flatMap]
  apply List.flatMap_congr
  intro stretch _
  have kept : (stretch.map Segment.kept).filterMap Segment.run? = [] := by
    rw [List.filterMap_map, List.filterMap_eq_nil_iff]
    exact fun _ _ => rfl
  unfold findingsOn segmentsOf
  split
  · rw [kept]
    rfl
  · rename_i long
    rcases grid.sharedSelectors stretch with _ | ⟨column, _ | ⟨other, rest⟩⟩
    · rw [kept]
      rfl
    · rw [← Finding.span?_ofRows, Finding.ofRows, if_pos (by omega)]
    · exact Finding.span?_ofCut stretch (List.forall_mem_nil _)

end Findings

section Places

variable {rules : List Rule} {before part after : List Row}

theorem at_of_split {row : Row} (split : (ofRules rules).rows = before ++ row :: after) :
    (ofRules rules).rows[before.length]? = some row ∧ row.index = before.length ∧
      rules[before.length]? = some row.rule := by
  have found : (ofRules rules).rows[before.length]? = some row := by
    simp [split]
  exact ⟨found, getElem?_rows found⟩

theorem firstIndex_of_split (split : (ofRules rules).rows = before ++ part ++ after)
    (ne_nil : part ≠ []) : Row.firstIndex part = before.length := by
  rcases List.exists_cons_of_ne_nil ne_nil with ⟨first, rest, rfl⟩
  rw [List.append_assoc, List.cons_append] at split
  simp [Row.firstIndex, (at_of_split split).2.1]

theorem lastIndex_of_split (split : (ofRules rules).rows = before ++ part ++ after)
    (ne_nil : part ≠ []) : Row.lastIndex part + 1 = before.length + part.length := by
  rcases List.eq_nil_or_concat part with rfl | ⟨front, last, rfl⟩
  · exact absurd rfl ne_nil
  · rw [List.concat_eq_append, ← List.append_assoc, List.append_assoc (before ++ front),
      List.singleton_append] at split
    simp [Row.lastIndex, (at_of_split split).2.1]
    omega

theorem ofBounds_eq_ok (selectors : List Nat)
    (split : (ofRules rules).rows = before ++ part ++ after) :
    Finding.ofBounds selectors before.length (before.length + part.length) =
      .ok (Finding.ofRows selectors part) := by
  rw [Finding.ofBounds, Checked.sub_eq_ok (by omega), Checked.ok_bind, Nat.add_sub_cancel_left,
    Finding.ofRows]
  by_cases long : 2 ≤ part.length
  · rw [if_pos long, if_pos long, Run.span, firstIndex_of_split split (by rintro rfl; simp at long)]
    rfl
  · rw [if_neg long, if_neg long]
    rfl

end Places

theorem selectors_eq_ok {grid : Grid} {rule : Nat} {row : Row}
    (found : grid.rows[rule]? = some row) :
    grid.cells.selectors grid.columns rule = .ok (grid.selectors row) := by
  rw [Cells.selectors, selectors, ← List.filterMap_eq_filter]
  apply filterMapM_eq_ok_filterMap
  intro column inRange
  rw [List.mem_range] at inRange
  have isColumn := List.getElem?_eq_getElem inRange
  have isSelector : grid.isSelector column = (grid.columns[column]).any Shape.isSelector := by
    rw [Grid.isSelector, isColumn]
    cases grid.columns[column] <;> rfl
  rw [place?_eq_ok found inRange, Checked.ok_bind, Checked.get_eq_ok isColumn, Checked.ok_bind,
    ← isSelector]
  by_cases placed : (row.cell? column).isSome = true
  · simp [Option.guard, placed, pure, Except.pure]
  · simp [Option.guard, placed, pure, Except.pure]

section Scan

variable {rules : List Rule} {before after : List Row}

/-- Cutting meets no fault among rules that have a match in each of the columns. -/
theorem cutAtSets_eq_ok {selectors : List Nat} {pending ahead : List Row}
    (split : (ofRules rules).rows = before ++ pending ++ (ahead ++ after))
    (plain : ∀ row ∈ ahead, row.rule.Plain)
    (shared : ∀ row ∈ ahead, (ofRules rules).selectors row = selectors) :
    (ofRules rules).cells.cutAtSets rules selectors before.length (before.length + pending.length)
      ahead.length = .ok (Finding.ofCut selectors pending ahead) := by
  induction ahead generalizing before pending with
  | nil => exact ofBounds_eq_ok selectors split
  | cons row rest ih =>
      rw [List.forall_mem_cons] at plain shared
      have atRow := @at_of_split rules (before ++ pending) (rest ++ after) row split
      rw [List.length_append] at atRow
      rcases atRow with ⟨found, index, isRule⟩
      have tests : (selectors.anyM fun column => do
          return (← (ofRules rules).cells.test rules (before.length + pending.length)
            column).right.isSet) = .ok (row.testsSet selectors) := by
        apply anyM_eq_ok_any
        intro column member
        rw [← shared.1] at member
        rcases Row.exists_match?_of_mem_selectors (sound_ofRules rules)
          (List.mem_of_getElem? found) plain.1 member with ⟨field, test, -, isTest, -⟩
        rw [test_eq_ok (sound_ofRules rules) found
          (List.mem_range.mp (List.mem_filter.mp member).1) isRule isTest, isTest]
        rfl
      rw [List.length_cons, Cells.cutAtSets, tests, Checked.ok_bind, Finding.ofCut]
      by_cases testsSet : row.testsSet selectors = true
      · have later := @ih (before ++ pending ++ [row]) [] (by simp [split]) plain.2 shared.2
        simp only [List.length_append, List.length_singleton, List.length_nil,
          Nat.add_zero] at later
        rw [if_pos testsSet, if_pos testsSet, ofBounds_eq_ok selectors split, Checked.ok_bind,
          later, index]
        rfl
      · have later := @ih before (pending ++ [row]) (by simp [split]) plain.2 shared.2
        rw [List.length_append, List.length_singleton, ← Nat.add_assoc] at later
        rw [if_neg testsSet, if_neg testsSet, later]

theorem scanStretch_eq_ok {stretch : List Row}
    (split : (ofRules rules).rows = before ++ stretch ++ after)
    (isStretch : (ofRules rules).Stretch stretch) :
    (ofRules rules).cells.scanStretch rules (ofRules rules).columns before.length
      (before.length + stretch.length) = .ok ((ofRules rules).findingsOn stretch) := by
  rcases List.exists_cons_of_ne_nil isStretch.ne_nil with ⟨first, rest, isCons⟩
  have found : (ofRules rules).rows[before.length]? = some first := by
    simp [split, isCons]
  have firstSelectors : (ofRules rules).sharedSelectors stretch =
      (ofRules rules).selectors first := by
    rw [isCons, sharedSelectors]
  have firstIndex := firstIndex_of_split split isStretch.ne_nil
  have lastIndex := lastIndex_of_split split isStretch.ne_nil
  rw [Cells.scanStretch, Checked.sub_eq_ok (by omega), Checked.ok_bind, Nat.add_sub_cancel_left,
    findingsOn]
  split
  · rfl
  · rename_i long
    rw [selectors_eq_ok found, Checked.ok_bind, ← firstSelectors]
    have shared : ∀ row ∈ stretch,
        (ofRules rules).selectors row = (ofRules rules).sharedSelectors stretch :=
      fun row member => (sharedSelectors_eq (sound_ofRules rules) isStretch (by omega) member).symm
    rcases selecting : (ofRules rules).sharedSelectors stretch with
      _ | ⟨column, _ | ⟨other, others⟩⟩
    · simp only [← lastIndex, firstIndex]
      rfl
    · simp only [Run.span, firstIndex]
      rfl
    · rw [selecting] at shared
      exact @cutAtSets_eq_ok rules before after _ [] stretch (by simpa using split)
        (fun row member => (isStretch.alike (by omega) row member row member).left) shared

theorem alike_last_eq {first last next : Row} {part : List Row}
    (subset : ∀ row ∈ part, row ∈ (ofRules rules).rows) (nextInGrid : next ∈ (ofRules rules).rows)
    (chain : part.IsChain fun first second => first.alike second)
    (isFirst : part.head? = some first) (isLast : part.getLast? = some last) :
    last.alike next = first.alike next := by
  have sound := sound_ofRules rules
  have firstMember := List.mem_of_mem_head? isFirst
  have lastMember := List.mem_of_getLast? isLast
  by_cases two_le : 2 ≤ part.length
  · have alike := (stretch_of_isChain sound (List.ne_nil_of_mem firstMember) subset
      chain).alike two_le first firstMember last lastMember
    rw [Bool.eq_iff_iff,
      Row.alike_iff sound.distinct (sound.holds last (subset last lastMember))
        (sound.holds next nextInGrid),
      Row.alike_iff sound.distinct (sound.holds first (subset first firstMember))
        (sound.holds next nextInGrid)]
    exact ⟨alike.trans, alike.symm.trans⟩
  · have pos := List.length_pos_of_mem firstMember
    rcases List.length_eq_one_iff.mp (show part.length = 1 by omega) with ⟨row, rfl⟩
    cases isFirst
    cases isLast
    rfl

/-- From the first rule of a stretch on, a scan comes upon what is in the stretches of the grid. -/
theorem scanFrom_eq_ok {part ahead : List Row}
    (split : (ofRules rules).rows = before ++ part ++ ahead) (ne_nil : part ≠ [])
    (chain : part.IsChain fun first second => first.alike second) :
    (ofRules rules).cells.scanFrom rules (ofRules rules).columns before.length
        (before.length + part.length) ahead.length =
      .ok (((part ++ ahead).splitBy Row.alike).flatMap (ofRules rules).findingsOn) := by
  -- What has been passed since the last stretch is a stretch itself, as far as it goes.
  induction ahead generalizing before part with
  | nil =>
      have stretch := stretch_of_isChain (sound_ofRules rules) ne_nil (by simp +contextual [split])
        chain
      rw [List.append_nil, List.splitBy_of_isChain ne_nil chain, List.flatMap_singleton]
      exact scanStretch_eq_ok split stretch
  | cons row rest ih =>
      rcases List.exists_cons_of_ne_nil ne_nil with ⟨first, others, isCons⟩
      have stretch := stretch_of_isChain (sound_ofRules rules) ne_nil (by simp +contextual [split])
        chain
      have atFirst := @at_of_split rules before (others ++ row :: rest) first
        (by simp [split, isCons])
      have atRow := @at_of_split rules (before ++ part) rest row split
      rw [List.length_append] at atRow
      have nextInGrid := List.mem_of_getElem? atRow.1
      have lastAlike : ∀ last ∈ part.getLast?, last.alike row = first.alike row := by
        intro last isLast
        exact alike_last_eq stretch.mem_grid nextInGrid chain (by rw [isCons]; rfl) isLast
      rw [List.length_cons, Cells.scanFrom, alike_eq_ok (sound_ofRules rules) atFirst.1 atRow.1
        atFirst.2.2 atRow.2.2, Checked.ok_bind]
      cases alike : first.alike row with
      | true =>
          have later := @ih before (part ++ [row]) (by simp [split])
            (by simp) (by
              rw [List.isChain_append]
              refine ⟨chain, .singleton _, fun last isLast head isHead => ?_⟩
              cases isHead
              rw [lastAlike last isLast, alike])
          rw [List.length_append, List.length_singleton, ← Nat.add_assoc, List.append_assoc,
            List.singleton_append] at later
          rw [if_pos rfl, later]
      | false =>
          have later := @ih (before ++ part) [row] (by simp [split])
            (by simp) (.singleton _)
          rw [List.length_append, List.length_singleton, List.singleton_append] at later
          rw [if_neg Bool.false_ne_true, scanStretch_eq_ok split stretch, Checked.ok_bind, later,
            List.splitBy_append_cons _ fun last isLast => (lastAlike last isLast).trans alike,
            List.splitBy_of_isChain ne_nil chain, List.flatMap_append, List.flatMap_singleton]
          rfl

/-- A scan meets no fault, and comes upon what is in the stretches of the grid. -/
theorem scan_eq_ok (rules : List Rule) :
    (ofRules rules).cells.scan rules (ofRules rules).columns = .ok (ofRules rules).findings := by
  have length := congrArg List.length (map_rule_rows_ofRules rules)
  rw [List.length_map] at length
  rw [Cells.scan, findings, stretches]
  cases rows : (ofRules rules).rows with
  | nil =>
      rw [rows] at length
      rw [← length]
      rfl
  | cons first rest =>
      rw [rows] at length
      rw [← length, List.length_cons]
      exact @scanFrom_eq_ok rules [] [first] rest (by simp [rows]) (by simp) (.singleton _)

end Scan

end Grid

end Rulefold
