import Rulefold.Proofs.Delivery
import Rulefold.Proofs.Frame
import Rulefold.Proofs.Quoting

/-!
# What is reported

The report on a chain has a block for each of its runs, in order. A block quotes the rules of the
run as they were written, one to a line, and ends with the rule that stands for them in the chain
that is left.
-/

namespace Rulefold

namespace Rule

variable (files : Files)

theorem quotation_eq_ofLines (rule : Rule) :
    rule.quotation files = Text.ofLines (rule.quotedLine? files).toList := by
  unfold quotation quotedLine?
  split
  · rfl
  · cases (rule.location.recover files).1 <;> simp [Text.ofLines, String.join]

theorem join_quotation_eq_ofLines (rules : List Rule) :
    String.join (rules.map (quotation files)) =
      Text.ofLines (rules.filterMap (quotedLine? files)) := by
  induction rules with
  | nil => rfl
  | cons rule rest ih =>
      rw [List.map_cons, String.join_cons, ih, quotation_eq_ofLines, ← Text.ofLines_append,
        List.filterMap_cons]
      cases rule.quotedLine? files <;> rfl

/-- The lines of a report on rules that are folded into one are those that quote them, and what is
around these. -/
theorem foldReport_eq_ofLines {rules : List Rule} {lines : List String}
    (quotes : Quotes files rules lines) (survivor : Rule) :
    foldReport files rules survivor =
      Text.ofLines ("Merging:" :: lines ++ ["into:", "\t" ++ survivor.text]) := by
  have ending : Text.ofLines ["into:", "\t" ++ survivor.text] =
      "into:\n\t" ++ survivor.text ++ "\n" := by
    simp [Text.ofLines, ← String.append_assoc]
  rw [foldReport, join_quotation_eq_ofLines, quotes_iff.mp quotes, Text.ofLines_append, ending,
    ← List.singleton_append, Text.ofLines_append]
  simp [Text.ofLines, String.append_assoc]

end Rule

/-- The places of the rules, of a number of rules, that no run takes away. -/
def Span.remaining (spans : List Span) (count : Nat) : List Nat :=
  (List.range count).filter fun place => ∀ span ∈ spans, ¬span.Absorbs place

namespace Chain

variable {config : Config} {files : Files} {chain : Chain} {folded : Folded}

theorem FoldsTo.map_run_merges (foldsTo : chain.FoldsTo config files folded) :
    folded.merges.map Merge.run = chain.grid.runs := by
  rw [foldsTo.merges_eq, map_run_mergesOf foldsTo.survivors.length_eq, Grid.runs]

/-- What stands for a merge is the rule that is left in the place of the first of its rules. -/
theorem FoldsTo.mem_zip_remaining (foldsTo : chain.FoldsTo config files folded) {merge : Merge}
    (member : merge ∈ folded.merges) : (merge.run.span.first, merge.survivor) ∈
      (Span.remaining (chain.grid.runs.map Run.span) chain.rules.length).zip
        folded.chain.rules := by
  rw [foldsTo.merges_eq, mem_mergesOf_iff] at member
  rw [Span.remaining, grid, Grid.filter_range_eq, List.zip_map_left]
  exact List.mem_map_of_mem member

/-- The report on a merge quotes the rules at the places of its run. -/
theorem FoldsTo.report_merge (foldsTo : chain.FoldsTo config files folded) {merge : Merge}
    (member : merge ∈ folded.merges) : ∃ lines,
      Rule.Quotes files (merge.run.span.rules chain.rules) lines ∧ merge.report files =
        Text.ofLines ("Merging:" :: lines ++ ["into:", "\t" ++ merge.survivor.text]) := by
  have isRun := Grid.mem_runs_iff.mpr (foldsTo.of_mem_merges member).1
  have quotes : Rule.Quotes files (merge.run.span.rules chain.rules) _ := Rule.quotes_iff.mpr rfl
  refine ⟨_, quotes, ?_⟩
  rw [Merge.report, Merge.rules, (Grid.stretch_span isRun).2.2,
    Rule.foldReport_eq_ofLines files quotes]

section Audit

variable {σ : Type} {sink : Sink σ} {state : σ} {max : Nat}

/-- What is written is the reports on the merges, one after another. -/
theorem state_foldInto (folds : chain.fold ⟨max, true⟩ files = .ok folded) :
    (chain.foldInto sink state ⟨max, true⟩ files).state =
      (sink.writeAll state
        (Text.encode (String.join (folded.merges.map (Merge.report files))))).2 := by
  rcases (foldsTo_of_fold_eq_ok folds).journal_eq with ⟨remarks, journal⟩
  rw [foldInto, folds]
  simp only [journal]
  rw [Journal.deliver_remarks_append, Journal.deliver_report]
  rfl

/-- What is written about a chain is a block for each of its runs, in order, and there are as many
blocks as merges are counted. A block has a line to begin with, the lines that quote the rules of
the run, and two lines on the rule that is left for the run. -/
theorem foldInto_reports {count : Nat}
    (folds : (chain.foldInto sink state ⟨max, true⟩ files).merges = .ok count) :
    ∃ grid cells findings spans blocks,
      Grid.ofRulesWithin max chain.rules = some grid ∧ Cells.ofGrid grid = .ok cells ∧
      cells.scan chain.rules grid.columns = .ok findings ∧
      findings.filterMap Finding.span? = spans ∧
      spans.length = count ∧ blocks.length = count ∧
      (Span.remaining spans chain.rules.length).length =
        (chain.foldInto sink state ⟨max, true⟩ files).chain.rules.length ∧
      List.Forall₂ (fun span block => ∃ survivor lines,
          (span.first, survivor) ∈ (Span.remaining spans chain.rules.length).zip
            (chain.foldInto sink state ⟨max, true⟩ files).chain.rules ∧
          Rule.Quotes files (span.rules chain.rules) lines ∧
          block = Text.ofLines ("Merging:" :: lines ++ ["into:", "\t" ++ survivor.text]))
        spans blocks ∧
      (chain.foldInto sink state ⟨max, true⟩ files).state =
        (sink.writeAll state (Text.encode (String.join blocks))).2 ∧
      (spans = [] → (chain.foldInto sink state ⟨max, true⟩ files).state = state) ∧
      ∀ written, (chain.foldInto Buffer.sink ⟨written, none⟩ ⟨max, true⟩ files).state =
        ⟨written ++ Text.encode (String.join blocks), none⟩ := by
  cases done : chain.fold ⟨max, true⟩ files with
  | error failure =>
      rw [foldInto_of_fold_eq_error done] at folds
      cases folds
  | ok folded =>
      rcases foldInto_of_fold_eq_ok done with ⟨isFolded, isCount⟩
      have foldsTo := foldsTo_of_fold_eq_ok done
      have sameCount := Except.ok.inj (isCount.symm.trans folds)
      have spans : (Grid.ofRules chain.rules).runs.map Run.span =
          folded.merges.map fun merge => merge.run.span := by
        rw [← grid, ← foldsTo.map_run_merges, List.map_map]
        rfl
      rw [isFolded]
      refine ⟨_, _, _, _, folded.merges.map (Merge.report files), ?_,
        Grid.ofGrid_eq_ok (Grid.sound_ofRules chain.rules), Grid.scan_eq_ok chain.rules,
        Grid.span?_findings _, ?_, ?_, ?_, ?_, state_foldInto done, ?_, ?_⟩
      · rw [Grid.ofRulesWithin_eq]
        exact if_pos foldsTo.width_le
      · rw [spans, List.length_map, sameCount]
      · rw [List.length_map, sameCount]
      · rw [Span.remaining, Grid.filter_range_eq, List.length_map]
        exact foldsTo.survivors.length_eq
      · rw [spans, List.forall₂_map_left_iff, List.forall₂_map_right_iff, List.forall₂_same]
        intro merge member
        have remains := foldsTo.mem_zip_remaining member
        rw [grid, spans] at remains
        rcases foldsTo.report_merge member with ⟨lines, quotes, isBlock⟩
        exact ⟨merge.survivor, lines, remains, quotes, isBlock⟩
      · intro noRun
        rw [spans, List.map_eq_nil_iff] at noRun
        rw [state_foldInto done, noRun]
        exact congrArg Prod.snd (sink.writeAll_nil state)
      · intro written
        rw [state_foldInto done, Buffer.writeAll_unlimited]

/-- Two runs around a rule that is in none. The first is written in a text at hand, but for a rule
that was made up. The second is written in a file, but the file of its last rule is not there. -/
def quoted : Chain :=
  let lines : Source := ⟨.buffer, "lines", some "rt mtu 1\nnotrack"⟩
  let mtu (value : UInt64) : List Statement := [.number (.route .mtu) value]
  { name := "quoted"
    flags := .none
    rules := [
      ⟨⟨lines, 0, 1, 1, 8⟩, mtu 1, none⟩, ⟨.internal, mtu 2, none⟩,
      ⟨⟨lines, 9, 2, 1, 7⟩, [.notrack], none⟩,
      ⟨⟨⟨.file, "/etc/rules", none⟩, 0, 2, 3, 10⟩, mtu 3, none⟩,
      ⟨⟨⟨.file, "missing", none⟩, 0, 1, 1, 8⟩, mtu 4, none⟩] }

/-- A file with a rule on its second line. -/
def quotedFiles : Files :=
  .ofList [("/etc/rules", .file (Text.encode "chain quoted\r\n  rt mtu 3\r\n"))]

theorem foldInto_reports_of_quoted :
    (quoted.foldInto Buffer.sink (.empty none) ⟨2, true⟩ quotedFiles).merges = .ok 2 ∧
      (quoted.foldInto Buffer.sink (.empty none) ⟨2, true⟩ quotedFiles).state = ⟨Text.encode
        ("Merging:\nlines:1:1-8: rt mtu 1\ninto:\n\trt mtu { 1, 2 }\n" ++
          "Merging:\n/etc/rules:2:3-10:   rt mtu 3\ninto:\n\trt mtu { 3, 4 }\n"), none⟩ := by
  have fits : quoted.grid.width ≤ (Config.mk 2 true).maxShapes := by
    decide
  rcases exists_fold_of_width_le fits with ⟨folded, done⟩
  have two : quoted.grid.runs.length = 2 := by
    decide
  have folds :
      (quoted.foldInto Buffer.sink (.empty none) ⟨2, true⟩ quotedFiles).merges = .ok 2 := by
    rw [(foldInto_of_fold_eq_ok done).2, length_merges done, two]
  have texts : folded.chain.rules.map Rule.text =
      ["rt mtu { 1, 2 }", "notrack", "rt mtu { 3, 4 }"] :=
    of_decide_eq_true (@fold_all _ _ _ (fun folded => decide (folded.chain.rules.map Rule.text =
      ["rt mtu { 1, 2 }", "notrack", "rt mtu { 3, 4 }"])) _ (by decide +kernel) done)
  rcases foldInto_reports folds with
    ⟨grid, cells, findings, spans, blocks, laidOut, filled, scanned, isSpans, -, -, -, isBlocks,
      -, -, written⟩
  rw [Grid.eq_ofRules laidOut] at filled scanned
  cases filled.symm.trans (Grid.ofGrid_eq_ok quoted.sound_grid)
  cases scanned.symm.trans (Grid.scan_eq_ok quoted.rules)
  have twoSpans : spans = [⟨0, 2, [0]⟩, ⟨3, 2, [0]⟩] := by
    rw [← isSpans]
    decide
  have remaining : Span.remaining spans quoted.rules.length = [0, 2, 3] := by
    rw [twoSpans]
    decide
  rw [remaining, twoSpans, (foldInto_of_fold_eq_ok done).1] at isBlocks
  rcases List.map_eq_cons_iff.mp texts with ⟨first, _, rules, firstText, texts⟩
  rcases List.map_eq_cons_iff.mp texts with ⟨second, _, rfl, -, texts⟩
  rcases List.map_eq_cons_iff.mp texts with ⟨third, _, rfl, thirdText, nothing⟩
  rw [List.map_eq_nil_iff.mp nothing] at rules
  rcases isBlocks with _ | ⟨⟨survivor, lines, here, quotes, isBlock⟩,
    _ | ⟨⟨other, otherLines, there, otherQuotes, isOther⟩, _ | _⟩⟩
  have isFirst : survivor = first := by
    simpa [rules] using here
  have isThird : other = third := by
    simpa [rules] using there
  have isLines : lines = ["lines:1:1-8: rt mtu 1"] := by
    rw [← Rule.quotes_iff.mp quotes]
    decide +kernel
  have isOtherLines : otherLines = ["/etc/rules:2:3-10:   rt mtu 3"] := by
    rw [← Rule.quotes_iff.mp otherQuotes]
    decide +kernel
  refine ⟨folds, ?_⟩
  rw [Buffer.empty, written, isBlock, isOther, isLines, isOtherLines, isFirst, isThird, firstText,
    thirdText]
  decide +kernel

end Audit

end Chain

end Rulefold
