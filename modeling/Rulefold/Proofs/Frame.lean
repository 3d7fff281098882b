import Rulefold.Proofs.Gathering
import Rulefold.Proofs.Variety

/-!
# What folding leaves alone

Folding takes away the rules of a run but the first, and changes nothing but the matches of that.
The other rules stay as they are, in order. What is taken away is not lost: alike statements are
equal unless they are of a kind for which likeness leaves something out.
-/

namespace Rulefold

/-- The only statement of a shape. There may be several if the shape leaves something out: the value
of a match, what a counter has counted, or the target of a verdict. -/
def Shape.statement? : Shape → Option Statement
  | selector _ => none
  | counter => none
  | notrack => some .notrack
  | verdict code none => some (.verdict code none)
  | verdict code (some (.literal value)) => some (.verdict code (some (.literal value)))
  | verdict _ (some (.other _)) => none
  | limit bound => some (.limit bound)
  | log label settings => some (.log { label := label.map .literal, settings })
  | reject reason => some (.reject { message := none, reason })

namespace Statement

/-- Says whether a statement is a match, a counter, or a verdict whose target is not spelled out. -/
def mayDiffer : Statement → Bool
  | matching _ => true
  | counter _ => true
  | verdict _ (some (.literal _)) => false
  | verdict _ (some _) => true
  | _ => false

theorem isAction_of_mayDiffer_eq_false {statement : Statement}
    (fixed : statement.mayDiffer = false) : statement.isAction = true := by
  cases statement with
  | matching test => cases fixed
  | _ => rfl

theorem statement?_of_shape? {statement : Statement} {shape : Shape}
    (isShape : statement.shape? = some shape) :
    shape.statement? = if statement.mayDiffer then none else some statement := by
  cases statement with
  | matching test =>
      have shaped : (matching test).shape? ≠ none := by
        simp [isShape]
      rcases exists_field_of_matching shaped with ⟨field, isSelector⟩
      cases isShape.symm.trans isSelector
      rfl
  | verdict code target =>
      cases isShape
      rcases target with _ | target
      · rfl
      · cases target <;> rfl
  | log line =>
      rcases line with ⟨_ | label, settings⟩
      · cases isShape
        rfl
      · cases label <;> cases isShape
        rfl
  | reject answer =>
      rcases answer with ⟨_ | message, reason⟩ <;> cases isShape
      rfl
  | other text => cases isShape
  | _ =>
      cases isShape
      rfl

/-- Alike statements are equal unless one of them may differ from the other. -/
theorem eq_of_shape?_eq {first second : Statement} (fixed : first.mayDiffer = false)
    (shaped : first.shape? ≠ none) (same : first.shape? = second.shape?) : first = second := by
  rcases Option.ne_none_iff_exists'.mp shaped with ⟨shape, isShape⟩
  have isFirst := statement?_of_shape? isShape
  have isSecond := statement?_of_shape? (same ▸ isShape)
  rw [fixed, if_neg Bool.false_ne_true] at isFirst
  rw [isFirst, eq_comm, Option.ite_none_left_eq_some, Option.some_inj] at isSecond
  exact isSecond.2.symm

end Statement

/-- What a rule keeps of rules that are folded into it: all of the first but its matches, and of the
others all statements that cannot differ. -/
structure Rule.Keeps (survivor first : Rule) (rules : List Rule) : Prop where
  location : survivor.location = first.location
  handle : survivor.handle = first.handle
  actions : survivor.statements.filter Statement.isAction =
    first.statements.filter Statement.isAction
  mem : ∀ rule ∈ rules, ∀ statement ∈ rule.statements, statement.mayDiffer = false →
    statement ∈ survivor.statements

namespace Run.Proper

variable {grid : Grid} {run : Run} {survivor : Rule}

theorem keeps (proper : run.Proper grid) (sound : grid.Sound) (folds : run.fold = .ok survivor)
    {first : Row} {rest : List Row} (rows : run.rows = first :: rest) :
    survivor.Keeps first.rule (run.rows.map Row.rule) := by
  rcases proper.split_actions sound folds with
    ⟨head, others, before, after, rules, location, handle, statements, actions⟩
  have isFirst : first.rule = head := by
    rw [rows] at rules
    exact (List.cons.inj rules).1
  rw [isFirst]
  have kept : survivor.statements.filter Statement.isAction =
      head.statements.filter Statement.isAction := by
    have actionsOnly := congrArg (List.filter Statement.isAction) actions
    simp only [List.filter_append, List.filter_filter, Bool.and_self] at actionsOnly
    rw [statements, List.filter_append, List.filter_cons_of_neg (by simp [Statement.isAction,
      Statement.match?]), actionsOnly]
  refine ⟨location, handle, kept, ?_⟩
  intro rule member statement inRule fixed
  rcases List.mem_map.mp member with ⟨row, inRun, rfl⟩
  have alike := proper.alike row inRun first (by simp [rows])
  have inShapes := (alike.mem_shapes_iff statement.shape?).mp (List.mem_map_of_mem inRule)
  rcases List.mem_map.mp inShapes with ⟨other, inFirst, same⟩
  have isOther := Statement.eq_of_shape?_eq fixed (alike.left.shape?_ne_none inRule) same.symm
  rw [← isOther, isFirst] at inFirst
  have isKept : statement ∈ survivor.statements.filter Statement.isAction := by
    rw [kept, List.mem_filter]
    exact ⟨inFirst, Statement.isAction_of_mayDiffer_eq_false fixed⟩
  exact (List.mem_filter.mp isKept).1

end Run.Proper

namespace Span

/-- The rule at a place goes into the first of the run. -/
def Absorbs (span : Span) (place : Nat) : Prop :=
  span.first < place ∧ place < span.first + span.count

instance (span : Span) (place : Nat) : Decidable (span.Absorbs place) :=
  inferInstanceAs (Decidable (_ ∧ _))

theorem Absorbs.holds {span : Span} {place : Nat} (absorbs : span.Absorbs place) :
    span.Holds place :=
  ⟨absorbs.1.le, absorbs.2⟩

end Span

namespace Grid

variable {rules : List Rule}

/-- No rule is in two segments. -/
theorem segment_eq_of_index_eq {segment other : Segment}
    (inGrid : segment ∈ (ofRules rules).segments) (otherInGrid : other ∈ (ofRules rules).segments)
    {row otherRow : Row} (member : row ∈ segment.rows) (otherMember : otherRow ∈ other.rows)
    (same : row.index = otherRow.index) : segment = other := by
  have nodup := @List.nodup_range rules.length
  rw [← map_index_rows_ofRules, ← flatMap_rows_segments, List.map_flatMap,
    List.nodup_flatMap] at nodup
  have symmetric : Std.Symm (Function.onFun List.Disjoint fun segment : Segment =>
      segment.rows.map Row.index) := ⟨fun _ _ apart => apart.symm⟩
  by_contra differ
  have apart := nodup.2.forall inGrid otherInGrid differ
  exact apart (List.mem_map_of_mem member) (same ▸ List.mem_map_of_mem otherMember)

theorem eq_merged_of_holds {segment : Segment} (inGrid : segment ∈ (ofRules rules).segments)
    {row : Row} (member : row ∈ segment.rows) {run : Run} (isRun : run ∈ (ofRules rules).runs)
    (holds : run.span.Holds row.index) : segment = .merged run := by
  rcases List.mem_map.mp ((holds_iff isRun).mp holds) with ⟨other, inRun, same⟩
  exact segment_eq_of_index_eq inGrid (mem_runs_iff.mp isRun) member inRun same.symm

theorem not_absorbs_first {segment : Segment} (inGrid : segment ∈ (ofRules rules).segments)
    {first : Row} {rest : List Row} (rows : segment.rows = first :: rest) {run : Run}
    (isRun : run ∈ (ofRules rules).runs) : ¬run.span.Absorbs first.index := by
  intro absorbs
  cases eq_merged_of_holds inGrid (by simp [rows]) isRun absorbs.holds
  rw [← Run.first_span rows] at absorbs
  exact Nat.lt_irrefl _ absorbs.1

theorem absorbs_of_mem_rest {run : Run} (isRun : run ∈ (ofRules rules).runs) {first : Row}
    {rest : List Row} (rows : run.rows = first :: rest) {row : Row} (member : row ∈ rest) :
    run.span.Absorbs row.index := by
  have count : run.span.count = rest.length + 1 := by
    simp [Run.span, rows]
  have places := places_eq_range' isRun
  rw [Run.places, rows, List.map_cons, count, List.range'_succ, List.cons.injEq] at places
  have inRest : row.index ∈ rest.map Row.index := List.mem_map_of_mem member
  rw [places.2, List.mem_range'_1] at inRest
  exact ⟨inRest.1, by omega⟩

theorem filter_indices_eq {segment : Segment} (inGrid : segment ∈ (ofRules rules).segments) :
    ((segment.rows.map Row.index).filter fun place =>
      ∀ span ∈ (ofRules rules).runs.map Run.span, ¬span.Absorbs place) =
        [Row.firstIndex segment.rows] := by
  rcases List.exists_cons_of_ne_nil (Segment.rows_ne_nil (sound_ofRules rules) inGrid) with
    ⟨first, rest, rows⟩
  have firstStays : ∀ span ∈ (ofRules rules).runs.map Run.span, ¬span.Absorbs first.index := by
    rw [List.forall_mem_map]
    exact fun run isRun => not_absorbs_first inGrid rows isRun
  rw [rows, List.map_cons, List.filter_cons_of_pos (by rwa [decide_eq_true_iff]),
    List.filter_eq_nil_iff.mpr]
  · rfl
  · rw [List.forall_mem_map]
    intro row member stays
    rw [decide_eq_true_iff, List.forall_mem_map] at stays
    cases segment with
    | kept row =>
        cases rows
        cases member
    | merged run =>
        have isRun := mem_runs_iff.mpr inGrid
        exact stays run isRun (absorbs_of_mem_rest isRun rows member)

/-- The rules that no run absorbs are the first ones of the segments. -/
theorem filter_range_eq (rules : List Rule) : ((List.range rules.length).filter fun place =>
      ∀ span ∈ (ofRules rules).runs.map Run.span, ¬span.Absorbs place) =
    (ofRules rules).segments.map fun segment => Row.firstIndex segment.rows := by
  rw [← map_index_rows_ofRules, ← flatMap_rows_segments, List.map_flatMap, List.filter_flatMap,
    List.flatMap_congr fun segment inGrid => filter_indices_eq inGrid, ← List.map_eq_flatMap]

/-- What a segment leaves stands for its first rule. -/
theorem survivor_frame {segment : Segment} (inGrid : segment ∈ (ofRules rules).segments)
    {survivor : Rule} (leaves : segment.survivor = .ok survivor) :
    ∃ original, rules[Row.firstIndex segment.rows]? = some original ∧
      ((∀ span ∈ (ofRules rules).runs.map Run.span, ¬span.Holds (Row.firstIndex segment.rows)) →
        survivor = original) ∧
      ∀ span ∈ (ofRules rules).runs.map Run.span, span.first = Row.firstIndex segment.rows →
        survivor.Keeps original (span.rules rules) := by
  have sound := sound_ofRules rules
  rcases List.exists_cons_of_ne_nil (Segment.rows_ne_nil sound inGrid) with ⟨first, rest, rows⟩
  have member : first ∈ segment.rows := by
    simp [rows]
  have firstIndex : Row.firstIndex segment.rows = first.index := by
    simp [Row.firstIndex, rows]
  -- A run that starts at the first rule of the segment is the run of the segment.
  have isOwn : ∀ run ∈ (ofRules rules).runs, run.span.first = first.index →
      segment = .merged run := by
    intro run isRun starts
    have two_le := two_le_count sound isRun
    exact eq_merged_of_holds inGrid member isRun ⟨starts.le, by omega⟩
  rw [firstIndex]
  refine ⟨first.rule, getElem?_index (mem_rows_of_mem_segments inGrid member), ?_, ?_⟩
  · rw [List.forall_mem_map]
    intro apart
    cases segment with
    | kept row =>
        cases rows
        cases leaves
        rfl
    | merged run =>
        have isRun := mem_runs_iff.mpr inGrid
        exact absurd ((holds_iff isRun).mpr (List.mem_map_of_mem member)) (apart run isRun)
  · rw [List.forall_mem_map]
    intro run isRun starts
    cases isOwn run isRun starts
    rw [← (stretch_span isRun).2.2]
    exact (proper_of_mem_segments sound inGrid).keeps sound leaves rows

end Grid

namespace Chain

variable {σ : Type} {sink : Sink σ} {state : σ} {config : Config} {files : Files} {chain : Chain}

/-- Folding a chain leaves its name and its flags, and of each run the first rule only. The order of
the rules stays. A rule in no run is what it was; the first of a run keeps its location, its handle
and its actions, and has those statements of the others that cannot differ from its own. -/
theorem foldInto_frame {count : Nat}
    (folds : (chain.foldInto sink state config files).merges = .ok count) :
    ∃ grid cells findings spans,
      Grid.ofRulesWithin config.maxShapes chain.rules = some grid ∧
      Cells.ofGrid grid = .ok cells ∧ cells.scan chain.rules grid.columns = .ok findings ∧
      findings.filterMap Finding.span? = spans ∧ spans.length = count ∧
      (chain.foldInto sink state config files).chain.name = chain.name ∧
      (chain.foldInto sink state config files).chain.flags = chain.flags ∧
      List.Forall₂ (fun place rule => ∃ original, chain.rules[place]? = some original ∧
          ((∀ span ∈ spans, ¬span.Holds place) → rule = original) ∧
          ∀ span ∈ spans, span.first = place → rule.Keeps original (span.rules chain.rules))
        ((List.range chain.rules.length).filter fun place => ∀ span ∈ spans, ¬span.Absorbs place)
        (chain.foldInto sink state config files).chain.rules := by
  cases done : chain.fold config files with
  | error failure =>
      rw [foldInto_of_fold_eq_error done] at folds
      cases folds
  | ok folded =>
      rcases foldInto_of_fold_eq_ok done with ⟨isFolded, isCount⟩
      have foldsTo := foldsTo_of_fold_eq_ok done
      have isGrid : Grid.ofRulesWithin config.maxShapes chain.rules =
          some (Grid.ofRules chain.rules) := by
        rw [Grid.ofRulesWithin_eq]
        exact if_pos foldsTo.width_le
      have sameCount := Except.ok.inj (isCount.symm.trans folds)
      rw [isFolded]
      refine ⟨_, _, _, _, isGrid, Grid.ofGrid_eq_ok (Grid.sound_ofRules chain.rules),
        Grid.scan_eq_ok chain.rules, Grid.span?_findings _, ?_, ?_, ?_, ?_⟩
      · rw [List.length_map, ← sameCount, length_merges done, grid]
      · rw [foldsTo.chain_eq]
      · rw [foldsTo.chain_eq]
      · rw [Grid.filter_range_eq, List.forall₂_map_left_iff]
        exact foldsTo.survivors_mem.imp fun _ _ here => Grid.survivor_frame here.1 here.2

/-- A rule without a match, and two that count what they match and lead to one chain. -/
def counting : Chain := .ofStatements [
  [.notrack],
  [.counter ⟨1, 60⟩, .number (.route .mtu) 1, .verdict .jump (some (.literal (.text "on")))],
  [.verdict .jump (some (.literal (.text "on"))), .number (.route .mtu) 2, .counter ⟨0, 0⟩]]

theorem foldInto_frame_of_counting :
    (counting.foldInto Buffer.sink (.empty none) .standard (.ofList [])).merges = .ok 1 ∧
      ∃ kept survivor first, counting.rules[0]? = some kept ∧ counting.rules[1]? = some first ∧
        (counting.foldInto Buffer.sink (.empty none) .standard (.ofList [])).chain.rules =
          [kept, survivor] ∧
        survivor.Keeps first (counting.rules.drop 1) := by
  have folds :
      (counting.foldInto Buffer.sink (.empty none) .standard (.ofList [])).merges = .ok 1 := by
    have fits : counting.grid.width ≤ Config.standard.maxShapes := by
      decide
    rcases exists_fold_of_width_le fits with ⟨folded, done⟩
    have one : counting.grid.runs.length = 1 := by
      decide
    rw [(foldInto_of_fold_eq_ok done).2, length_merges done, one]
  rcases foldInto_frame folds with
    ⟨grid, cells, findings, spans, laidOut, filled, scanned, isSpans, -, -, -, frame⟩
  rw [Grid.eq_ofRules laidOut] at filled scanned
  cases filled.symm.trans (Grid.ofGrid_eq_ok counting.sound_grid)
  cases scanned.symm.trans (Grid.scan_eq_ok counting.rules)
  have oneSpan : spans = [⟨1, 2, [2]⟩] := by
    rw [← isSpans]
    decide
  have places : ((List.range counting.rules.length).filter fun place =>
      ∀ span ∈ spans, ¬span.Absorbs place) = [0, 1] := by
    rw [oneSpan]
    decide
  rw [places, oneSpan] at frame
  rcases List.forall₂_cons_left_iff.mp frame with
    ⟨kept, _, ⟨_, isKept, stays, -⟩, frame, rules⟩
  rcases List.forall₂_cons_left_iff.mp frame with
    ⟨survivor, _, ⟨first, isFirst, -, keeps⟩, nothing, survivors⟩
  cases List.forall₂_nil_left_iff.mp nothing
  have apart : ∀ span ∈ [Span.mk 1 2 [2]], ¬span.Holds 0 := by
    simp [Span.Holds]
  exact ⟨folds, kept, survivor, first, stays apart ▸ isKept, isFirst, by rw [rules, survivors],
    keeps _ (List.mem_singleton_self _) rfl⟩

end Chain

end Rulefold
