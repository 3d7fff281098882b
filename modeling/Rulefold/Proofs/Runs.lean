import Mathlib.Data.List.Chain
import Mathlib.Data.List.SplitBy
import Rulefold.Proofs.Tests

/-!
# The runs of a grid

Two rules that follow one another belong in one run exactly when they are alike, test something,
and do not test a set among several selectors. `Run.Proper` collects what holds of every run;
`Grid.isChain_segments` says that no two neighbours that belong together are ever separated.
-/

namespace Rulefold

section SplitBy

variable {α β : Type} {related : α → α → Bool} {list part : List α}

theorem mem_getLast?_flatMap {each : β → List α} {items : List β} {item : β} {last : α}
    (isLast : item ∈ items.getLast?) (inItem : last ∈ (each item).getLast?) :
    last ∈ (items.flatMap each).getLast? := by
  rcases List.getLast?_eq_some_iff.mp isLast with ⟨before, rfl⟩
  rw [Option.mem_def] at inItem ⊢
  simp [List.getLast?_append, inItem]

theorem mem_head?_flatMap {each : β → List α} {items : List β} {item : β} {head : α}
    (isHead : item ∈ items.head?) (inItem : head ∈ (each item).head?) :
    head ∈ (items.flatMap each).head? := by
  rcases List.head?_eq_some_iff.mp isHead with ⟨after, rfl⟩
  rw [Option.mem_def] at inItem ⊢
  simp [List.head?_append, inItem]

theorem mem_of_mem_splitBy (member : part ∈ list.splitBy related) {item : α}
    (inPart : item ∈ part) : item ∈ list := by
  rw [← List.flatten_splitBy related list]
  exact List.mem_flatten_of_mem member inPart

/-- Where a list is split the two neighbours are not related. -/
theorem isChain_splitBy (related : α → α → Bool) (list : List α) :
    (list.splitBy related).IsChain fun first second =>
      ∀ last ∈ first.getLast?, ∀ head ∈ second.head?,
        last ∈ list ∧ head ∈ list ∧ related last head = false := by
  apply (List.isChain_getLast_head_splitBy related list).imp_of_mem_imp
  intro first second firstMember secondMember apart
  rcases apart with ⟨firstNotNil, secondNotNil, apart⟩
  intro last isLast head isHead
  rw [List.getLast?_eq_some_getLast firstNotNil, Option.mem_some_iff] at isLast
  rw [List.head?_eq_some_head secondNotNil, Option.mem_some_iff] at isHead
  subst isLast isHead
  exact ⟨mem_of_mem_splitBy firstMember (List.getLast_mem firstNotNil),
    mem_of_mem_splitBy secondMember (List.head_mem secondNotNil), apart⟩

end SplitBy

namespace Rule

/-- Two rules that belong in one run when they follow one another. -/
structure Joins (first second : Rule) : Prop where
  alike : first.Alike second
  tests_ne_nil : first.tests ≠ []
  one_or_free : first.tests.length = 1 ∨
    ∀ test ∈ first.tests ++ second.tests, test.right.isSet = false

theorem alike_of_isChain {rules : List Rule} (chain : rules.IsChain Alike)
    (two_le : 2 ≤ rules.length) {first second : Rule} (firstMember : first ∈ rules)
    (secondMember : second ∈ rules) : first.Alike second := by
  match rules, two_le with
  | head :: next :: rest, _ =>
      have headAlike := (List.pairwise_cons.mp (List.isChain_iff_pairwise.mp chain)).1
      have alikeHead : ∀ rule ∈ head :: next :: rest, head.Alike rule := by
        intro rule member
        rcases List.mem_cons.mp member with rfl | member
        · exact Alike.refl (headAlike next (by simp)).left
        · exact headAlike rule member
      exact (alikeHead first firstMember).symm.trans (alikeHead second secondMember)

end Rule

/-- What holds of every run of a grid. -/
structure Run.Proper (grid : Grid) (run : Run) : Prop where
  two_le : 2 ≤ run.rows.length
  mem_grid : ∀ row ∈ run.rows, row ∈ grid.rows
  alike : ∀ first ∈ run.rows, ∀ second ∈ run.rows, first.rule.Alike second.rule
  selectors_eq : ∀ row ∈ run.rows, grid.selectors row = run.selectors
  selectors_ne_nil : run.selectors ≠ []
  free : run.selectors.length ≠ 1 → ∀ row ∈ run.rows, row.testsSet run.selectors = false

namespace Grid

variable {grid : Grid}

theorem mem_selectors_iff_of_plain (sound : grid.Sound) {row : Row} (inGrid : row ∈ grid.rows)
    (plain : row.rule.Plain) {column : Nat} :
    column ∈ grid.selectors row ↔
      ∃ field, grid.field? column = some field ∧ some (.selector field) ∈ row.rule.shapes := by
  have holds := sound.holds row inGrid
  constructor
  · intro member
    rcases Row.exists_match?_of_mem_selectors sound inGrid plain member with
      ⟨field, test, isField, found, tests⟩
    have inTests := ((Row.match?_eq_some_iff sound inGrid plain).mp found).1
    exact ⟨field, isField,
      List.mem_map.mpr ⟨.matching test, Rule.mem_tests_iff.mp inTests, tests.shape?⟩⟩
  · rintro ⟨field, isField, inShapes⟩
    rcases List.mem_map.mp inShapes with ⟨statement, inRule, shaped⟩
    have placed := (Row.statement?_eq_some_iff_of_plain sound.distinct holds plain).mpr
      ⟨inRule, shaped ▸ field?_eq_some_iff.mp isField⟩
    exact mem_selectors_iff.mpr
      ⟨(Row.getElem?_of_mem_zip holds (Row.mem_zip_of_statement? placed)).2.1, field, isField⟩

theorem selectors_eq_of_alike (sound : grid.Sound) {first second : Row}
    (firstInGrid : first ∈ grid.rows) (secondInGrid : second ∈ grid.rows)
    (alike : first.rule.Alike second.rule) : grid.selectors first = grid.selectors second := by
  have same : ∀ column, column ∈ grid.selectors first ↔ column ∈ grid.selectors second := by
    intro column
    rw [mem_selectors_iff_of_plain sound firstInGrid alike.left,
      mem_selectors_iff_of_plain sound secondInGrid alike.right]
    simp only [alike.mem_shapes_iff]
  apply List.filter_congr
  intro column inRange
  have sameHere := same column
  simp only [selectors, List.mem_filter, inRange, true_and] at sameHere
  exact Bool.eq_iff_iff.mpr sameHere

/-- What holds of every stretch of a grid. -/
structure Stretch (grid : Grid) (rows : List Row) : Prop where
  ne_nil : rows ≠ []
  mem_grid : ∀ row ∈ rows, row ∈ grid.rows
  alike : 2 ≤ rows.length → ∀ first ∈ rows, ∀ second ∈ rows, first.rule.Alike second.rule

theorem stretch_of_isChain (sound : grid.Sound) {rows : List Row} (ne_nil : rows ≠ [])
    (mem_grid : ∀ row ∈ rows, row ∈ grid.rows)
    (chain : rows.IsChain fun first second => first.alike second) : grid.Stretch rows where
  ne_nil := ne_nil
  mem_grid := mem_grid
  alike := by
    intro two_le first firstMember second secondMember
    have rulesChain : (rows.map Row.rule).IsChain Rule.Alike := by
      rw [List.isChain_map]
      apply chain.imp_of_mem_imp
      intro a b aMember bMember alike
      exact (Row.alike_iff sound.distinct (sound.holds a (mem_grid a aMember))
        (sound.holds b (mem_grid b bMember))).mp alike
    exact Rule.alike_of_isChain rulesChain (by simpa using two_le)
      (List.mem_map_of_mem firstMember) (List.mem_map_of_mem secondMember)

theorem stretch_of_mem_stretches (sound : grid.Sound) {rows : List Row}
    (member : rows ∈ grid.stretches) : grid.Stretch rows :=
  stretch_of_isChain sound (List.ne_nil_of_mem_splitBy member)
    (fun _ inRows => mem_of_mem_splitBy member inRows) (List.isChain_of_mem_splitBy member)

theorem sharedSelectors_eq (sound : grid.Sound) {rows : List Row} (stretch : grid.Stretch rows)
    (two_le : 2 ≤ rows.length) {row : Row} (member : row ∈ rows) :
    grid.sharedSelectors rows = grid.selectors row := by
  match rows, two_le with
  | head :: next :: rest, two_le =>
      exact selectors_eq_of_alike sound (stretch.mem_grid head (by simp))
        (stretch.mem_grid row member) (stretch.alike two_le head (by simp) row member)

end Grid

theorem Segment.mem_ofRows_merged {selectors : List Nat} {rows : List Row} {run : Run}
    (member : .merged run ∈ Segment.ofRows selectors rows) :
    2 ≤ rows.length ∧ run = { rows, selectors } := by
  unfold ofRows at member
  split at member
  · simp at member
  · rename_i long
    rw [List.mem_singleton, Segment.merged.injEq] at member
    exact ⟨by omega, member⟩

namespace Grid

variable {grid : Grid}

theorem Stretch.proper_of_mem_ofRows (sound : grid.Sound) {stretch rows : List Row}
    (isStretch : grid.Stretch stretch) (subset : rows ⊆ stretch) (two_le : 2 ≤ stretch.length)
    (selecting : grid.sharedSelectors stretch ≠ [])
    (free : (grid.sharedSelectors stretch).length ≠ 1 → 2 ≤ rows.length →
      ∀ row ∈ rows, row.testsSet (grid.sharedSelectors stretch) = false)
    {run : Run} (member : .merged run ∈ Segment.ofRows (grid.sharedSelectors stretch) rows) :
    run.Proper grid := by
  rcases Segment.mem_ofRows_merged member with ⟨rows_two_le, rfl⟩
  exact {
    two_le := rows_two_le
    mem_grid := fun row inRows => isStretch.mem_grid row (subset inRows)
    alike := fun first firstMember second secondMember =>
      isStretch.alike two_le first (subset firstMember) second (subset secondMember)
    selectors_eq := fun row inRows =>
      (sharedSelectors_eq sound isStretch two_le (subset inRows)).symm
    selectors_ne_nil := selecting
    free := fun several => free several rows_two_le }

theorem testsSet_eq_false_of_isChain {columns : List Nat} : ∀ {rows : List Row},
    (rows.IsChain fun first second => !first.testsSet columns && !second.testsSet columns) →
    2 ≤ rows.length → ∀ row ∈ rows, row.testsSet columns = false
  | [first, second], chain, _ => by
      simp at chain
      simp [chain]
  | first :: second :: third :: rest, chain, _ => by
      rw [List.isChain_cons_cons] at chain
      rw [List.forall_mem_cons]
      exact ⟨by simpa using (Bool.and_eq_true_iff.mp chain.1).1,
        testsSet_eq_false_of_isChain chain.2 (by simp)⟩

theorem Stretch.proper_of_mem_segmentsOf (sound : grid.Sound) {stretch : List Row}
    (isStretch : grid.Stretch stretch) {run : Run}
    (member : .merged run ∈ grid.segmentsOf stretch) : run.Proper grid := by
  unfold segmentsOf at member
  split at member
  · simp at member
  · rename_i long
    have two_le : 2 ≤ stretch.length := by omega
    split at member
    · simp at member
    · rename_i column one
      rw [← one] at member
      refine isStretch.proper_of_mem_ofRows sound (List.Subset.refl _) two_le (by simp [one]) ?_
        member
      simp [one]
    · rename_i noneEmpty noneSingle
      rcases List.mem_flatMap.mp member with ⟨rows, inSplit, member⟩
      refine isStretch.proper_of_mem_ofRows sound
        (fun _ inRows => mem_of_mem_splitBy inSplit inRows) two_le noneEmpty ?_ member
      intro _ rows_two_le
      exact testsSet_eq_false_of_isChain (List.isChain_of_mem_splitBy inSplit) rows_two_le

theorem mem_runs_iff {run : Run} : run ∈ grid.runs ↔ .merged run ∈ grid.segments := by
  simp only [runs, List.mem_filterMap]
  constructor
  · rintro ⟨segment, member, isRun⟩
    cases segment with
    | kept row => simp [Segment.run?] at isRun
    | merged other =>
        rw [Segment.run?, Option.some_inj] at isRun
        exact isRun ▸ member
  · intro member
    exact ⟨.merged run, member, rfl⟩

/-- Every run of a sound grid is proper. -/
theorem proper_of_mem_segments (sound : grid.Sound) {run : Run}
    (member : .merged run ∈ grid.segments) : run.Proper grid := by
  rcases List.mem_flatMap.mp member with ⟨stretch, inStretches, member⟩
  exact (stretch_of_mem_stretches sound inStretches).proper_of_mem_segmentsOf sound member

theorem proper_of_mem_runs (sound : grid.Sound) {run : Run} (isRun : run ∈ grid.runs) :
    run.Proper grid :=
  proper_of_mem_segments sound (mem_runs_iff.mp isRun)

theorem flatMap_rows_segmentsOf (stretch : List Row) :
    (grid.segmentsOf stretch).flatMap Segment.rows = stretch := by
  have kept : ∀ rows : List Row, (rows.map Segment.kept).flatMap Segment.rows = rows := by
    intro rows
    simp [List.flatMap_map, Segment.rows]
  unfold segmentsOf
  split
  · exact kept stretch
  · split
    · exact kept stretch
    · exact Segment.flatMap_rows_ofRows _ _
    · simp [List.flatMap_assoc, Segment.flatMap_rows_ofRows]

/-- The segments of a grid hold its rows, in order. -/
theorem flatMap_rows_segments : grid.segments.flatMap Segment.rows = grid.rows := by
  simp [segments, List.flatMap_assoc, flatMap_rows_segmentsOf, stretches]

theorem mem_rows_of_mem_segments {segment : Segment} (inGrid : segment ∈ grid.segments) {row : Row}
    (member : row ∈ segment.rows) : row ∈ grid.rows := by
  rw [← flatMap_rows_segments]
  exact List.mem_flatMap.mpr ⟨segment, inGrid, member⟩

theorem length_tests (sound : grid.Sound) {row : Row} (inGrid : row ∈ grid.rows)
    (plain : row.rule.Plain) : row.rule.tests.length = (grid.selectors row).length := by
  rw [← (Row.perm_testList_selectors sound inGrid plain).length_eq,
    Row.length_testList sound inGrid plain fun _ member => member]

theorem testsSet_selectors (sound : grid.Sound) {row : Row} (inGrid : row ∈ grid.rows)
    (plain : row.rule.Plain) :
    row.testsSet (grid.selectors row) = false ↔
      ∀ test ∈ row.rule.tests, test.right.isSet = false := by
  rw [Row.testsSet_eq_any, List.any_eq_false]
  simp [(Row.perm_testList_selectors sound inGrid plain).mem_iff]

end Grid

namespace Run.Proper

variable {grid : Grid} {run : Run}

theorem exists_first (proper : run.Proper grid) : ∃ first rest, run.rows = first :: rest := by
  apply List.exists_cons_of_length_pos
  have two_le := proper.two_le
  omega

theorem exists_mem (proper : run.Proper grid) : ∃ row, row ∈ run.rows := by
  rcases proper.exists_first with ⟨first, rest, rows⟩
  exact ⟨first, by simp [rows]⟩

theorem selectors_subset (proper : run.Proper grid) {row : Row} (member : row ∈ run.rows) :
    ∀ column ∈ run.selectors, column ∈ grid.selectors row := by
  intro column inSelectors
  rw [proper.selectors_eq row member]
  exact inSelectors

theorem plain (proper : run.Proper grid) {row : Row} (member : row ∈ run.rows) : row.rule.Plain :=
  (proper.alike row member row member).left

theorem length_tests (proper : run.Proper grid) (sound : grid.Sound) {row : Row}
    (member : row ∈ run.rows) : row.rule.tests.length = run.selectors.length := by
  rw [Grid.length_tests sound (proper.mem_grid row member) (proper.plain member),
    proper.selectors_eq row member]

theorem joins (proper : run.Proper grid) (sound : grid.Sound) {first second : Row}
    (firstMember : first ∈ run.rows) (secondMember : second ∈ run.rows) :
    first.rule.Joins second.rule where
  alike := proper.alike first firstMember second secondMember
  tests_ne_nil := by
    intro empty
    have length := proper.length_tests sound firstMember
    rw [empty, List.length_nil] at length
    exact proper.selectors_ne_nil (List.length_eq_zero_iff.mp length.symm)
  one_or_free := by
    rw [proper.length_tests sound firstMember, or_iff_not_imp_left]
    intro several test member
    have free : ∀ row ∈ run.rows, ∀ test ∈ row.rule.tests, test.right.isSet = false := by
      intro row inRun
      rw [← Grid.testsSet_selectors sound (proper.mem_grid row inRun) (proper.plain inRun),
        proper.selectors_eq row inRun]
      exact proper.free several row inRun
    rcases List.mem_append.mp member with member | member
    · exact free first firstMember test member
    · exact free second secondMember test member

end Run.Proper

namespace Segment

/-- The last row of one segment and the first row of another are related. -/
def Meets (related : Row → Row → Prop) (first second : Segment) : Prop :=
  ∀ last ∈ first.rows.getLast?, ∀ head ∈ second.rows.head?, related last head

/-- Segments cut from lists of rows meet as the rows do, inside the lists and between them. -/
theorem isChain_flatMap {related : Row → Row → Prop} {lists : List (List Row)}
    {cut : List Row → List Segment} (noneEmpty : [] ∉ lists)
    (keeps : ∀ rows ∈ lists, (cut rows).flatMap Segment.rows = rows)
    (inside : ∀ rows ∈ lists, (cut rows).IsChain (Meets related))
    (between : lists.IsChain fun first second =>
      ∀ last ∈ first.getLast?, ∀ head ∈ second.head?, related last head) :
    (lists.flatMap cut).IsChain (Meets related) := by
  rw [List.flatMap_def, List.isChain_flatten]
  · refine ⟨by simpa using inside, ?_⟩
    rw [List.isChain_map]
    apply between.imp_of_mem_imp
    intro first second firstMember secondMember meet segment isLast other isHead
      last inSegment head inOther
    have lastOfFirst := mem_getLast?_flatMap isLast inSegment
    have headOfSecond := mem_head?_flatMap isHead inOther
    rw [keeps first firstMember] at lastOfFirst
    rw [keeps second secondMember] at headOfSecond
    exact meet last lastOfFirst head headOfSecond
  · intro member
    rcases List.mem_map.mp member with ⟨rows, inLists, empty⟩
    have kept := keeps rows inLists
    rw [empty, List.flatMap_nil] at kept
    exact noneEmpty (kept ▸ inLists)

theorem isChain_ofRows {related : Row → Row → Prop} (selectors : List Nat) (rows : List Row) :
    (ofRows selectors rows).IsChain (Meets related) := by
  unfold ofRows
  split
  · match rows with
    | [] => exact .nil
    | [row] => exact .singleton _
  · exact .singleton _

end Segment

namespace Grid

variable {grid : Grid}

theorem Stretch.isChain_segmentsOf (sound : grid.Sound) {stretch : List Row}
    (isStretch : grid.Stretch stretch) :
    (grid.segmentsOf stretch).IsChain (Segment.Meets fun first second =>
      ¬first.rule.Joins second.rule) := by
  unfold segmentsOf
  split
  · match stretch with
    | [] => exact .nil
    | [row] => exact .singleton _
  · rename_i long
    have two_le : 2 ≤ stretch.length := by omega
    have plain : ∀ row ∈ stretch, row.rule.Plain := fun row member =>
      (isStretch.alike two_le row member row member).left
    have selectors : ∀ row ∈ stretch, grid.sharedSelectors stretch = grid.selectors row :=
      fun row member => sharedSelectors_eq sound isStretch two_le member
    split
    · rename_i empty
      rw [List.isChain_map]
      refine List.Pairwise.isChain (List.pairwise_of_forall_mem_list ?_)
      intro first firstMember second _ last isLast head isHead joins
      simp only [Segment.rows, List.getLast?_singleton, List.head?_cons, Option.mem_def,
        Option.some_inj] at isLast isHead
      subst isLast
      have length := length_tests sound (isStretch.mem_grid first firstMember)
        (plain first firstMember)
      rw [← selectors first firstMember, empty] at length
      exact joins.tests_ne_nil (List.length_eq_zero_iff.mp length)
    · exact Segment.isChain_ofRows _ _
    · rename_i noneEmpty noneSingle
      refine Segment.isChain_flatMap (List.nil_notMem_splitBy _ _)
        (fun _ _ => Segment.flatMap_rows_ofRows _ _)
        (fun _ _ => Segment.isChain_ofRows _ _) ?_
      apply (isChain_splitBy _ stretch).imp
      intro first second meet last isLast head isHead joins
      rcases meet last isLast head isHead with ⟨lastMember, headMember, apart⟩
      have length := length_tests sound (isStretch.mem_grid last lastMember) (plain last lastMember)
      have one_or_free := joins.one_or_free
      rw [length, ← selectors last lastMember] at one_or_free
      rcases one_or_free with one | free
      · rcases List.length_eq_one_iff.mp one with ⟨column, single⟩
        exact noneSingle column single
      · simp only [List.mem_append, or_imp, forall_and] at free
        have lastFree := (testsSet_selectors sound (isStretch.mem_grid last lastMember)
          (plain last lastMember)).mpr free.1
        have headFree := (testsSet_selectors sound (isStretch.mem_grid head headMember)
          (plain head headMember)).mpr free.2
        rw [← selectors last lastMember] at lastFree
        rw [← selectors head headMember] at headFree
        rw [lastFree, headFree] at apart
        cases apart

/-- Rules that belong together are never separated. -/
theorem isChain_segments (sound : grid.Sound) :
    grid.segments.IsChain (Segment.Meets fun first second => ¬first.rule.Joins second.rule) := by
  refine Segment.isChain_flatMap (List.nil_notMem_splitBy _ _)
    (fun _ _ => flatMap_rows_segmentsOf _)
    (fun _ member => (stretch_of_mem_stretches sound member).isChain_segmentsOf sound) ?_
  apply (isChain_splitBy _ grid.rows).imp
  intro first second meet last isLast head isHead joins
  rcases meet last isLast head isHead with ⟨lastMember, headMember, apart⟩
  have alike := (Row.alike_iff sound.distinct (sound.holds last lastMember)
    (sound.holds head headMember)).mpr joins.alike
  rw [alike] at apart
  cases apart

end Grid

/-- The places of the rules of a run. -/
def Run.places (run : Run) : List Nat := run.rows.map Row.index

namespace Grid

variable {grid : Grid} {rules : List Rule}

theorem infix_of_mem_runs {run : Run} (isRun : run ∈ grid.runs) : run.rows <:+: grid.rows := by
  rcases List.append_of_mem (mem_runs_iff.mp isRun) with ⟨before, after, segments⟩
  refine ⟨before.flatMap Segment.rows, after.flatMap Segment.rows, ?_⟩
  rw [← flatMap_rows_segments, segments]
  simp [Segment.rows]

/-- The rules of a run follow one another in the chain. -/
theorem exists_stretch {run : Run} (isRun : run ∈ (ofRules rules).runs) :
    ∃ start, start + run.rows.length ≤ rules.length ∧
      run.places = List.range' start run.rows.length ∧
      run.rows.map Row.rule = (rules.drop start).take run.rows.length := by
  rcases infix_of_mem_runs isRun with ⟨before, after, rows⟩
  have stands := map_rule_rows_ofRules rules
  have indices := map_index_rows_ofRules rules
  rw [← rows] at stands indices
  have length := congrArg List.length stands
  simp only [List.map_append, List.length_append, List.length_map] at stands indices length
  refine ⟨before.length, by omega, ?_, by simp [← stands]⟩
  rw [List.range_eq_range', eq_comm, List.range'_eq_append_iff] at indices
  rcases indices with ⟨inside, -, indices, -⟩
  rw [eq_comm, List.range'_eq_append_iff] at indices
  rcases indices with ⟨start, -, indices, places⟩
  have starts := congrArg List.length indices
  have lengths := congrArg List.length places
  simp only [List.length_map, List.length_range'] at starts lengths
  rw [Run.places, places, starts, lengths, Nat.zero_add, Nat.mul_one]

theorem places_of_mem {run : Run} {place : Nat} (isRun : run ∈ (ofRules rules).runs)
    (member : place ∈ run.places) : ∃ row ∈ run.rows, rules[place]? = some row.rule := by
  rcases List.mem_map.mp member with ⟨row, inRun, rfl⟩
  exact ⟨row, inRun, getElem?_index ((infix_of_mem_runs isRun).subset inRun)⟩

end Grid

end Rulefold
