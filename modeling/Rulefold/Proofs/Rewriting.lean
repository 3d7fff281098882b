import Mathlib.Data.List.Sort
import Rulefold.Proofs.Scan
import Rulefold.Proofs.Survivor
import Rulefold.Rewrite

/-!
# Rewriting in place

Folding a run in the list of rules that it stands in meets no fault, and it leaves the list as it is
but for the first rule of the run, which becomes the survivor. All that matters of the list is that
the rules of the run are in their places.
-/

namespace Rulefold

namespace Expr

theorem distinct_append (first second : List Expr) : distinct (first ++ second) =
    distinct first ++
      (distinct second).filter fun other => first.all fun expr => other.key != expr.key := by
  induction first with
  | nil => simp [distinct]
  | cons head rest ih => simp [distinct, ih, List.filter_append, List.filter_filter]

theorem all_key_distinct (elements : List Expr) (key : Expr) :
    ((distinct elements).all fun expr => key != expr.key) =
      elements.all fun expr => key != expr.key := by
  rw [Bool.eq_iff_iff, List.all_eq_true, List.all_eq_true]
  constructor
  · intro fresh expr member
    rcases exists_mem_distinct_key member with ⟨kept, isKept, sameKey⟩
    exact sameKey ▸ fresh kept isKept
  · intro fresh expr member
    exact fresh expr ((distinct_sublist elements).subset member)

theorem adjoin_distinct (elements : List Expr) (element : Expr) :
    adjoin (distinct elements) element = distinct (elements ++ [element]) := by
  have known : ((distinct elements).any fun other => other.key == element.key) =
      !elements.all fun expr => element.key != expr.key := by
    rw [← all_key_distinct, List.not_all_eq_any_not]
    simp only [bne, Bool.not_not, BEq.comm]
  rw [adjoin, known, distinct_append, distinct, distinct, List.filter_nil, List.filter_singleton]
  cases elements.all fun expr => element.key != expr.key <;> simp

/-- Adding elements one by one keeps the first of those that have one key. -/
theorem foldl_adjoin_distinct (elements others : List Expr) :
    others.foldl adjoin (distinct elements) = distinct (elements ++ others) := by
  induction others generalizing elements with
  | nil => rw [List.foldl_nil, List.append_nil]
  | cons first rest ih =>
      rw [List.foldl_cons, adjoin_distinct, ih, List.append_assoc, List.singleton_append]

theorem foldl_adjoin (elements : List Expr) : elements.foldl adjoin [] = distinct elements :=
  foldl_adjoin_distinct [] elements

end Expr

section Descending

theorem descending_eq_insertionSort (numbers : List Nat) :
    descending numbers = numbers.insertionSort (· ≥ ·) := by
  have insert : ∀ number rest, descending.insert number rest =
      rest.orderedInsert (· ≥ ·) number := by
    intro number rest
    induction rest with
    | nil => rfl
    | cons first rest ih => rw [descending.insert, ih, List.orderedInsert]
  induction numbers with
  | nil => rfl
  | cons number rest ih => rw [descending, insert, ih, List.insertionSort_cons]

variable {α : Type}

/-- The entries of a list that are not in some places. -/
def withoutPlaces (places : List Nat) (entries : List α) : List α :=
  (entries.zipIdx.filter fun entry => entry.2 ∉ places).map Prod.fst

theorem withoutPlaces_nil (entries : List α) : withoutPlaces [] entries = entries := by
  simp [withoutPlaces]

theorem withoutPlaces_eraseIdx {place : Nat} {places : List Nat} {entries : List α}
    (below : ∀ other ∈ places, other < place) (inside : place < entries.length) :
    withoutPlaces places (entries.eraseIdx place) = withoutPlaces (place :: places) entries := by
  have later : ∀ (start : Nat) (others : List Nat) (rest : List α),
      (∀ other ∈ others, other < start) →
      ((rest.zipIdx start).filter fun entry => entry.2 ∉ others).map Prod.fst = rest := by
    intro start others rest bound
    rw [List.filter_eq_self.mpr, List.zipIdx_map_fst]
    intro entry member
    have behind := List.le_snd_of_mem_zipIdx member
    rw [decide_eq_true_iff]
    intro inOthers
    exact absurd (bound _ inOthers) (by omega)
  obtain ⟨before, entry, after, rfl, rfl⟩ :
      ∃ before entry after, before.length = place ∧ entries = before ++ entry :: after :=
    ⟨entries.take place, entries[place], entries.drop (place + 1),
      by rw [List.length_take]; omega, by simp⟩
  have sameBefore : (before.zipIdx.filter fun entry => entry.2 ∉ places) =
      before.zipIdx.filter fun entry => entry.2 ∉ before.length :: places := by
    apply List.filter_congr
    intro entry member
    have ahead := List.snd_lt_of_mem_zipIdx member
    simp [show entry.2 ≠ before.length by omega]
  have shortened := later before.length places after below
  have unshortened := later (before.length + 1) (before.length :: places) after (by
    intro other member
    rcases List.mem_cons.mp member with rfl | member
    · omega
    · exact (below other member).trans (Nat.lt_succ_self _))
  rw [withoutPlaces, withoutPlaces, List.eraseIdx_append_of_length_le le_rfl, Nat.sub_self,
    List.eraseIdx_cons_zero, List.zipIdx_append, List.zipIdx_append, List.filter_append,
    List.filter_append, sameBefore, List.map_append, List.map_append, List.zipIdx_cons,
    List.filter_cons_of_neg (by simp), Nat.zero_add, shortened, unshortened]

theorem erase_all_eq_ok {places : List Nat} {entries : List α}
    (ordered : places.Pairwise fun first second => first > second)
    (inside : ∀ place ∈ places, place < entries.length) :
    places.foldlM Checked.erase entries = .ok (withoutPlaces places entries) := by
  -- Each place lies ahead of those that have been erased, so it is still what it was.
  induction ordered generalizing entries with
  | nil => simp [withoutPlaces, pure, Except.pure]
  | @cons place rest below ordered ih =>
      rw [List.forall_mem_cons] at inside
      rw [List.foldlM_cons, Checked.erase_eq_ok inside.1, Checked.ok_bind, ih,
        withoutPlaces_eraseIdx below inside.1]
      intro other member
      have bound := below other member
      rw [List.length_eraseIdx_of_lt inside.1]
      omega

/-- Erasing in descending order takes the given places away. -/
theorem erase_descending_eq_ok {places : List Nat} {entries : List α} (nodup : places.Nodup)
    (inside : ∀ place ∈ places, place < entries.length) :
    (descending places).foldlM Checked.erase entries = .ok (withoutPlaces places entries) := by
  have perm : (descending places).Perm places := by
    rw [descending_eq_insertionSort]
    exact List.perm_insertionSort _ places
  have ordered : (descending places).Pairwise (· ≥ ·) := by
    rw [descending_eq_insertionSort]
    exact List.pairwise_insertionSort _ places
  have same : withoutPlaces (descending places) entries = withoutPlaces places entries := by
    simp only [withoutPlaces, perm.mem_iff]
  rw [← same]
  apply erase_all_eq_ok
  · exact (ordered.and (perm.nodup_iff.mpr nodup)).imp fun both => lt_of_le_of_ne both.1 both.2.symm
  · exact fun place member => inside place (perm.mem_iff.mp member)

end Descending

namespace Row

variable {row : Row}

theorem cell?_eq_some_iff (nodup : row.columns.Nodup) {column place : Nat} :
    row.cell? column = some place ↔ row.columns[place]? = some column := by
  constructor
  · exact getElem?_of_cell?
  · intro here
    rcases Option.isSome_iff_exists.mp (isSome_cell?_iff.mpr (List.mem_of_getElem? here)) with
      ⟨other, found⟩
    have there := getElem?_of_cell? found
    have inside := (List.getElem?_eq_some_iff.mp there).1
    rw [found, (List.getElem?_inj inside nodup).mp (there.trans here.symm)]

/-- With the gathered match in the place of the first selector and without the places of the others,
the statements of a row are those that folding leaves. -/
theorem withoutPlaces_set (sameLength : row.columns.length = row.rule.statements.length)
    (nodup : row.columns.Nodup) {anchor place : Nat} {others : List Nat}
    (placed : row.cell? anchor = some place) (apart : anchor ∉ others) (gathered : Match) :
    withoutPlaces (others.filterMap row.cell?)
        (row.rule.statements.set place (.matching gathered)) =
      row.foldedStatements gathered anchor others := by
  have numbered : (row.rule.statements.set place (.matching gathered)).zipIdx =
      (row.rule.statements.zip row.columns).zipIdx.map fun (entry, index) =>
        (if index = place then .matching gathered else entry.1, index) := by
    apply List.ext_getElem
    · simp [sameLength]
    · intro index _ _
      simp [List.getElem_set, eq_comm]
  have folded : row.foldedStatements gathered anchor others =
      (row.rule.statements.zip row.columns).zipIdx.filterMap fun (entry, _) =>
        if entry.2 = anchor then some (.matching gathered)
        else if entry.2 ∈ others then none
        else some entry.1 := by
    rw [foldedStatements]
    conv_lhs => rw [← List.zipIdx_map_fst 0 (row.rule.statements.zip row.columns)]
    exact List.filterMap_map
  rw [withoutPlaces, numbered, folded, ← List.filterMap_eq_map, ← List.filterMap_eq_filter,
    List.filterMap_filterMap, ← List.filterMap_eq_map, List.filterMap_filterMap]
  apply List.filterMap_congr
  rintro ⟨⟨statement, column⟩, index⟩ member
  have here : row.columns[index]? = some column :=
    (List.getElem?_zip_eq_some.mp (List.mem_zipIdx_iff_getElem?.mp member)).2
  have isAnchor : column = anchor ↔ index = place := by
    rw [← cell?_eq_some_iff nodup] at here
    constructor
    · rintro rfl
      exact Option.some_inj.mp (here.symm.trans placed)
    · rintro rfl
      exact Option.some_inj.mp
        ((getElem?_of_cell? here).symm.trans (getElem?_of_cell? placed))
  have isOther : column ∈ others ↔ index ∈ others.filterMap row.cell? := by
    simp only [List.mem_filterMap, cell?_eq_some_iff nodup, here, Option.some_inj,
      exists_eq_right']
  have notBoth : index = place → index ∉ others.filterMap row.cell? := by
    intro atPlace
    rw [← isOther, isAnchor.mpr atPlace]
    exact apart
  simp only [isAnchor, isOther]
  generalize others.filterMap row.cell? = redundant at notBoth ⊢
  by_cases atPlace : index = place
  · simp [Option.guard, atPlace, atPlace ▸ notBoth atPlace]
  · by_cases isRedundant : index ∈ redundant
    · simp [Option.guard, atPlace, isRedundant]
    · simp [Option.guard, atPlace, isRedundant]

end Row

namespace Grid

section Access

variable {grid : Grid} {current : List Rule} {rule : Nat} {row : Row}

theorem changeTest_eq_ok (found : grid.rows[rule]? = some row)
    (isRule : current[rule]? = some row.rule) {column place : Nat} (inside : column < grid.width)
    (placed : row.cell? column = some place) {test : Match}
    (isTest : row.match? column = some test) (change : Match → Match) :
    grid.cells.changeTest current rule column change = .ok (current.set rule { row.rule with
      statements := row.rule.statements.set place (.matching (change test)) }) := by
  have here : row.rule.statements[place]? = some (.matching test) := by
    rw [Row.match?, Row.statement?, placed, Option.bind_some, Option.bind_eq_some_iff] at isTest
    rcases isTest with ⟨statement, found, isMatch⟩
    rwa [Statement.match?_eq_some_iff.mp isMatch] at found
  have inStatements := (List.getElem?_eq_some_iff.mp here).1
  have inRules := (List.getElem?_eq_some_iff.mp isRule).1
  simp only [Cells.changeTest, place?_eq_ok found inside, placed, Checked.get_eq_ok isRule,
    Checked.get_eq_ok here, Statement.match?, Checked.set_eq_ok inStatements,
    Checked.set_eq_ok inRules, Checked.ok_bind]

theorem mapM_test_eq_ok (sound : grid.Sound) (found : grid.rows[rule]? = some row)
    (isRule : current[rule]? = some row.rule) {columns : List Nat}
    (tests : ∀ column ∈ columns, column < grid.width ∧ ∃ test, row.match? column = some test)
    (part : Match → Expr) :
    (columns.mapM fun column => do
      return part (← grid.cells.test current rule column)) =
      .ok ((row.testList columns).map part) := by
  rw [mapM_eq_ok_iff, List.forall₂_map_right_iff]
  induction columns with
  | nil => exact .nil
  | cons column rest ih =>
      rw [List.forall_mem_cons] at tests
      rcases tests.1 with ⟨inside, test, isTest⟩
      rw [Row.testList, List.filterMap_cons_some isTest]
      refine .cons ?_ (ih tests.2)
      rw [test_eq_ok sound found inside isRule isTest]
      rfl

end Access

section Runs

variable {rules current : List Rule} {run : Run}

theorem getElem?_rows_index {row : Row} (member : row ∈ (ofRules rules).rows) :
    (ofRules rules).rows[row.index]? = some row := by
  rcases List.mem_iff_getElem?.mp member with ⟨place, found⟩
  rw [(getElem?_rows found).1, found]

/-- The rules of a run are those at the places of its span. -/
theorem stretch_span (isRun : run ∈ (ofRules rules).runs) :
    run.span.first + run.span.count ≤ rules.length ∧
      run.places = List.range' run.span.first run.span.count ∧
      run.rows.map Row.rule = run.span.rules rules := by
  rcases exists_stretch isRun with ⟨start, inside, places, stretch⟩
  rcases (proper_of_mem_runs (sound_ofRules rules) isRun).exists_first with
    ⟨first, rest, rows⟩
  have isFirst := congrArg List.head? places
  rw [rows, List.length_cons, List.range'_succ, List.head?_cons, Run.places, rows, List.map_cons,
    List.head?_cons, Option.some_inj] at isFirst
  rw [Span.rules, Run.first_span rows, isFirst]
  exact ⟨inside, places, stretch⟩

theorem places_eq_range' (isRun : run ∈ (ofRules rules).runs) :
    run.places = List.range' run.span.first run.span.count :=
  (stretch_span isRun).2.1

theorem holds_iff (isRun : run ∈ (ofRules rules).runs) {place : Nat} :
    run.span.Holds place ↔ place ∈ run.places := by
  rw [places_eq_range' isRun, List.mem_range'_1]
  rfl

theorem last_eq_ok (isRun : run ∈ (ofRules rules).runs) :
    run.span.last = .ok (run.span.first + run.span.count - 1) := by
  have two_le := two_le_count (sound_ofRules rules) isRun
  exact Checked.sub_eq_ok (by omega)

theorem indices_eq (isRun : run ∈ (ofRules rules).runs) :
    run.span.indices (run.span.first + run.span.count - 1) = run.places := by
  have two_le := two_le_count (sound_ofRules rules) isRun
  rw [places_eq_range' isRun, Span.indices]
  congr 1
  omega

theorem tests_of_mem (isRun : run ∈ (ofRules rules).runs) {row : Row} (member : row ∈ run.rows) :
    ∀ column ∈ run.selectors,
      column < (ofRules rules).width ∧ ∃ test, row.match? column = some test := by
  have sound := sound_ofRules rules
  have proper := proper_of_mem_runs sound isRun
  intro column inSelectors
  have isSelector := proper.selectors_subset member column inSelectors
  rcases Row.exists_match?_of_mem_selectors sound (proper.mem_grid row member)
    (proper.plain member) isSelector with ⟨-, test, -, isTest, -⟩
  exact ⟨List.mem_range.mp (List.mem_filter.mp isSelector).1, test, isTest⟩

theorem foldlM_places_eq_ok {step : List Expr → Nat → Except Fault (List Expr)}
    {bring : Row → List Expr} (steps : ∀ row ∈ run.rows, ∀ elements,
      step elements row.index = .ok ((bring row).foldl Expr.adjoin elements)) :
    run.places.foldlM step [] = .ok (Expr.distinct (run.rows.flatMap bring)) := by
  rw [Run.places, List.foldlM_map, foldlM_eq_ok_foldl steps, ← List.foldl_flatMap,
    Expr.foldl_adjoin]

theorem gathered_eq_mk (isRun : run ∈ (ofRules rules).runs) {first : Row} {rest : List Row}
    (rows : run.rows = first :: rest) : run.gathered =
      { op := .eq
        left := Match.joinedSubject (first.testList run.selectors)
        right := .set (Match.gatheredFlags run.selectors.length) (Expr.distinct
          (run.rows.flatMap fun row => Match.joinedMembers (row.testList run.selectors))) } := by
  have sound := sound_ofRules rules
  rw [← (proper_of_mem_runs sound isRun).gathered_right sound,
    Run.gathered_eq rows]
  rfl

theorem exists_anchor (isRun : run ∈ (ofRules rules).runs) {row : Row} (member : row ∈ run.rows)
    {column : Nat} (isSelector : column ∈ run.selectors) : ∃ place test,
      row.cell? column = some place ∧ row.match? column = some test ∧ test.op = .eq := by
  have sound := sound_ofRules rules
  have proper := proper_of_mem_runs sound isRun
  rcases (tests_of_mem isRun member column isSelector).2 with ⟨test, isTest⟩
  rcases ((Row.match?_eq_some_iff sound (proper.mem_grid row member)
    (proper.plain member)).mp isTest).2 with ⟨field, -, tests⟩
  have placed := isTest
  rw [Row.match?, Row.statement?, Option.bind_assoc, Option.bind_eq_some_iff] at placed
  rcases placed with ⟨place, placed, -⟩
  exact ⟨place, test, placed, isTest, tests.1⟩

theorem foldedStatements_eq (isRun : run ∈ (ofRules rules).runs) {row : Row}
    (member : row ∈ run.rows) {anchor place : Nat} {others : List Nat}
    (placed : row.cell? anchor = some place) (apart : anchor ∉ others) (gathered : Match) :
    row.foldedStatements gathered anchor others = withoutPlaces (others.filterMap row.cell?)
      (row.rule.statements.set place (.matching gathered)) := by
  have sound := sound_ofRules rules
  have proper := proper_of_mem_runs sound isRun
  have holds := sound.holds row (proper.mem_grid row member)
  have noBarrier := (Row.isBarrier_eq_false_iff sound.distinct holds
    (proper.plain member).shaped).mpr (proper.plain member).nodup
  exact (Row.withoutPlaces_set holds.length_eq (Row.nodup_columns_of_not_isBarrier noBarrier) placed
    apart gathered).symm

section Fold

variable (isRun : run ∈ (ofRules rules).runs)
  (intact : ∀ row ∈ run.rows, current[row.index]? = some row.rule)
  {first : Row} {rest : List Row} (rows : run.rows = first :: rest)

include isRun intact rows

theorem fuse_eq_ok {column : Nat} (selectors : run.selectors = [column]) :
    (ofRules rules).cells.fuse current run.span column = .ok (current.set first.index
      { first.rule with statements := first.foldedStatements run.gathered column [] }) := by
  have sound := sound_ofRules rules
  have proper := proper_of_mem_runs sound isRun
  have firstMember : first ∈ run.rows := by
    simp [rows]
  have found := getElem?_rows_index (proper.mem_grid first firstMember)
  have firstIndex := Run.first_span rows
  have isSelector : column ∈ run.selectors := by
    simp [selectors]
  have elements : run.places.foldlM (fun elements rule => do
      return (← (ofRules rules).cells.test current rule column).right.members.foldl
        Expr.adjoin elements) [] = .ok (Expr.distinct
          (run.rows.flatMap fun row => Match.joinedMembers (row.testList run.selectors))) := by
    apply foldlM_places_eq_ok
    intro row member elements
    rcases tests_of_mem isRun member column isSelector with ⟨inside, test, isTest⟩
    rw [test_eq_ok sound (getElem?_rows_index (proper.mem_grid row member)) inside
      (intact row member) isTest, selectors, Row.testList, List.filterMap_cons_some isTest]
    rfl
  rcases exists_anchor isRun firstMember isSelector with ⟨place, test, placed, isTest, isEq⟩
  have gathered : { test with right := .set (.ofList [.anonymous, .constant]) (Expr.distinct
      (run.rows.flatMap fun row => Match.joinedMembers (row.testList run.selectors))) } =
        run.gathered := by
    rw [gathered_eq_mk isRun rows, isEq, selectors, Row.testList,
      List.filterMap_cons_some isTest]
    rfl
  rw [Cells.fuse, last_eq_ok isRun, Checked.ok_bind, indices_eq isRun, elements, Checked.ok_bind,
    firstIndex, changeTest_eq_ok found (intact first firstMember)
      (tests_of_mem isRun firstMember column isSelector).1 placed isTest, gathered,
    foldedStatements_eq isRun firstMember placed List.not_mem_nil, List.filterMap_nil,
    withoutPlaces_nil]

theorem join_eq_ok {anchor : Nat} {others : List Nat} (several : others ≠ [])
    (selectors : run.selectors = anchor :: others) :
    (ofRules rules).cells.join current run.span anchor others = .ok (current.set first.index
      { first.rule with statements := first.foldedStatements run.gathered anchor others }) := by
  have sound := sound_ofRules rules
  have proper := proper_of_mem_runs sound isRun
  have firstMember : first ∈ run.rows := by
    simp [rows]
  have firstInGrid := proper.mem_grid first firstMember
  have found := getElem?_rows_index firstInGrid
  have isRule := intact first firstMember
  have firstIndex := Run.first_span rows
  have isSelector : anchor ∈ run.selectors := by
    simp [selectors]
  have notOne : run.selectors.length ≠ 1 := by
    have pos := List.length_pos_iff.mpr several
    rw [selectors, List.length_cons]
    omega
  have subjects := mapM_test_eq_ok sound found isRule (tests_of_mem isRun firstMember) Match.left
  have elements : run.places.foldlM (fun elements rule => do
      let values ← run.selectors.mapM fun column =>
        return (← (ofRules rules).cells.test current rule column).right
      return Expr.adjoin elements (.element (.concat values))) [] = .ok (Expr.distinct (run.rows.map
        fun row => .element (.concat ((row.testList run.selectors).map Match.right)))) := by
    rw [List.map_eq_flatMap]
    apply foldlM_places_eq_ok
    intro row member elements
    rw [mapM_test_eq_ok sound (getElem?_rows_index (proper.mem_grid row member))
      (intact row member) (tests_of_mem isRun member)]
    rfl
  rcases exists_anchor isRun firstMember isSelector with ⟨place, test, placed, isTest, isEq⟩
  have gathered : { test with
      left := .concat ((first.testList run.selectors).map Match.left)
      right := .set (.ofList [.anonymous, .constant, .concat]) (Expr.distinct (run.rows.map
        fun row => .element (.concat ((row.testList run.selectors).map Match.right)))) } =
      run.gathered := by
    rw [proper.gathered_eq_of_several sound notOne rows, isEq]
  have nodup : (anchor :: others).Nodup := by
    rw [← selectors, ← proper.selectors_eq first firstMember]
    exact nodup_selectors
  have redundant : others.mapM ((ofRules rules).cells.place? first.index) =
      .ok (others.map first.cell?) := by
    apply mapM_eq_ok_map
    intro column member
    exact place?_eq_ok found (tests_of_mem isRun firstMember column (by simp [selectors, member])).1
  have distinctPlaces : (others.filterMap first.cell?).Nodup := by
    apply (List.nodup_cons.mp nodup).2.filterMap
    intro column other here isHere isThere
    exact Option.some_inj.mp ((Row.getElem?_of_cell? isHere).symm.trans
      (Row.getElem?_of_cell? isThere))
  have insidePlaces : ∀ here ∈ others.filterMap first.cell?,
      here < (first.rule.statements.set place (.matching run.gathered)).length := by
    intro here member
    rcases List.mem_filterMap.mp member with ⟨column, -, isHere⟩
    rw [List.length_set, ← (sound.holds first firstInGrid).length_eq]
    exact (List.getElem?_eq_some_iff.mp (Row.getElem?_of_cell? isHere)).1
  have inRules := (List.getElem?_eq_some_iff.mp isRule).1
  have changed : (current.set first.index { first.rule with
      statements := first.rule.statements.set place (.matching run.gathered) })[first.index]? =
        some { first.rule with
          statements := first.rule.statements.set place (.matching run.gathered) } :=
    List.getElem?_set_self inRules
  rw [Cells.join, firstIndex, Run.selectors_span, subjects, Checked.ok_bind, last_eq_ok isRun,
    Checked.ok_bind, indices_eq isRun, elements, Checked.ok_bind,
    changeTest_eq_ok found isRule (tests_of_mem isRun firstMember anchor isSelector).1 placed
      isTest, gathered, Checked.ok_bind, redundant, Checked.ok_bind, Checked.get_eq_ok changed,
    Checked.ok_bind, List.filterMap_map, Function.id_comp,
    erase_descending_eq_ok distinctPlaces insidePlaces, Checked.ok_bind,
    Checked.set_eq_ok (by simpa using inRules), List.set_set,
    foldedStatements_eq isRun firstMember placed (List.nodup_cons.mp nodup).1]

end Fold

/-- Folding a run in a list in which its rules are in their places changes its first rule only. -/
theorem merge_eq_ok (isRun : run ∈ (ofRules rules).runs)
    (intact : ∀ row ∈ run.rows, current[row.index]? = some row.rule) {survivor : Rule}
    (folds : run.fold = .ok survivor) :
    (ofRules rules).cells.merge current run.span = .ok (current.set run.span.first survivor) := by
  have sound := sound_ofRules rules
  have proper := proper_of_mem_runs sound isRun
  rcases proper.exists_first with ⟨first, rest, rows⟩
  have firstIndex := Run.first_span rows
  have enough : ¬run.span.count < 2 := Nat.not_lt.mpr (two_le_count sound isRun)
  rw [Cells.merge, if_neg enough, firstIndex, Run.selectors_span]
  rcases selectors : run.selectors with _ | ⟨anchor, _ | ⟨other, others⟩⟩
  · exact absurd selectors proper.selectors_ne_nil
  · rw [proper.fold_eq sound rows selectors, Except.ok.injEq] at folds
    rw [← folds]
    exact fuse_eq_ok isRun intact rows selectors
  · rw [proper.fold_eq sound rows selectors, Except.ok.injEq] at folds
    rw [← folds]
    exact join_eq_ok isRun intact rows (List.cons_ne_nil other others) selectors

end Runs

end Grid

end Rulefold
