import Rulefold.Proofs.Detection
import Rulefold.Proofs.Matching
import Rulefold.Proofs.Variety

/-!
# What folding does not look at

Which rules are folded does not depend on the values that they test for, on the order of their
statements, on their locations or on their handles. Two chains that differ in nothing else need the
same number of columns, although these may be numbered in another order, and they fall into the same
segments.
-/

namespace Rulefold

namespace Statement

/-- Says whether a statement tests for a set, of any flags. -/
def testsSet (statement : Statement) : Bool := statement.match?.any fun test => test.right.isSet

/-- One statement may take the place of another: they are alike and both test for a set or neither
does, or they are alike to no statement at all. -/
def Replaces (first second : Statement) : Prop :=
  alike (some first) (some second) = true ∧ first.testsSet = second.testsSet ∨
    first.isShaped = false ∧ second.isShaped = false

variable {first second : Statement}

theorem isShaped_eq_false_iff {statement : Statement} :
    statement.isShaped = false ↔ statement.shape? = none := by
  rw [← Bool.not_eq_true, isShaped_iff, Option.eq_none_iff_forall_ne_some, not_exists]

theorem Replaces.shape?_eq (replaces : first.Replaces second) : first.shape? = second.shape? := by
  rcases replaces with ⟨alike, -⟩ | ⟨firstShapeless, secondShapeless⟩
  · rcases alike_some_iff.mp alike with ⟨shape, isShape, isOtherShape⟩
    exact isShape.trans isOtherShape.symm
  · rw [isShaped_eq_false_iff] at firstShapeless secondShapeless
    exact firstShapeless.trans secondShapeless.symm

theorem Replaces.symm (replaces : first.Replaces second) : second.Replaces first := by
  rcases replaces with ⟨alike, same⟩ | ⟨firstShapeless, secondShapeless⟩
  · exact .inl ⟨(alike_comm _ _).trans alike, same.symm⟩
  · exact .inr ⟨secondShapeless, firstShapeless⟩

theorem Replaces.testsSet_eq (replaces : first.Replaces second) (shaped : first.shape? ≠ none) :
    first.testsSet = second.testsSet := by
  rcases replaces with ⟨-, same⟩ | ⟨shapeless, -⟩
  · exact same
  · exact absurd (isShaped_eq_false_iff.mp shapeless) shaped

end Statement

namespace Rule

/-- A rule is obtained from another by reordering its statements and replacing each of them.
Locations and handles do not count. -/
def Resembles (first second : Rule) : Prop :=
  ∃ reordered : List Statement, reordered.Perm first.statements ∧
    List.Forall₂ Statement.Replaces reordered second.statements

variable {first second firstOther secondOther : Rule}

theorem Resembles.symm (resembles : first.Resembles second) : second.Resembles first := by
  rcases resembles with ⟨reordered, perm, replaced⟩
  rcases List.perm_comp_forall₂ perm.symm replaced with ⟨replacement, replacedFirst, permSecond⟩
  exact ⟨replacement, permSecond, replacedFirst.flip.imp fun _ _ => Statement.Replaces.symm⟩

theorem Resembles.perm_shapes (resembles : first.Resembles second) :
    first.shapes.Perm second.shapes := by
  rcases resembles with ⟨reordered, perm, replaced⟩
  have same : reordered.map Statement.shape? = second.statements.map Statement.shape? := by
    rw [← List.forall₂_eq_eq_eq, List.forall₂_map_left_iff, List.forall₂_map_right_iff]
    exact replaced.imp fun _ _ replaces => replaces.shape?_eq
  rw [shapes, shapes, ← same]
  exact (perm.map _).symm

theorem Resembles.plain (resembles : first.Resembles second) (plain : first.Plain) :
    second.Plain where
  shaped member := plain.shaped (resembles.perm_shapes.mem_iff.mpr member)
  nodup := resembles.perm_shapes.nodup_iff.mp plain.nodup

theorem Resembles.alike (resembles : first.Resembles second) (plain : first.Plain) :
    first.Alike second :=
  ⟨plain, resembles.plain plain, fun _ => resembles.perm_shapes.mem_iff⟩

theorem Resembles.length_tests (resembles : first.Resembles second) (plain : first.Plain) :
    first.tests.length = second.tests.length := (resembles.alike plain).length_tests

theorem free_iff {rule : Rule} : (∀ test ∈ rule.tests, test.right.isSet = false) ↔
    ∀ statement ∈ rule.statements, statement.testsSet = false := by
  constructor
  · intro free statement member
    cases isMatch : statement.match? with
    | none => simp [Statement.testsSet, isMatch]
    | some test =>
        have inTests := List.mem_filterMap.mpr ⟨statement, member, isMatch⟩
        simp [Statement.testsSet, isMatch, free test inTests]
  · intro free test member
    exact free _ (mem_tests_iff.mp member)

/-- A plain rule without sets resembles rules without sets only. -/
theorem Resembles.free (resembles : first.Resembles second) (plain : first.Plain)
    (free : ∀ test ∈ first.tests, test.right.isSet = false) :
    ∀ test ∈ second.tests, test.right.isSet = false := by
  rcases resembles with ⟨reordered, perm, replaced⟩
  have shaped : ∀ statement ∈ reordered, statement.shape? ≠ none := fun statement member =>
    plain.shape?_ne_none (perm.subset member)
  have same : reordered.map Statement.testsSet = second.statements.map Statement.testsSet := by
    rw [← List.forall₂_eq_eq_eq, List.forall₂_map_left_iff, List.forall₂_map_right_iff]
    exact ((List.forall₂_and_left _ _).mpr ⟨shaped, replaced⟩).imp fun _ _ here =>
      here.2.testsSet_eq here.1
  rw [free_iff] at free ⊢
  intro statement member
  have inSecond : statement.testsSet ∈ second.statements.map Statement.testsSet :=
    List.mem_map_of_mem member
  rw [← same] at inSecond
  rcases List.mem_map.mp inSecond with ⟨other, otherMember, sameHere⟩
  rw [← sameHere]
  exact free other (perm.subset otherMember)

theorem Joins.of_resembles (joins : first.Joins second)
    (firstResembles : first.Resembles firstOther) (secondResembles : second.Resembles secondOther) :
    firstOther.Joins secondOther where
  alike := (firstResembles.alike joins.alike.left).symm.trans
    (joins.alike.trans (secondResembles.alike joins.alike.right))
  tests_ne_nil := by
    intro empty
    apply joins.tests_ne_nil
    simpa [empty] using firstResembles.length_tests joins.alike.left
  one_or_free := by
    rcases joins.one_or_free with one | free
    · left
      rw [← firstResembles.length_tests joins.alike.left, one]
    · right
      rw [List.forall_mem_append] at free ⊢
      exact ⟨firstResembles.free joins.alike.left free.1,
        secondResembles.free joins.alike.right free.2⟩

theorem Resembles.joins_eq (firstResembles : first.Resembles firstOther)
    (secondResembles : second.Resembles secondOther) :
    first.joins second = firstOther.joins secondOther := by
  rw [Bool.eq_iff_iff, joins_iff, joins_iff]
  constructor
  · intro joins
    exact joins.of_resembles firstResembles secondResembles
  · intro joins
    exact joins.of_resembles firstResembles.symm secondResembles.symm

theorem perm_allShapes {rules others : List Rule}
    (similar : List.Forall₂ Resembles rules others) :
    (allShapes rules).Perm (allShapes others) := by
  induction similar with
  | nil => exact .nil
  | cons resembles _ ih =>
      rw [allShapes_cons, allShapes_cons]
      exact resembles.perm_shapes.append ih

end Rule

section Pairs

variable {α β : Type} {related : α → β → Prop}

theorem exists_pairs {first : List α} {second : List β}
    (pairs : List.Forall₂ related first second) :
    ∃ items : List {pair : α × β // related pair.1 pair.2},
      first = items.map (·.1.1) ∧ second = items.map (·.1.2) := by
  induction pairs with
  | nil => exact ⟨[], rfl, rfl⟩
  | cons pair _ ih =>
      rcases ih with ⟨items, rfl, rfl⟩
      exact ⟨⟨(_, _), pair⟩ :: items, rfl, rfl⟩

/-- Lists that are related item by item are split at the same places if the splitting does not tell
related items apart. -/
theorem forall₂_splitBy {first : List α} {second : List β} {meets : α → α → Bool}
    {otherMeets : β → β → Bool} (pairs : List.Forall₂ related first second)
    (same : ∀ a b c d, related a b → related c d → meets a c = otherMeets b d) :
    List.Forall₂ (List.Forall₂ related) (first.splitBy meets) (second.splitBy otherMeets) := by
  rcases exists_pairs pairs with ⟨items, rfl, rfl⟩
  have sameMeets : (fun item next : {pair : α × β // related pair.1 pair.2} =>
      meets item.1.1 next.1.1) = fun item next => otherMeets item.1.2 next.1.2 := by
    funext item next
    exact same _ _ _ _ item.2 next.2
  rw [splitBy_map, splitBy_map, sameMeets, List.forall₂_map_left_iff, List.forall₂_map_right_iff,
    List.forall₂_same]
  intro part _
  rw [List.forall₂_map_left_iff, List.forall₂_map_right_iff, List.forall₂_same]
  exact fun item _ => item.2

end Pairs

namespace Chain

variable {first second : Chain}

theorem forall₂_rows (similar : List.Forall₂ Rule.Resembles first.rules second.rules) :
    List.Forall₂ (fun row other => row.index = other.index ∧ row.rule.Resembles other.rule)
      first.grid.rows second.grid.rows := by
  rcases List.forall₂_iff_get.mp similar with ⟨sameLength, resembles⟩
  rw [← first.map_rule_rows, ← second.map_rule_rows, List.length_map, List.length_map]
    at sameLength
  refine List.forall₂_iff_get.mpr ⟨sameLength, ?_⟩
  intro place inFirst inSecond
  rcases Grid.getElem?_rows (List.getElem?_eq_getElem inFirst) with ⟨index, isRule⟩
  rcases Grid.getElem?_rows (List.getElem?_eq_getElem inSecond) with ⟨otherIndex, isOtherRule⟩
  rcases List.getElem?_eq_some_iff.mp isRule with ⟨inside, here⟩
  rcases List.getElem?_eq_some_iff.mp isOtherRule with ⟨otherInside, there⟩
  refine ⟨index.trans otherIndex.symm, ?_⟩
  have resemblesHere := resembles place inside otherInside
  rw [List.get_eq_getElem, List.get_eq_getElem] at resemblesHere ⊢
  rwa [here, there] at resemblesHere

/-- Chains whose rules resemble each other fall into segments at the same places. -/
theorem stands_congr (similar : List.Forall₂ Rule.Resembles first.rules second.rules) :
    first.stands = second.stands := by
  have rows := forall₂_rows similar
  have parts := forall₂_splitBy rows fun _ _ _ _ here there => here.2.joins_eq there.2
  rw [← Grid.map_rows_segments first.sound_grid, ← Grid.map_rows_segments second.sound_grid,
    List.forall₂_map_left_iff, List.forall₂_map_right_iff] at parts
  rw [stands, stands, ← List.forall₂_eq_eq_eq, List.forall₂_map_left_iff,
    List.forall₂_map_right_iff]
  refine parts.imp fun segment other here => ?_
  rw [← List.forall₂_eq_eq_eq, List.forall₂_map_left_iff, List.forall₂_map_right_iff]
  exact here.imp fun _ _ => And.left

theorem map_places_runs (chain : Chain) : chain.grid.runs.map Run.places =
    chain.stands.filter fun places => decide (2 ≤ places.length) := by
  have proper : ∀ run, .merged run ∈ chain.grid.segments → run.Proper chain.grid :=
    fun run => Grid.proper_of_mem_segments chain.sound_grid
  rw [stands, Grid.runs]
  generalize chain.grid.segments = segments at proper
  induction segments with
  | nil => rfl
  | cons segment rest ih =>
      have later := ih fun run member => proper run (List.mem_cons_of_mem segment member)
      cases segment with
      | kept row =>
          rw [List.map_cons, List.filter_cons_of_neg (by simp [Segment.rows]), ← later]
          rfl
      | merged run =>
          have two_le := (proper run List.mem_cons_self).two_le
          rw [List.map_cons, List.filter_cons_of_pos (by simpa [Segment.rows] using two_le),
            ← later]
          rfl

/-- The places of the rules that are left when a chain is folded within a number of columns. A run
takes up all its rules but the first; nothing is taken up if the chain has too many columns. -/
def survivors (max : Nat) (chain : Chain) : List Nat :=
  (List.range chain.rules.length).filter fun place =>
    decide (chain.grid.width ≤ max →
      ∀ places ∈ chain.grid.runs.map Run.places, place ∉ places.tail)

/-- A rule that is left comes from the rule at a place of the chain. -/
def StemsFrom (chain : Chain) (place : Nat) (rule : Rule) : Prop :=
  ∃ original, chain.rules[place]? = some original ∧ rule.location = original.location ∧
    rule.handle = original.handle

theorem filter_flatten_eq_heads {parts : List (List Nat)} (nodup : parts.flatten.Nodup)
    (noneEmpty : [] ∉ parts) :
    parts.flatten.filter (fun place => decide (∀ part ∈ parts, place ∉ part.tail)) =
      parts.filterMap List.head? := by
  induction parts with
  | nil => rfl
  | cons part rest ih =>
      rw [List.mem_cons, not_or] at noneEmpty
      rcases List.exists_cons_of_ne_nil (Ne.symm noneEmpty.1) with ⟨head, tail, rfl⟩
      simp only [List.flatten_cons, List.cons_append, List.nodup_cons, List.mem_append, not_or,
        List.nodup_append] at nodup
      rcases nodup with ⟨⟨notInTail, notInRest⟩, -, restNodup, apart⟩
      have elsewhere : ∀ part ∈ rest, ∀ place ∈ part.tail, place ∈ rest.flatten :=
        fun part member place inTail => List.mem_flatten_of_mem member (List.mem_of_mem_tail inTail)
      have atHead : ∀ part ∈ (head :: tail) :: rest, head ∉ part.tail := by
        intro part member inTail
        rcases List.mem_cons.mp member with rfl | member
        · exact notInTail inTail
        · exact notInRest (elsewhere part member head inTail)
      rw [List.flatten_cons, List.filter_append, List.filter_cons_of_pos (by simpa using atHead),
        List.filterMap_cons, List.head?_cons, ← ih restNodup noneEmpty.2]
      have noneInTail : tail.filter (fun place =>
          decide (∀ part ∈ (head :: tail) :: rest, place ∉ part.tail)) = [] := by
        rw [List.filter_eq_nil_iff]
        intro place member
        simp [member]
      have sameInRest : ∀ place ∈ rest.flatten,
          decide (∀ part ∈ (head :: tail) :: rest, place ∉ part.tail) =
            decide (∀ part ∈ rest, place ∉ part.tail) := by
        intro place member
        have notInTail : place ∉ tail := fun inTail => apart place inTail place member rfl
        simp [notInTail]
      rw [noneInTail, List.filter_congr sameInRest]
      rfl

theorem survivors_eq_heads {max : Nat} {chain : Chain} (fits : chain.grid.width ≤ max) :
    chain.survivors max = chain.stands.filterMap List.head? := by
  have noneEmpty : [] ∉ chain.stands := by
    intro member
    rcases List.mem_map.mp member with ⟨segment, inGrid, empty⟩
    exact Segment.rows_ne_nil chain.sound_grid inGrid (List.map_eq_nil_iff.mp empty)
  have nodup : chain.stands.flatten.Nodup := by
    rw [flatten_stands]
    exact List.nodup_range
  rw [survivors, ← filter_flatten_eq_heads nodup noneEmpty, flatten_stands]
  apply List.filter_congr
  intro place _
  rw [decide_eq_decide, forall_prop_of_true fits, map_places_runs]
  constructor
  · intro absent part member inTail
    refine absent part (List.mem_filter.mpr ⟨member, decide_eq_true ?_⟩) inTail
    have inhabited := List.length_pos_of_mem inTail
    rw [List.length_tail] at inhabited
    omega
  · intro absent part member
    exact absent part (List.mem_filter.mp member).1

theorem stemsFrom_survivor {chain : Chain} {segment : Segment} {survivor : Rule}
    (inGrid : segment ∈ chain.grid.segments) (leaves : segment.survivor = .ok survivor) :
    ∃ place, (segment.rows.map Row.index).head? = some place ∧ chain.StemsFrom place survivor := by
  have isRule : ∀ row ∈ segment.rows, chain.rules[row.index]? = some row.rule :=
    fun row member => Grid.getElem?_index (Grid.mem_rows_of_mem_segments inGrid member)
  cases segment with
  | kept row =>
      cases leaves
      exact ⟨row.index, rfl, row.rule, isRule row (by simp [Segment.rows]), rfl, rfl⟩
  | merged run =>
      have proper := Grid.proper_of_mem_segments chain.sound_grid inGrid
      rcases proper.split chain.sound_grid leaves with
        ⟨first, rest, -, -, -, -, rows, -, -, rfl⟩
      refine ⟨first.index, by simp [Segment.rows, rows], first.rule, isRule first ?_, rfl, rfl⟩
      simp [Segment.rows, rows]

theorem forall₂_stemsFrom_heads {chain : Chain} {segments : List Segment} {rules : List Rule}
    (leave : List.Forall₂ (fun segment survivor =>
      segment ∈ chain.grid.segments ∧ segment.survivor = .ok survivor) segments rules) :
    List.Forall₂ chain.StemsFrom
      ((segments.map fun segment => segment.rows.map Row.index).filterMap List.head?) rules := by
  induction leave with
  | nil => exact .nil
  | cons leaves _ ih =>
      rcases stemsFrom_survivor leaves.1 leaves.2 with ⟨place, isHead, stems⟩
      rw [List.map_cons, List.filterMap_cons_some isHead]
      exact .cons stems ih

/-- The rules that folding leaves come from the rules at the places that survive, in order. -/
theorem forall₂_stemsFrom {σ : Type} (sink : Sink σ) (state : σ) (config : Config) (files : Files)
    (chain : Chain) : List.Forall₂ chain.StemsFrom (chain.survivors config.maxShapes)
      (chain.foldInto sink state config files).chain.rules := by
  cases folds : chain.fold config files with
  | error failure =>
      have tooWide := (fold_eq_error_iff.mp folds).1
      have all : chain.survivors config.maxShapes = List.range chain.rules.length := by
        rw [survivors, List.filter_eq_self]
        intro place _
        simp [Nat.not_le.mpr tooWide]
      rw [foldInto_of_fold_eq_error folds, all, List.forall₂_iff_get]
      refine ⟨List.length_range, fun place _ inside => ?_⟩
      exact ⟨chain.rules[place], by simp [List.getElem?_eq_getElem inside], rfl, rfl⟩
  | ok folded =>
      have foldsTo := foldsTo_of_fold_eq_ok folds
      rw [(foldInto_of_fold_eq_ok folds).1, survivors_eq_heads foldsTo.width_le, stands]
      exact forall₂_stemsFrom_heads foldsTo.survivors_mem

/-- Folding is blind to values, to the order of statements, to locations and to handles: chains
whose rules resemble each other are folded alike. -/
theorem foldInto_blind {first second : Chain}
    (similar : List.Forall₂ Rule.Resembles first.rules second.rules) (max : Nat)
    (audit otherAudit : Bool) (files otherFiles : Files) {σ τ : Type} (sink : Sink σ)
    (otherSink : Sink τ) (state : σ) (otherState : τ) :
    let attempt := first.foldInto sink state ⟨max, audit⟩ files
    let other := second.foldInto otherSink otherState ⟨max, otherAudit⟩ otherFiles
    attempt.merges = other.merges ∧
      first.grid.runs.map Run.places = second.grid.runs.map Run.places ∧
      first.survivors max = second.survivors max ∧
      List.Forall₂ first.StemsFrom (first.survivors max) attempt.chain.rules ∧
      List.Forall₂ second.StemsFrom (second.survivors max) other.chain.rules := by
  have sameWidth : first.grid.width = second.grid.width :=
    Grid.width_eq_of_perm (Rule.perm_allShapes similar)
  have sameRuns : first.grid.runs.map Run.places = second.grid.runs.map Run.places := by
    rw [map_places_runs, map_places_runs, stands_congr similar]
  refine ⟨?_, sameRuns, ?_, forall₂_stemsFrom sink state ⟨max, audit⟩ files first,
    forall₂_stemsFrom otherSink otherState ⟨max, otherAudit⟩ otherFiles second⟩
  · by_cases fits : first.grid.width ≤ max
    · rcases @exists_fold_of_width_le ⟨max, audit⟩ files first fits with ⟨folded, folds⟩
      rcases @exists_fold_of_width_le ⟨max, otherAudit⟩ otherFiles second (sameWidth ▸ fits) with
        ⟨other, foldsOther⟩
      have sameLength := congrArg List.length sameRuns
      rw [List.length_map, List.length_map] at sameLength
      rw [(foldInto_of_fold_eq_ok folds).2, (foldInto_of_fold_eq_ok foldsOther).2,
        length_merges folds, length_merges foldsOther, sameLength]
    · have fails : first.fold ⟨max, audit⟩ files = .error (.tooManyShapes max) :=
        fold_eq_error_iff.mpr ⟨Nat.lt_of_not_le fits, rfl⟩
      have otherFails : second.fold ⟨max, otherAudit⟩ otherFiles = .error (.tooManyShapes max) :=
        fold_eq_error_iff.mpr ⟨sameWidth ▸ Nat.lt_of_not_le fits, rfl⟩
      rw [foldInto_of_fold_eq_error fails, foldInto_of_fold_eq_error otherFails]
  · rw [survivors, survivors, similar.length_eq, sameWidth, sameRuns]

/-- Two rules on one field, and a statement of another kind. -/
def ordered : Chain := .ofStatements [
  [.number (.route .mtu) 1, .verdict .accept none],
  [.number (.route .mtu) 2, .verdict .accept none],
  [.other "masquerade"]]

/-- The rules of `ordered` with other values, one of them the other way round. -/
def reordered : Chain := .ofStatements [
  [.verdict .accept none, .number (.route .mtu) 8],
  [.number (.route .mtu) 9, .verdict .accept none],
  [.other "queue"]]

theorem foldInto_blind_of_reordered :
    List.Forall₂ Rule.Resembles ordered.rules reordered.rules ∧
      ordered.survivors 2 = reordered.survivors 2 ∧ reordered.survivors 3 = [0, 2] := by
  have similar : List.Forall₂ Rule.Resembles ordered.rules reordered.rules :=
    .cons ⟨_, .swap _ _ _, .cons (.inl ⟨rfl, rfl⟩) (.cons (.inl ⟨rfl, rfl⟩) .nil)⟩
      (.cons ⟨_, .refl _, .cons (.inl ⟨rfl, rfl⟩) (.cons (.inl ⟨rfl, rfl⟩) .nil)⟩
        (.cons ⟨_, .refl _, .cons (.inr ⟨rfl, rfl⟩) .nil⟩ .nil))
  have blind := fun max =>
    (foldInto_blind similar max true true (.ofList []) (.ofList []) Buffer.sink Buffer.sink
      (.empty none) (.empty none)).2.2.1
  refine ⟨similar, blind 2, ?_⟩
  rw [← blind 3]
  decide

end Chain

end Rulefold
