import Rulefold.Proofs.Grouping
import Rulefold.Proofs.Width

/-!
# Folding in pieces

If no rule has several selectors, a chain may be folded in pieces. A run that was cut leaves two
sets, and folding once more opens both and joins their elements as if they had never been apart:
`Expr.distinct_append_congr` says that the duplicates may be removed at any time, and
`Rule.fused_flatMap_fuse` that the rules which were folded belong together as they did before.
-/

namespace Rulefold

namespace Expr

theorem distinct_eq_self {elements : List Expr}
    (keys : elements.Pairwise fun first second => first.key ≠ second.key) :
    distinct elements = elements := by
  induction keys with
  | nil => rfl
  | cons apart _ ih =>
      rw [distinct, ih, List.filter_eq_self.mpr]
      intro other member
      exact bne_iff_ne.mpr (apart other member).symm

theorem distinct_distinct (elements : List Expr) :
    distinct (distinct elements) = distinct elements :=
  distinct_eq_self (pairwise_key_distinct elements)

/-- Duplicates may be removed from the parts first. -/
theorem distinct_append_congr {first second firstLater secondLater : List Expr}
    (sameFirst : distinct first = distinct firstLater)
    (sameSecond : distinct second = distinct secondLater) :
    distinct (first ++ second) = distinct (firstLater ++ secondLater) := by
  rw [distinct_append, distinct_append, sameFirst, sameSecond]
  congr 1
  apply List.filter_congr
  intro other _
  rw [← all_key_distinct first, sameFirst, all_key_distinct]

theorem distinct_flatMap_congr {α : Type} {items : List α} {first second : α → List Expr}
    (same : ∀ item ∈ items, distinct (first item) = distinct (second item)) :
    distinct (items.flatMap first) = distinct (items.flatMap second) := by
  induction items with
  | nil => rfl
  | cons item rest ih =>
      rw [List.forall_mem_cons] at same
      exact distinct_append_congr same.1 (ih same.2)

end Expr

section Widen

/-- The match that tests for a set instead. -/
def Match.widen (elements : List Expr) (test : Match) : Match :=
  { test with right := .set (gatheredFlags 1) elements }

/-- The statement with its match widened, if it is one. -/
def Statement.widen (elements : List Expr) : Statement → Statement
  | matching test => matching (test.widen elements)
  | statement => statement

/-- The rule with its matches widened. -/
def Rule.widen (elements : List Expr) (rule : Rule) : Rule :=
  { rule with statements := rule.statements.map (Statement.widen elements) }

variable (elements : List Expr)

theorem Match.members_widen (test : Match) : (test.widen elements).right.members = elements := rfl

@[simp]
theorem Statement.widen_widen (others : List Expr) (statement : Statement) :
    (statement.widen elements).widen others = statement.widen others := by
  cases statement <;> rfl

@[simp]
theorem Statement.match?_widen (statement : Statement) :
    (statement.widen elements).match? = statement.match?.map (Match.widen elements) := by
  cases statement <;> rfl

@[simp]
theorem Statement.shape?_widen (statement : Statement) :
    (statement.widen elements).shape? = statement.shape? := by
  cases statement with
  | matching test =>
      rcases test with ⟨op, left, right⟩
      cases op <;> cases left <;> rfl
  | _ => rfl

theorem Statement.widen_eq_self {statement : Statement} (isAction : statement.match? = none) :
    statement.widen elements = statement := by
  cases statement with
  | matching test => cases isAction
  | _ => rfl

theorem Statement.map_widen_eq_self {statements : List Statement}
    (noTests : statements.filterMap match? = []) :
    statements.map (Statement.widen elements) = statements := by
  rw [List.filterMap_eq_nil_iff] at noTests
  rw [List.map_congr_left fun statement member =>
    widen_eq_self elements (noTests statement member), List.map_id']

@[simp]
theorem Rule.widen_widen (others : List Expr) (rule : Rule) :
    (rule.widen elements).widen others = rule.widen others := by
  simp [widen]

@[simp]
theorem Rule.shapes_widen (rule : Rule) : (rule.widen elements).shapes = rule.shapes := by
  simp [widen, shapes]

@[simp]
theorem Rule.tests_widen (rule : Rule) :
    (rule.widen elements).tests = rule.tests.map (Match.widen elements) := by
  simp [widen, tests, List.filterMap_map, List.map_filterMap]

end Widen

/-- Says whether a statement tests a field for equality, so that what it tests can be widened. -/
def Statement.isMergeable : Statement → Bool
  | matching { op := .eq, left := .field _, right := _ } => true
  | _ => false

theorem Statement.isMergeable_eq (statement : Statement) :
    statement.isMergeable = statement.shape?.any Shape.isSelector := by
  cases statement with
  | matching test =>
      rcases test with ⟨op, left, right⟩
      cases op <;> cases left <;> rfl
  | log line =>
      rcases line with ⟨_ | label, settings⟩
      · rfl
      · cases label <;> rfl
  | reject answer =>
      rcases answer with ⟨_ | message, reason⟩ <;> rfl
  | _ => rfl

namespace Rule

/-- No two statements of the rule can be widened. -/
def Single (rule : Rule) : Prop := rule.statements.countP Statement.isMergeable ≤ 1

instance (rule : Rule) : Decidable rule.Single := inferInstanceAs (Decidable (_ ≤ _))

theorem single_iff {rule : Rule} :
    rule.Single ↔ (rule.shapes.countP fun shape? => shape?.any Shape.isSelector) ≤ 1 := by
  rw [Single, shapes, List.countP_map]
  have same : Statement.isMergeable =
      (fun shape? : Option Shape => shape?.any Shape.isSelector) ∘ Statement.shape? :=
    funext Statement.isMergeable_eq
  rw [same]

theorem Single.length_tests {rule : Rule} (single : rule.Single) (plain : rule.Plain)
    (someTest : rule.tests ≠ []) : rule.tests.length = 1 := by
  have positive := List.length_pos_iff.mpr someTest
  rw [single_iff, ← plain.length_tests] at single
  omega

/-- The elements that rules which belong together bring to the set. -/
def pool (rules : List Rule) : List Expr :=
  rules.flatMap fun rule => rule.tests.flatMap fun test => test.right.members

/-- The rule that is left of one and of those that follow it in its run. -/
def absorb (first : Rule) : List Rule → Rule
  | [] => first
  | second :: rest => first.widen (Expr.distinct (pool (first :: second :: rest)))

@[simp]
theorem shapes_absorb (first : Rule) (others : List Rule) :
    (first.absorb others).shapes = first.shapes := by
  cases others with
  | nil => rfl
  | cons second rest => exact shapes_widen _ _

/-- The rule, if any, that rules which belong together leave. -/
def fuse : List Rule → List Rule
  | [] => []
  | first :: others => [first.absorb others]

/-- The rules that are left when those that belong together are folded. -/
def fused (rules : List Rule) : List Rule := (rules.splitBy joins).flatMap fuse

/-- What holds of rules that belong together, if none has several selectors. -/
structure Group (rules : List Rule) : Prop where
  ne_nil : rules ≠ []
  chain : rules.IsChain fun first second => first.joins second = true
  single : ∀ rule ∈ rules, rule.Single

theorem group_of_mem_splitBy {rules group : List Rule} (single : ∀ rule ∈ rules, rule.Single)
    (member : group ∈ rules.splitBy joins) : Group group where
  ne_nil := List.ne_nil_of_mem_splitBy member
  chain := List.isChain_of_mem_splitBy member
  single rule inGroup := single rule (mem_of_mem_splitBy member inGroup)

/-- The first rule does as well as the second, as far as other rules belong with it. -/
def StandsFor (first second : Rule) : Prop :=
  first = second ∨ first.Alike second ∧ first.tests.length = 1

namespace StandsFor

variable {first second firstRule secondRule : Rule}

theorem symm (stands : first.StandsFor second) : second.StandsFor first := by
  rcases stands with same | ⟨alike, one⟩
  · exact .inl same.symm
  · exact .inr ⟨alike.symm, alike.length_tests ▸ one⟩

theorem joins_of_joins (stands : first.StandsFor firstRule) (others : second.StandsFor secondRule)
    (joins : first.Joins second) : firstRule.Joins secondRule := by
  have alike : ∀ {rule other : Rule}, rule.Plain → rule.StandsFor other →
      rule.Alike other ∧ (rule.tests.length = 1 ∨ rule = other) := by
    intro rule other plain stands
    rcases stands with rfl | ⟨alike, one⟩
    · exact ⟨.refl plain, .inr rfl⟩
    · exact ⟨alike, .inl one⟩
  rcases alike joins.alike.left stands with ⟨firstAlike, firstSame⟩
  rcases alike joins.alike.right others with ⟨secondAlike, secondSame⟩
  exact joins.congr firstAlike secondAlike firstSame secondSame

theorem joins_eq (stands : first.StandsFor firstRule) (others : second.StandsFor secondRule) :
    first.joins second = firstRule.joins secondRule := by
  rw [Bool.eq_iff_iff, joins_iff, joins_iff]
  exact ⟨stands.joins_of_joins others, stands.symm.joins_of_joins others.symm⟩

end StandsFor

namespace Group

variable {first second : Rule} {others : List Rule}

theorem joins_head (group : Group (first :: second :: others)) : first.Joins second :=
  joins_iff.mp (List.isChain_cons_cons.mp group.chain).1

theorem length_tests (group : Group (first :: second :: others)) : first.tests.length = 1 :=
  (group.single first (by simp)).length_tests group.joins_head.alike.left
    group.joins_head.tests_ne_nil

theorem alike (group : Group (first :: second :: others)) {rule : Rule}
    (member : rule ∈ first :: second :: others) : first.Alike rule :=
  alike_of_isChain (group.chain.imp fun _ _ joins => (joins_iff.mp joins).alike) (by simp)
    (by simp) member

theorem standsFor (group : Group (first :: others)) {rule : Rule}
    (member : rule ∈ first :: others) : (first.absorb others).StandsFor rule := by
  cases others with
  | nil => exact .inl (List.mem_singleton.mp member).symm
  | cons second others =>
      have alike := group.alike member
      refine .inr ⟨(alike.left.alike_of_shapes_eq (shapes_absorb _ _)).trans alike, ?_⟩
      rw [absorb, tests_widen, List.length_map]
      exact group.length_tests

end Group

theorem absorb_of_ne_nil (first : Rule) {others : List Rule} (ne_nil : others ≠ []) :
    first.absorb others = first.widen (Expr.distinct (pool (first :: others))) := by
  cases others with
  | nil => exact absurd rfl ne_nil
  | cons second rest => rfl

theorem absorb_single {first : Rule} (single : first.Single) (others : List Rule) :
    (first.absorb others).Single := by
  rw [single_iff] at single ⊢
  rwa [shapes_absorb]

@[simp]
theorem widen_absorb (first : Rule) (others : List Rule) (elements : List Expr) :
    (first.absorb others).widen elements = first.widen elements := by
  cases others with
  | nil => rfl
  | cons second others => exact widen_widen _ _ _

/-- The rule that is left brings the elements of all again, without the duplicates. -/
theorem Group.distinct_pool_fuse {rules : List Rule} (group : Group rules) :
    Expr.distinct (pool (fuse rules)) = Expr.distinct (pool rules) := by
  match rules with
  | [] => rfl
  | [first] => rfl
  | first :: second :: others =>
      rcases List.length_eq_one_iff.mp group.length_tests with ⟨test, onlyTest⟩
      have opened : pool (fuse (first :: second :: others)) =
          Expr.distinct (pool (first :: second :: others)) := by
        rw [fuse, absorb, pool]
        simp [onlyTest, Match.members_widen]
      rw [opened, Expr.distinct_distinct]

/-- Groups that belong together leave one rule, whether or not each was folded before. -/
theorem fuse_flatMap_fuse {groups : List (List Rule)} (each : ∀ group ∈ groups, Group group) :
    fuse (groups.flatMap fuse) = fuse groups.flatten := by
  match groups with
  | [] => rfl
  | [group] =>
      rw [List.flatMap_singleton, List.flatten_singleton]
      cases group <;> rfl
  | group :: next :: rest =>
      have pools : Expr.distinct (pool ((group :: next :: rest).flatMap fuse)) =
          Expr.distinct (pool (group :: next :: rest).flatten) := by
        rw [pool, pool, List.flatMap_assoc, ← List.flatMap_id, List.flatMap_assoc]
        exact Expr.distinct_flatMap_congr fun group member => (each group member).distinct_pool_fuse
      rcases List.exists_cons_of_ne_nil (each group (by simp)).ne_nil with ⟨first, others, rfl⟩
      rcases List.exists_cons_of_ne_nil (each next (by simp)).ne_nil with ⟨second, more, rfl⟩
      simp only [List.flatMap_cons, fuse, List.flatten_cons, List.cons_append,
        List.nil_append] at pools ⊢
      rw [absorb, pools, widen_absorb, absorb_of_ne_nil first (by simp)]

/-- Says whether the last rule of one list belongs in one run with the first of the next. -/
def meets (first second : List Rule) : Bool :=
  first.getLast?.any fun last => second.head?.any fun head => last.joins head

theorem splitBy_flatten {groups : List (List Rule)} (each : ∀ group ∈ groups, Group group) :
    groups.flatten.splitBy joins = (groups.splitBy meets).map List.flatten := by
  have split : (groups.flatMap id).splitBy joins =
      (groups.splitBy meets).map (List.flatMap id) := by
    apply splitBy_flatMap
    · exact fun group member => (each group member).ne_nil
    · exact fun group member => (each group member).chain
    · intro first _ second _ last isLast head isHead
      rw [id, Option.mem_def] at isLast isHead
      simp [meets, isLast, isHead]
  have flat : (List.flatMap id : List (List Rule) → List Rule) = List.flatten :=
    funext fun _ => List.flatMap_id
  rwa [flat] at split

/-- What groups leave is split where the groups themselves are. -/
theorem splitBy_flatMap_fuse {groups : List (List Rule)} (each : ∀ group ∈ groups, Group group) :
    (groups.flatMap fuse).splitBy joins = (groups.splitBy meets).map (List.flatMap fuse) := by
  apply splitBy_flatMap
  · intro group member empty
    apply (each group member).ne_nil
    cases group with
    | nil => rfl
    | cons first others => cases empty
  · intro group member
    cases group with
    | nil => exact .nil
    | cons first others => exact .singleton _
  · intro group member next nextMember last isLast head isHead
    match group, next with
    | first :: others, second :: more =>
        rw [fuse, List.getLast?_singleton, Option.mem_some_iff] at isLast
        rw [fuse, List.head?_cons, Option.mem_some_iff] at isHead
        subst isLast isHead
        rw [meets, List.getLast?_eq_some_getLast (List.cons_ne_nil first others),
          List.head?_cons, Option.any_some, Option.any_some]
        -- The one rule that is left stands for the last of its group as well as for the first.
        exact ((each _ member).standsFor (List.getLast_mem _)).joins_eq
          ((each _ nextMember).standsFor (by simp))

/-- Rules that were folded in groups leave what they would have left at once. -/
theorem fused_flatMap_fuse {groups : List (List Rule)} (each : ∀ group ∈ groups, Group group) :
    fused (groups.flatMap fuse) = fused groups.flatten := by
  rw [fused, fused, splitBy_flatMap_fuse each, splitBy_flatten each, List.flatMap_map,
    List.flatMap_map]
  apply List.flatMap_congr
  intro part inSplit
  exact fuse_flatMap_fuse fun group member => each group (mem_of_mem_splitBy inSplit member)

theorem fused_append_fused {before after : List Rule}
    (single : ∀ rule ∈ before ++ after, rule.Single) :
    fused (fused before ++ fused after) = fused (before ++ after) := by
  have groups : ∀ group ∈ before.splitBy joins ++ after.splitBy joins, Group group := by
    intro group member
    rcases List.mem_append.mp member with inBefore | inAfter
    · exact group_of_mem_splitBy (fun rule member => single rule (by simp [member])) inBefore
    · exact group_of_mem_splitBy (fun rule member => single rule (by simp [member])) inAfter
  calc
    fused (fused before ++ fused after) =
        fused ((before.splitBy joins ++ after.splitBy joins).flatMap fuse) := by
      rw [List.flatMap_append]
      rfl
    _ = fused (before.splitBy joins ++ after.splitBy joins).flatten := fused_flatMap_fuse groups
    _ = fused (before ++ after) := by
      rw [List.flatten_append, List.flatten_splitBy, List.flatten_splitBy]

theorem single_of_mem_fused {rules : List Rule} (single : ∀ rule ∈ rules, rule.Single) :
    ∀ rule ∈ fused rules, rule.Single := by
  intro rule member
  rcases List.mem_flatMap.mp member with ⟨group, inSplit, inFuse⟩
  cases group with
  | nil => cases inFuse
  | cons first others =>
      rw [List.mem_singleton.mp inFuse]
      exact absorb_single (single first (mem_of_mem_splitBy inSplit (by simp))) others

/-- What is left has no shapes that were not there before. -/
theorem allShapes_fused_sublist (rules : List Rule) :
    (allShapes (fused rules)).Sublist (allShapes rules) := by
  have whole : allShapes rules = (rules.splitBy joins).flatMap allShapes := by
    unfold allShapes
    rw [← List.flatMap_assoc, List.flatMap_id', List.flatten_splitBy]
  rw [whole, fused, allShapes, List.flatMap_assoc]
  apply List.Sublist.flatMap_right
  intro group _
  cases group with
  | nil => exact .slnil
  | cons first others =>
      rw [fuse, List.flatMap_singleton, shapes_absorb, allShapes_cons]
      exact List.sublist_append_left _ _

end Rule

namespace Run.Proper

variable {grid : Grid} {run : Run} {survivor : Rule}

theorem testList_eq (proper : run.Proper grid) (sound : grid.Sound)
    (single : run.selectors.length = 1) {row : Row} (member : row ∈ run.rows) :
    row.testList run.selectors = row.rule.tests := by
  have perm := proper.perm_testList sound member
  have one := (proper.length_tests sound member).trans single
  rcases List.length_eq_one_iff.mp one with ⟨test, onlyTest⟩
  rw [onlyTest] at perm ⊢
  exact List.perm_singleton.mp perm

/-- With one selector a set is gathered of all that the rules test for. -/
theorem gathered_right_of_single (proper : run.Proper grid) (sound : grid.Sound)
    (single : run.selectors.length = 1) : run.gathered.right =
      .set (Match.gatheredFlags 1) (Expr.distinct (Rule.pool (run.rows.map Row.rule))) := by
  have members : ∀ row ∈ run.rows, Match.joinedMembers (row.testList run.selectors) =
      row.rule.tests.flatMap fun test => test.right.members := by
    intro row member
    have one := (proper.length_tests sound member).trans single
    rcases List.length_eq_one_iff.mp one with ⟨test, onlyTest⟩
    rw [proper.testList_eq sound single member, onlyTest, List.flatMap_singleton]
    rfl
  rw [proper.gathered_right sound, single, List.flatMap_congr members, Rule.pool, List.flatMap_map]

/-- A run with one selector leaves its first rule, widened to what all its rules test for. -/
theorem fuse_eq (proper : run.Proper grid) (sound : grid.Sound)
    (folds : run.fold = .ok survivor) (single : run.selectors.length = 1) :
    Rule.fuse (run.rows.map Row.rule) = [survivor] := by
  rcases proper.split_single sound folds single with
    ⟨first, rest, before, test, after, rows, statements, noBefore, noAfter, sameOp, sameLeft, rfl⟩
  have two_le := proper.two_le
  have others : rest.map Row.rule ≠ [] := by
    rintro empty
    rw [List.map_eq_nil_iff] at empty
    rw [rows, empty, List.length_singleton] at two_le
    omega
  have gathered : run.gathered =
      test.widen (Expr.distinct (Rule.pool (run.rows.map Row.rule))) := by
    rw [Match.widen, ← sameOp, ← sameLeft, ← proper.gathered_right_of_single sound single]
  rw [gathered, rows, List.map_cons, Rule.fuse, Rule.absorb_of_ne_nil _ others, Rule.widen,
    statements, List.map_append, List.map_cons, Statement.map_widen_eq_self _ noBefore,
    Statement.map_widen_eq_self _ noAfter]
  rfl

end Run.Proper

namespace Segment

variable {grid : Grid} {segment : Segment} {survivor : Rule}

/-- Says whether a segment is a run with several selectors. -/
def isTupled : Segment → Bool
  | kept _ => false
  | merged run => run.selectors.length != 1

theorem isTupled_eq_false (sound : grid.Sound) (inGrid : segment ∈ grid.segments)
    (single : ∀ row ∈ segment.rows, row.rule.Single) : segment.isTupled = false := by
  cases segment with
  | kept row => rfl
  | merged run =>
      have proper := Grid.proper_of_mem_segments sound inGrid
      rcases proper.exists_mem with ⟨row, member⟩
      rw [isTupled, bne_eq_false_iff_eq, ← proper.length_tests sound member]
      exact (single row member).length_tests (proper.plain member)
        (proper.joins sound member member).tests_ne_nil

/-- Unless there are several selectors, the rules of a segment alone tell what it leaves. -/
theorem fuse_eq (sound : grid.Sound) (inGrid : segment ∈ grid.segments)
    (notTupled : segment.isTupled = false) (leaves : segment.survivor = .ok survivor) :
    Rule.fuse (segment.rows.map Row.rule) = [survivor] := by
  cases segment with
  | kept row =>
      cases leaves
      rfl
  | merged run =>
      rw [isTupled, bne_eq_false_iff_eq] at notTupled
      exact (Grid.proper_of_mem_segments sound inGrid).fuse_eq sound leaves notTupled

end Segment

theorem flatMap_eq_of_forall₂ {α β : Type} {each : α → List β} {inputs : List α}
    {outputs : List β} (leave : List.Forall₂ (fun input output => each input = [output]) inputs
      outputs) : inputs.flatMap each = outputs := by
  induction leave with
  | nil => rfl
  | cons leaves _ ih => rw [List.flatMap_cons, leaves, ih, List.singleton_append]

namespace Chain

variable {config : Config} {files : Files} {chain : Chain} {folded : Folded}

/-- The chain with other rules. -/
def withRules (chain : Chain) (rules : List Rule) : Chain := { chain with rules }

theorem rules_fold (folds : chain.fold config files = .ok folded)
    (single : ∀ rule ∈ chain.rules, rule.Single) :
    folded.chain.rules = Rule.fused chain.rules := by
  have sound := chain.sound_grid
  have ofSegment : ∀ segment ∈ chain.grid.segments, ∀ row ∈ segment.rows, row.rule.Single := by
    intro segment inGrid row inSegment
    apply single
    rw [← chain.map_rule_segments]
    exact List.mem_map_of_mem (List.mem_flatMap.mpr ⟨segment, inGrid, inSegment⟩)
  have fuses : List.Forall₂ (fun segment survivor =>
      Rule.fuse (segment.rows.map Row.rule) = [survivor]) chain.grid.segments
        folded.chain.rules :=
    (foldsTo_of_fold_eq_ok folds).survivors_mem.imp fun segment survivor leaves =>
      segment.fuse_eq sound leaves.1
        (segment.isTupled_eq_false sound leaves.1 (ofSegment segment leaves.1)) leaves.2
  rw [← flatMap_eq_of_forall₂ fuses, Rule.fused, ← chain.map_rule_rows,
    ← Grid.map_rules_segments sound, List.flatMap_map]

theorem exists_fold_withRules (fits : chain.grid.width ≤ config.maxShapes) {rules : List Rule}
    (sublist : (Rule.allShapes rules).Sublist (Rule.allShapes chain.rules)) :
    ∃ folded, (chain.withRules rules).fold config files = .ok folded :=
  exists_fold_of_width_le ((Grid.width_le_of_sublist sublist).trans fits)

/-- If a chain can be folded, so can its pieces. -/
theorem exists_folds_of_append {before after : List Rule}
    (folds : (chain.withRules (before ++ after)).fold config files = .ok folded) :
    ∃ first second, (chain.withRules before).fold config files = .ok first ∧
      (chain.withRules after).fold config files = .ok second := by
  have fits := (foldsTo_of_fold_eq_ok folds).width_le
  have shapes := Rule.allShapes_append before after
  rcases @exists_fold_withRules config files _ fits before
    (shapes ▸ List.sublist_append_left _ _) with ⟨first, firstFolds⟩
  rcases @exists_fold_withRules config files _ fits after
    (shapes ▸ List.sublist_append_right _ _) with ⟨second, secondFolds⟩
  exact ⟨first, second, firstFolds, secondFolds⟩

/-- A chain in which no rule can be widened in two places may be folded in pieces: if it can be
folded at once then so can its pieces, and after that what they leave, and the result is the
same. -/
theorem fold_in_pieces {before after : List Rule}
    (single : ∀ rule ∈ before ++ after, rule.statements.countP Statement.isMergeable ≤ 1)
    (folds : (chain.withRules (before ++ after)).fold config files = .ok folded) :
    ∃ first second both, (chain.withRules before).fold config files = .ok first ∧
      (chain.withRules after).fold config files = .ok second ∧
      (chain.withRules (first.chain.rules ++ second.chain.rules)).fold config files = .ok both ∧
      both.chain = folded.chain := by
  have foldsTo := foldsTo_of_fold_eq_ok folds
  have singleBefore : ∀ rule ∈ before, rule.Single :=
    fun rule member => single rule (List.mem_append_left after member)
  have singleAfter : ∀ rule ∈ after, rule.Single :=
    fun rule member => single rule (List.mem_append_right before member)
  rcases exists_folds_of_append folds with ⟨first, second, firstFolds, secondFolds⟩
  have firstRules : first.chain.rules = Rule.fused before := rules_fold firstFolds singleBefore
  have secondRules : second.chain.rules = Rule.fused after := rules_fold secondFolds singleAfter
  have folded_sublist : (Rule.allShapes (first.chain.rules ++ second.chain.rules)).Sublist
      (Rule.allShapes (before ++ after)) := by
    rw [firstRules, secondRules, Rule.allShapes_append, Rule.allShapes_append]
    exact (Rule.allShapes_fused_sublist before).append (Rule.allShapes_fused_sublist after)
  rcases @exists_fold_withRules config files _ foldsTo.width_le _ folded_sublist with
    ⟨both, bothFold⟩
  refine ⟨first, second, both, firstFolds, secondFolds, bothFold, ?_⟩
  have stillSingle : ∀ rule ∈ first.chain.rules ++ second.chain.rules, rule.Single := by
    rw [firstRules, secondRules, List.forall_mem_append]
    exact ⟨Rule.single_of_mem_fused singleBefore, Rule.single_of_mem_fused singleAfter⟩
  have rules : both.chain.rules = folded.chain.rules := by
    calc
      both.chain.rules = Rule.fused (first.chain.rules ++ second.chain.rules) :=
        rules_fold bothFold stillSingle
      _ = Rule.fused (Rule.fused before ++ Rule.fused after) := by rw [firstRules, secondRules]
      _ = Rule.fused (before ++ after) := Rule.fused_append_fused single
      _ = folded.chain.rules := (rules_fold folds single).symm
  rw [(foldsTo_of_fold_eq_ok bothFold).chain_eq, foldsTo.chain_eq, rules]
  rfl

/-- The first two rules of a run. -/
def startOfRun : Chain := .ofStatements [
  [.number (.route .mtu) 1, .verdict .accept none],
  [.number (.route .mtu) 2, .verdict .accept none]]

/-- The other rules of the run, one with a value that was there before, and a rule that is not a
part of it. -/
def restOfRun : Chain := .ofStatements [
  [.verdict .accept none, .number (.route .mtu) 2],
  [.number (.route .mtu) 3, .verdict .accept none],
  [.notrack]]

theorem fold_in_pieces_of_cut_run : ∃ first second both,
    (startOfRun.withRules startOfRun.rules).fold .standard (.ofList []) = .ok first ∧
      (startOfRun.withRules restOfRun.rules).fold .standard (.ofList []) = .ok second ∧
      (startOfRun.withRules (first.chain.rules ++ second.chain.rules)).fold .standard (.ofList []) =
        .ok both ∧
      both.chain.rules.length = 2 := by
  have fits : (startOfRun.withRules (startOfRun.rules ++ restOfRun.rules)).grid.width ≤
      Config.standard.maxShapes := by
    decide
  rcases exists_fold_of_width_le fits with ⟨folded, folds⟩
  have count : ((startOfRun.withRules (startOfRun.rules ++ restOfRun.rules)).fold .standard
      (.ofList [])).toOption.all (fun folded => folded.chain.rules.length = 2) = true := by
    decide
  rcases fold_in_pieces (by decide) folds with
    ⟨first, second, both, firstFolds, secondFolds, bothFold, same⟩
  refine ⟨first, second, both, firstFolds, secondFolds, bothFold, ?_⟩
  rw [same]
  simpa using fold_all count folds

end Chain

end Rulefold
