import Mathlib.Data.List.TakeWhile
import Rulefold.Proofs.Cases
import Rulefold.Proofs.Matching

/-!
# When folding preserves the verdict

Likeness does not see the order of the statements of a rule. Where a rule of a run decides before
it has tested everything, folding changes what becomes of some packets. `Merge.Orderly` says of a
merge that its rules test all they test before they decide, and decide as the survivor does; it
holds exactly when the survivor has the outcome of its run for every packet.
-/

namespace Rulefold

namespace Statement

theorem isFinal_iff {statement : Statement} {shape : Shape}
    (shaped : statement.shape? = some shape) : statement.isFinal = true ↔
      (∃ code target, shape = .verdict code target) ∨ ∃ reason, shape = .reject reason := by
  unfold shape? at shaped
  split at shaped <;> cases shaped <;> simp [isFinal]

theorem isFinal_iff_of_shape?_eq {first second : Statement} (same : first.shape? = second.shape?)
    (shaped : first.shape? ≠ none) : first.isFinal = true ↔ second.isFinal = true := by
  rcases Option.ne_none_iff_exists'.mp shaped with ⟨shape, isShape⟩
  rw [isFinal_iff isShape, isFinal_iff (same.symm.trans isShape)]

theorem find?_isFinal_filter_isAction (statements : List Statement) :
    (statements.filter isAction).find? isFinal = statements.find? isFinal := by
  rw [List.find?_filter]
  congr 1
  funext statement
  cases statement <;> simp [isFinal, isAction, match?]

end Statement

namespace Rule

theorem Alike.isSome_decision? {first second : Rule} (alike : first.Alike second)
    (decides : first.decision?.isSome = true) : second.decision?.isSome = true := by
  rw [decision?_isSome_iff] at decides ⊢
  rcases decides with ⟨statement, member, final⟩
  have inShapes := (alike.mem_shapes_iff _).mp (List.mem_map_of_mem member)
  rcases List.mem_map.mp inShapes with ⟨other, otherMember, same⟩
  have shaped := alike.right.shape?_ne_none otherMember
  exact ⟨other, otherMember, (Statement.isFinal_iff_of_shape?_eq same shaped).mpr final⟩

/-- A case of the rule has no case of an earlier rule in it, so a packet can get to the rule. -/
def Escapes (rule : Rule) (earlier : List Rule) : Prop :=
  ∃ case ∈ rule.cases, ∀ other ∈ earlier, ∀ otherCase ∈ other.cases, ¬otherCase ⊆ case

theorem escapes_iff {rule : Rule} {earlier : List Rule} : rule.Escapes earlier ↔
    ∃ packet : Packet, packet.passes rule = true ∧
      ∀ other ∈ earlier, ¬packet.passes other = true := by
  constructor
  · intro escapes
    rcases escapes with ⟨case, inCases, apart⟩
    refine ⟨.just case, Packet.passes_just_iff.mpr ⟨case, inCases, fun _ member => member⟩, ?_⟩
    intro other inEarlier passes
    rcases Packet.passes_just_iff.mp passes with ⟨otherCase, inOther, subset⟩
    exact apart other inEarlier otherCase inOther subset
  · intro reached
    rcases reached with ⟨packet, passes, apart⟩
    rcases Packet.passes_iff.mp passes with ⟨case, inCases, satisfied⟩
    refine ⟨case, inCases, ?_⟩
    intro other inEarlier otherCase inOther subset
    apply apart other inEarlier
    apply Packet.passes_iff.mpr
    exact ⟨otherCase, inOther, fun atom member => satisfied atom (subset member)⟩

/-- Every rule that a packet can get to decides in one way. -/
def Unanimous (rules : List Rule) (decision? : Option Statement) : Prop :=
  ∀ place (inside : place < rules.length), rules[place].Escapes (rules.take place) →
    rules[place].decision? = decision?

theorem isSome_outcome {rules : List Rule}
    (allDecide : ∀ rule ∈ rules, rule.decision?.isSome = true) (packet : Packet) :
    (packet.outcome rules).isSome = rules.any packet.passes := by
  rw [Bool.eq_iff_iff, List.any_eq_true, Option.isSome_iff_ne_none, Ne,
    Packet.outcome_eq_none_iff]
  constructor
  · intro decided
    by_contra nonePasses
    apply decided
    intro rule member passes
    exact absurd ⟨rule, member, passes⟩ nonePasses
  · intro somePasses undecided
    rcases somePasses with ⟨rule, member, passes⟩
    have decides := allDecide rule member
    rw [undecided rule member passes] at decides
    cases decides

/-- Rules that decide are unanimous when their outcome depends only on whether one is passed. -/
theorem unanimous_iff {rules : List Rule} {decision? : Option Statement}
    (allDecide : ∀ rule ∈ rules, rule.decision?.isSome = true) : Unanimous rules decision? ↔
      ∀ packet : Packet, packet.outcome rules =
        if rules.any packet.passes then decision? else none := by
  constructor
  · intro unanimous packet
    rw [← isSome_outcome allDecide]
    cases outcome : packet.outcome rules with
    | none => rfl
    | some decision =>
        rcases Packet.outcome_eq_some_iff.mp outcome with
          ⟨before, rule, after, rfl, earlier, passes, decides⟩
        have here := unanimous before.length (by simp)
        rw [List.getElem_append_right (Nat.le_refl _), List.take_left] at here
        simp only [Nat.sub_self, List.getElem_cons_zero] at here
        rw [Option.isSome_some, if_pos rfl, ← decides]
        apply here
        refine escapes_iff.mpr ⟨packet, passes, ?_⟩
        intro other inBefore otherPasses
        have otherDecides := allDecide other (by simp [inBefore])
        rw [Packet.outcome_eq_none_iff.mp earlier other inBefore otherPasses] at otherDecides
        cases otherDecides
  · intro same place inside escapes
    rcases escapes_iff.mp escapes with ⟨packet, passes, apart⟩
    have somePasses : rules.any packet.passes = true :=
      List.any_eq_true.mpr ⟨rules[place], List.getElem_mem inside, passes⟩
    have outcome := same packet
    rw [if_pos somePasses] at outcome
    rw [← outcome]
    rcases Option.isSome_iff_exists.mp (allDecide _ (List.getElem_mem inside)) with
      ⟨decision, decides⟩
    rw [decides, eq_comm]
    refine Packet.outcome_eq_some_iff.mpr ⟨rules.take place, rules[place],
      rules.drop (place + 1), ?_, ?_, passes, decides⟩
    · rw [List.getElem_cons_drop, List.take_append_drop]
    · exact Packet.outcome_eq_none_iff.mpr fun other member passes =>
        absurd passes (apart other member)

end Rule

namespace Run.Proper

variable {grid : Grid} {run : Run} {survivor : Rule}

/-- The survivor of a run decides as the first rule does. -/
theorem exists_decision?_eq (proper : run.Proper grid) (sound : grid.Sound)
    (folds : run.fold = .ok survivor) :
    ∃ first ∈ run.rows, survivor.decision? = first.rule.decision? := by
  rcases proper.split sound folds with
    ⟨first, rest, before, test, tests, after, rows, -, statements, rfl⟩
  refine ⟨first, by simp [rows], ?_⟩
  rw [Rule.decision?, Rule.decision?, statements]
  simp [List.find?_append, Statement.isFinal, Statement.find?_isFinal_filter_isAction,
    -List.find?_filter]

theorem isSome_decision? (proper : run.Proper grid) (sound : grid.Sound)
    (folds : run.fold = .ok survivor) {row : Row} (member : row ∈ run.rows) :
    row.rule.decision?.isSome = survivor.decision?.isSome := by
  rcases proper.exists_decision?_eq sound folds with ⟨first, firstMember, sameDecision⟩
  rw [sameDecision, Bool.eq_iff_iff]
  exact ⟨(proper.alike row member first firstMember).isSome_decision?,
    (proper.alike first firstMember row member).isSome_decision?⟩

theorem guard_survivor (proper : run.Proper grid) (sound : grid.Sound)
    (folds : run.fold = .ok survivor) (guarded : survivor.guard ≠ []) :
    survivor.guard = [run.gathered] := by
  have begins := survivor.guard_prefix_tests
  rw [proper.tests_survivor sound folds, List.prefix_cons_iff] at begins
  rcases begins with empty | ⟨rest, isCons, isPrefix⟩
  · exact absurd empty guarded
  · rw [isCons, List.prefix_nil.mp isPrefix]

end Run.Proper

namespace Rule

theorem Plain.eq_of_mem_cases {rule : Rule} (plain : rule.Plain) {test : Match}
    (member : test ∈ rule.tests) {case : List Match} (inCases : case ∈ test.cases) :
    ∃ field leaf, test.Tests field ∧ leaf ∈ test.right.leaves ∧ case = [.field field leaf] := by
  rcases plain.exists_tests member with ⟨field, tests⟩
  rw [tests.eq_field] at inCases
  rcases List.mem_map.mp inCases with ⟨leaf, isLeaf, rfl⟩
  exact ⟨field, leaf, tests, isLeaf, rfl⟩

theorem Plain.guard_eq_nil {rule : Rule} (plain : rule.Plain)
    (passes : (Packet.just []).passes rule = true) : rule.guard = [] := by
  rw [List.eq_nil_iff_forall_not_mem]
  intro test member
  have satisfied := List.all_eq_true.mp passes test member
  rcases Packet.satisfies_just_iff.mp satisfied with ⟨case, inCases, empty⟩
  rcases plain.eq_of_mem_cases (rule.guard_subset_tests member) inCases with
    ⟨field, leaf, -, -, rfl⟩
  simpa using empty (.field field leaf)

theorem Plain.nodup_tests {rule : Rule} (plain : rule.Plain) : rule.tests.Nodup := by
  have nodup : rule.statements.Nodup := List.Nodup.of_map _ plain.nodup
  apply nodup.filterMap
  intro first second test isFirst isSecond
  rw [Statement.match?_eq_some_iff.mp isFirst, Statement.match?_eq_some_iff.mp isSecond]

theorem Plain.exists_notMem_guard {rule : Rule} (plain : rule.Plain)
    (early : rule.guard ≠ rule.tests) : ∃ test ∈ rule.tests, test ∉ rule.guard := by
  rcases rule.guard_prefix_tests with ⟨rest, tests⟩
  have nodup := plain.nodup_tests
  rw [← tests] at nodup early ⊢
  cases rest with
  | nil => simp at early
  | cons missing rest =>
      refine ⟨missing, by simp, ?_⟩
      intro inGuard
      exact (List.nodup_append.mp nodup).2.2 missing inGuard missing (by simp) rfl

theorem Plain.eq_of_tests {rule : Rule} (plain : rule.Plain) {first second : Match}
    (firstMember : first ∈ rule.tests) (secondMember : second ∈ rule.tests) {field : Field}
    (firstTests : first.Tests field) (secondTests : second.Tests field) : first = second := by
  have same := plain.eq_of_shape?_eq (mem_tests_iff.mp firstMember) (mem_tests_iff.mp secondMember)
    (firstTests.shape?.trans secondTests.shape?.symm)
  exact Statement.matching.inj same

theorem Alike.exists_tests {first second : Rule} (alike : first.Alike second) {test : Match}
    (member : test ∈ first.tests) {field : Field} (tests : test.Tests field) :
    ∃ other ∈ second.tests, other.Tests field := by
  have inShapes := (alike.mem_shapes_iff _).mp (List.mem_map_of_mem (mem_tests_iff.mp member))
  rcases List.mem_map.mp inShapes with ⟨statement, inSecond, same⟩
  rw [tests.shape?] at same
  rcases Statement.shape?_eq_selector_iff.mp same with ⟨value, rfl⟩
  exact ⟨_, mem_tests_iff.mpr inSecond, rfl, rfl⟩

end Rule

namespace Run.Proper

variable {grid : Grid} {run : Run} {survivor : Rule}

/-- A rule of a run that decides early is passed by a packet that satisfies just its guard. -/
theorem passes_just_guard (proper : run.Proper grid) (sound : grid.Sound) {row : Row}
    (member : row ∈ run.rows) (early : row.rule.guard ≠ row.rule.tests) :
    (Packet.just row.rule.guard).passes row.rule = true := by
  rw [Packet.passes, List.all_eq_true]
  intro test inGuard
  have inTests := row.rule.guard_subset_tests inGuard
  have several : row.rule.tests.length ≠ 1 := by
    intro single
    rcases List.length_eq_one_iff.mp single with ⟨only, isOnly⟩
    have begins := row.rule.guard_prefix_tests
    rw [isOnly] at begins early
    rcases List.prefix_cons_iff.mp begins with empty | ⟨rest, isCons, isPrefix⟩
    · simp [empty] at inGuard
    · exact early (by rw [isCons, List.prefix_nil.mp isPrefix])
  have free := (proper.joins sound member member).one_or_free.resolve_left several
  have noSet := free test (List.mem_append_left _ inTests)
  rcases (proper.plain member).exists_tests inTests with ⟨field, tests⟩
  have isCase : [test] ∈ test.cases := by
    rw [tests.eq_field]
    simp [Match.cases, Match.field, Match.fieldCases, Expr.leaves_of_not_isSet noSet]
  exact Packet.satisfies_just_iff.mpr ⟨[test], isCase, by simpa using inGuard⟩

/-- No rule of a run fires for a packet that satisfies just the guard of one which decides early. -/
theorem not_fires_just_guard (proper : run.Proper grid) {row other : Row}
    (member : row ∈ run.rows) (otherMember : other ∈ run.rows)
    (early : row.rule.guard ≠ row.rule.tests) :
    ¬(Packet.just row.rule.guard).fires other.rule = true := by
  intro fires
  have plain := proper.plain member
  rcases plain.exists_notMem_guard early with ⟨missing, inTests, notInGuard⟩
  rcases plain.exists_tests inTests with ⟨field, tests⟩
  rcases (proper.alike row member other otherMember).exists_tests inTests tests with
    ⟨test, inOther, otherTests⟩
  have satisfied := List.all_eq_true.mp fires test inOther
  rw [otherTests.eq_field] at satisfied
  rcases Match.someCase_fieldCases.mp (Packet.satisfies_just_iff.mp satisfied) with
    ⟨leaf, -, inGuard⟩
  have same := plain.eq_of_tests inTests (row.rule.guard_subset_tests inGuard) tests ⟨rfl, rfl⟩
  exact notInGuard (same ▸ inGuard)

end Run.Proper

/-- The rules of a merge test before they decide what the survivor tests before it does. -/
def Merge.TestsFirst (merge : Merge) : Prop :=
  if merge.survivor.guard = [] then ∃ rule ∈ merge.rules, rule.guard = []
  else ∀ rule ∈ merge.rules, rule.guard = rule.tests

/-- The rules of a merge decide, if at all, as the survivor does: after the same tests, and in the
same way. -/
def Merge.Orderly (merge : Merge) : Prop :=
  merge.survivor.decision? = none ∨
    Rule.Unanimous merge.rules merge.survivor.decision? ∧ merge.TestsFirst

instance (rule : Rule) (earlier : List Rule) : Decidable (rule.Escapes earlier) :=
  inferInstanceAs (Decidable (∃ case ∈ rule.cases, ∀ other ∈ earlier,
    ∀ otherCase ∈ other.cases, ¬otherCase ⊆ case))

instance (rules : List Rule) (decision? : Option Statement) :
    Decidable (Rule.Unanimous rules decision?) :=
  inferInstanceAs (Decidable (∀ place (inside : place < rules.length),
    rules[place].Escapes (rules.take place) → rules[place].decision? = decision?))

instance (merge : Merge) : Decidable merge.TestsFirst :=
  inferInstanceAs (Decidable (if merge.survivor.guard = []
    then ∃ rule ∈ merge.rules, rule.guard = []
    else ∀ rule ∈ merge.rules, rule.guard = rule.tests))

instance (merge : Merge) : Decidable merge.Orderly :=
  inferInstanceAs (Decidable (merge.survivor.decision? = none ∨
    Rule.Unanimous merge.rules merge.survivor.decision? ∧ merge.TestsFirst))

namespace Run.Proper

variable {grid : Grid} {run : Run} {survivor : Rule}

theorem testsFirst_iff (proper : run.Proper grid) (sound : grid.Sound)
    (folds : run.fold = .ok survivor) : Merge.TestsFirst ⟨run, survivor⟩ ↔
      ∀ packet : Packet, packet.passes survivor = (run.rows.map Row.rule).any packet.passes := by
  unfold Merge.TestsFirst Merge.rules
  split
  · rename_i unguarded
    have alwaysPasses : ∀ packet : Packet, packet.passes survivor = true := by
      intro packet
      rw [Packet.passes, unguarded, List.all_nil]
    simp only [alwaysPasses, Bool.true_eq, List.any_eq_true]
    constructor
    · intro somebody packet
      rcases somebody with ⟨rule, member, empty⟩
      exact ⟨rule, member, by rw [Packet.passes, empty, List.all_nil]⟩
    · intro somebody
      rcases somebody (.just []) with ⟨rule, member, passes⟩
      rcases List.mem_map.mp member with ⟨row, inRun, rfl⟩
      exact ⟨row.rule, member, (proper.plain inRun).guard_eq_nil passes⟩
  · rename_i guarded
    have passes_iff : ∀ packet : Packet, packet.passes survivor = true ↔
        ∃ row ∈ run.rows, packet.fires row.rule = true := by
      intro packet
      rw [← proper.satisfies_gathered_iff sound, Packet.passes,
        proper.guard_survivor sound folds guarded]
      simp
    have anyPasses : ∀ packet : Packet, (run.rows.map Row.rule).any packet.passes = true ↔
        ∃ row ∈ run.rows, packet.passes row.rule = true := by
      intro packet
      simp
    rw [List.forall_mem_map]
    constructor
    · intro complete packet
      rw [Bool.eq_iff_iff, passes_iff, anyPasses]
      apply exists_congr
      intro row
      apply and_congr_right
      intro member
      rw [Packet.passes, complete row member, Packet.fires]
    · intro same row member
      by_contra early
      have agree := same (.just row.rule.guard)
      rw [Bool.eq_iff_iff, passes_iff, anyPasses] at agree
      rcases agree.mpr ⟨row, member, proper.passes_just_guard sound member early⟩ with
        ⟨other, inRun, fires⟩
      exact proper.not_fires_just_guard member inRun early fires

/-- A merge is orderly exactly when the survivor has the outcome of the run for every packet. -/
theorem orderly_iff (proper : run.Proper grid) (sound : grid.Sound)
    (folds : run.fold = .ok survivor) : Merge.Orderly ⟨run, survivor⟩ ↔
      ∀ packet : Packet, packet.outcome [survivor] = packet.outcome (run.rows.map Row.rule) := by
  have allDecide : ∀ rule ∈ run.rows.map Row.rule,
      rule.decision?.isSome = survivor.decision?.isSome := by
    intro rule member
    rcases List.mem_map.mp member with ⟨row, inRun, rfl⟩
    exact proper.isSome_decision? sound folds inRun
  unfold Merge.Orderly
  simp only [Packet.outcome_singleton, Packet.evaluate_eq]
  cases decided : survivor.decision? with
  | none =>
      rw [decided] at allDecide
      have undecided : ∀ packet : Packet, packet.outcome (run.rows.map Row.rule) = none := by
        intro packet
        apply Packet.outcome_eq_none_iff.mpr
        intro rule member _
        simpa using allDecide rule member
      simp [undecided]
  | some decision =>
      rw [decided] at allDecide
      rw [or_iff_right (by simp), testsFirst_iff proper sound folds]
      constructor
      · intro orderly packet
        rw [(Rule.unanimous_iff allDecide).mp orderly.1 packet, orderly.2 packet]
      · intro preserved
        have same : ∀ packet : Packet,
            packet.passes survivor = (run.rows.map Row.rule).any packet.passes := by
          intro packet
          rw [← Rule.isSome_outcome allDecide packet, ← preserved packet]
          cases packet.passes survivor <;> rfl
        refine ⟨(Rule.unanimous_iff allDecide).mpr fun packet => ?_, same⟩
        rw [← preserved packet, same packet]

end Run.Proper

/-- A rule as they are customarily written: the matches come first, and one verdict or reject, whose
target is spelled out, decides. -/
structure Rule.Customary (rule : Rule) : Prop where
  guard_eq : rule.guard = rule.tests
  final_eq : ∀ first ∈ rule.statements, ∀ second ∈ rule.statements,
    first.isFinal = true → second.isFinal = true → first = second
  literal : ∀ code target, .verdict code (some target) ∈ rule.statements →
    ∃ value, target = .literal value

theorem Statement.eq_of_isFinal {first second : Statement} (final : first.isFinal = true)
    (shaped : first.shape? ≠ none) (same : first.shape? = second.shape?)
    (firstLiteral : ∀ code target, first = .verdict code (some target) →
      ∃ value, target = .literal value)
    (secondLiteral : ∀ code target, second = .verdict code (some target) →
      ∃ value, target = .literal value) : first = second := by
  have otherFinal := (isFinal_iff_of_shape?_eq same shaped).mp final
  cases first with
  | verdict code target =>
      cases second with
      | verdict otherCode otherTarget =>
          simp only [shape?, Option.some_inj, Shape.verdict.injEq] at same
          rcases same with ⟨rfl, sameTarget⟩
          cases target with
          | none =>
              rw [Option.map_none, eq_comm, Option.map_eq_none_iff] at sameTarget
              rw [sameTarget]
          | some target =>
              cases otherTarget with
              | none => cases sameTarget
              | some otherTarget =>
                  rcases firstLiteral code target rfl with ⟨value, rfl⟩
                  rcases secondLiteral code otherTarget rfl with ⟨otherValue, rfl⟩
                  cases sameTarget
                  rfl
      | reject answer =>
          rcases answer with ⟨message, reason⟩
          cases message <;> cases same
      | _ => cases otherFinal
  | reject answer =>
      cases second with
      | verdict code target =>
          rcases answer with ⟨message, reason⟩
          cases message <;> cases same
      | reject otherAnswer =>
          rcases answer with ⟨message, reason⟩
          rcases otherAnswer with ⟨otherMessage, otherReason⟩
          cases message with
          | some message => exact absurd rfl shaped
          | none =>
              cases otherMessage <;> cases same
              rfl
      | _ => cases otherFinal
  | _ => cases final

namespace Rule

theorem Alike.decision?_eq {first second : Rule} (alike : first.Alike second)
    (firstCustomary : first.Customary) (secondCustomary : second.Customary) :
    first.decision? = second.decision? := by
  cases decides : first.decision? with
  | none =>
      cases otherDecides : second.decision? with
      | none => rfl
      | some decision =>
          have someDecision := alike.symm.isSome_decision? (by simp [otherDecides])
          simp [decides] at someDecision
  | some decision =>
      rcases Option.isSome_iff_exists.mp (alike.isSome_decision? (by simp [decides])) with
        ⟨otherDecision, otherDecides⟩
      rw [otherDecides, Option.some_inj]
      have member := List.mem_of_find?_eq_some decides
      have final := List.find?_some decides
      rcases List.mem_map.mp ((alike.mem_shapes_iff _).mp (List.mem_map_of_mem member)) with
        ⟨other, otherMember, same⟩
      have shaped := alike.left.shape?_ne_none member
      have isOther : decision = other := by
        apply Statement.eq_of_isFinal final shaped same.symm
        · rintro code target rfl
          exact firstCustomary.literal code target member
        · rintro code target rfl
          exact secondCustomary.literal code target otherMember
      have otherFinal := (Statement.isFinal_iff_of_shape?_eq same.symm shaped).mp final
      rw [isOther]
      exact secondCustomary.final_eq other otherMember otherDecision
        (List.mem_of_find?_eq_some otherDecides) otherFinal (List.find?_some otherDecides)

end Rule

namespace Run.Proper

variable {grid : Grid} {run : Run} {survivor : Rule}

theorem guard_survivor_ne_nil (proper : run.Proper grid) (sound : grid.Sound)
    (folds : run.fold = .ok survivor)
    (complete : ∀ row ∈ run.rows, row.rule.guard = row.rule.tests) : survivor.guard ≠ [] := by
  rcases proper.split sound folds with
    ⟨first, rest, before, test, tests, after, rows, -, statements, rfl⟩
  have firstMember : first ∈ run.rows := by
    simp [rows]
  have nodup : first.rule.statements.Nodup := List.Nodup.of_map _ (proper.plain firstMember).nodup
  have inGuard : test ∈ first.rule.guard := by
    rw [complete first firstMember, Rule.mem_tests_iff, statements]
    simp
  rcases List.mem_filterMap.mp inGuard with ⟨statement, reached, isTest⟩
  rw [Statement.match?_eq_some_iff.mp isTest, statements] at reached
  have allBefore : ∀ statement ∈ before, statement.isFinal = false := by
    intro statement member
    rw [statements, List.nodup_append] at nodup
    rw [List.takeWhile_append] at reached
    split at reached
    · rename_i wholeLength
      have whole := (List.takeWhile_prefix _).eq_of_length wholeLength
      simpa using List.takeWhile_eq_self_iff.mp whole statement member
    · have inBefore := (List.takeWhile_prefix _).subset reached
      exact absurd rfl (nodup.2.2 _ inBefore _ (by simp))
  have reachesGathered : run.gathered ∈ Rule.guard { first.rule with
      statements := before.filter Statement.isAction ++
        .matching run.gathered :: after.filter Statement.isAction } := by
    rw [Rule.guard, List.takeWhile_append_of_pos, List.takeWhile_cons_of_pos (by rfl)]
    · simp [Statement.match?]
    · intro statement member
      simp [allBefore statement (List.mem_filter.mp member).1]
  exact List.ne_nil_of_mem reachesGathered

theorem orderly_of_customary (proper : run.Proper grid) (sound : grid.Sound)
    (folds : run.fold = .ok survivor) (customary : ∀ row ∈ run.rows, row.rule.Customary) :
    Merge.Orderly ⟨run, survivor⟩ := by
  right
  constructor
  · intro place inside _
    rcases List.mem_map.mp (List.getElem_mem inside) with ⟨row, inRun, isRule⟩
    rcases proper.exists_decision?_eq sound folds with ⟨first, firstMember, sameDecision⟩
    rw [← isRule, sameDecision]
    exact (proper.alike row inRun first firstMember).decision?_eq (customary row inRun)
      (customary first firstMember)
  · have complete : ∀ row ∈ run.rows, row.rule.guard = row.rule.tests :=
      fun row inRun => (customary row inRun).guard_eq
    rw [Merge.TestsFirst, if_neg (proper.guard_survivor_ne_nil sound folds complete)]
    exact List.forall_mem_map.mpr complete

end Run.Proper

theorem Packet.outcome_survivors {packet : Packet} {segments : List Segment}
    {survivors : List Rule} (agree : List.Forall₂ (fun segment survivor =>
      packet.outcome [survivor] = packet.outcome (segment.rows.map Row.rule))
      segments survivors) :
    packet.outcome survivors =
      packet.outcome ((segments.flatMap Segment.rows).map Row.rule) := by
  induction agree with
  | nil => rfl
  | @cons segment survivor segments survivors here _ ih =>
      rw [List.flatMap_cons, List.map_append, Packet.outcome_append, ← here, ← ih,
        ← Packet.outcome_append, List.singleton_append]

namespace Chain

variable {config : Config} {files : Files} {chain : Chain} {folded : Folded}

theorem orderly_iff_of_mem_merges (folds : chain.fold config files = .ok folded) {merge : Merge}
    (member : merge ∈ folded.merges) : merge.Orderly ↔
      ∀ packet : Packet, packet.outcome [merge.survivor] = packet.outcome merge.rules := by
  rcases (foldsTo_of_fold_eq_ok folds).of_mem_merges member with ⟨isRun, isSurvivor⟩
  exact (Grid.proper_of_mem_segments chain.sound_grid isRun).orderly_iff chain.sound_grid
    isSurvivor

/-- A chain whose merges are orderly has the same outcome after folding, for every packet. -/
theorem outcome_fold_of_orderly (folds : chain.fold config files = .ok folded)
    (orderly : ∀ merge ∈ folded.merges, merge.Orderly) (packet : Packet) :
    packet.outcome folded.chain.rules = packet.outcome chain.rules := by
  have foldsTo := foldsTo_of_fold_eq_ok folds
  rw [← chain.map_rule_segments]
  apply Packet.outcome_survivors
  rcases List.forall₂_iff_zip.mp foldsTo.survivors with ⟨sameLength, survives⟩
  refine List.forall₂_iff_zip.mpr ⟨sameLength, fun {segment survivor} member => ?_⟩
  cases segment with
  | kept row =>
      cases survives member
      rfl
  | merged run =>
      have isMerge : ⟨run, survivor⟩ ∈ folded.merges := by
        rw [foldsTo.merges_eq, mem_mergesOf_iff]
        exact member
      exact (orderly_iff_of_mem_merges folds isMerge).mp (orderly _ isMerge) packet

/-- In a chain of customary rules folding changes no outcome. -/
theorem outcome_fold_of_customary (folds : chain.fold config files = .ok folded)
    (customary : ∀ rule ∈ chain.rules, rule.Customary) (packet : Packet) :
    packet.outcome folded.chain.rules = packet.outcome chain.rules := by
  apply outcome_fold_of_orderly folds
  intro merge member
  rcases (foldsTo_of_fold_eq_ok folds).of_mem_merges member with ⟨isRun, isSurvivor⟩
  have proper := Grid.proper_of_mem_segments chain.sound_grid isRun
  apply proper.orderly_of_customary chain.sound_grid isSurvivor
  intro row inRun
  exact customary row.rule (rule_mem (proper.mem_grid row inRun))

/-- Folding preserves the outcome exactly when it does so for the packets that just satisfy two of
the cases of the rules. Merge by merge it does exactly when the merge is orderly, and it does
altogether when all merges are. -/
theorem outcome_fold_iff (folds : chain.fold config files = .ok folded) :
    ((∀ packet : Packet, packet.outcome folded.chain.rules = packet.outcome chain.rules) ↔
        ∀ case ∈ (folded.chain.rules ++ chain.rules).flatMap Rule.cases,
          ∀ other ∈ (folded.chain.rules ++ chain.rules).flatMap Rule.cases,
            (Packet.just (case ++ other)).outcome folded.chain.rules =
              (Packet.just (case ++ other)).outcome chain.rules) ∧
      (∀ merge ∈ folded.merges, merge.Orderly ↔
        ∀ packet : Packet, packet.outcome [merge.survivor] = packet.outcome merge.rules) ∧
      ((∀ merge ∈ folded.merges, merge.Orderly) → ∀ packet : Packet,
        packet.outcome folded.chain.rules = packet.outcome chain.rules) :=
  ⟨Packet.outcome_eq_iff, fun _ member => orderly_iff_of_mem_merges folds member,
    outcome_fold_of_orderly folds⟩

theorem outcome_fold_mixed : ∃ folded, mixed.fold .standard (.ofList []) = .ok folded ∧
    ∀ packet : Packet, packet.outcome folded.chain.rules = packet.outcome mixed.rules := by
  have fits : mixed.grid.width ≤ Config.standard.maxShapes := by
    decide
  rcases exists_fold_of_width_le fits with ⟨folded, folds⟩
  have orderly : (mixed.fold .standard (.ofList [])).toOption.all
      (fun folded => folded.merges.all fun merge => decide merge.Orderly) = true := by
    decide
  refine ⟨folded, folds, (outcome_fold_iff folds).2.2 ?_⟩
  simpa using fold_all orderly folds

/-- The targets of all verdicts are spelled out. -/
def LiteralTargets (chain : Chain) : Prop :=
  ∀ rule ∈ chain.rules, ∀ code target, .verdict code (some target) ∈ rule.statements →
    ∃ value, target = .literal value

/-- A rule that tests before it accepts, and one that accepts before it tests. -/
def disorderly : Chain := .ofStatements [
  [.number (.payload .tcp "dport") 22, .verdict .accept none],
  [.verdict .accept none, .number (.payload .tcp "dport") 23]]

theorem outcome_fold_disorderly : ¬∀ (chain : Chain) (config : Config) (files : Files)
    (folded : Folded), chain.LiteralTargets → chain.fold config files = .ok folded →
      ∀ packet : Packet, packet.outcome folded.chain.rules = packet.outcome chain.rules := by
  intro preserved
  have fits : disorderly.grid.width ≤ Config.standard.maxShapes := by
    decide
  rcases exists_fold_of_width_le fits with ⟨folded, folds⟩
  have literal : disorderly.LiteralTargets := by
    intro rule member code target isVerdict
    simp [disorderly, ofStatements, Statement.number] at member
    rcases member with rfl | rfl <;> simp at isVerdict
  have differs : (disorderly.fold .standard (.ofList [])).toOption.all (fun folded =>
      (Packet.just []).outcome folded.chain.rules !=
        (Packet.just []).outcome disorderly.rules) = true := by
    decide
  have same := preserved disorderly .standard (.ofList []) folded literal folds (.just [])
  simpa [same] using fold_all differs folds

end Chain

end Rulefold
