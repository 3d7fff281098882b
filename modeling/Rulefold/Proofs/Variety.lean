import Mathlib.Data.Finset.Card
import Mathlib.Data.Finset.Image
import Rulefold.Proofs.FixedPoint
import Rulefold.Proofs.Width

/-!
# How varied a chain is

The variety of a chain is the number of classes of its alike statements, where a statement that is
alike to none, not even to itself, counts by itself each time it occurs. Laying out a chain column
by column arrives at this number, whatever the order of the statements. So a chain can be folded
exactly when its variety is within the capacity, and beyond that the capacity has no effect.
-/

namespace Rulefold

namespace Statement

/-- Says whether a statement is alike to itself. -/
def isShaped (statement : Statement) : Bool := alike (some statement) (some statement)

/-- The statements of a list that are alike to a given one. -/
def kin (statements : List Statement) (statement : Statement) : Finset Statement :=
  statements.toFinset.filter fun other => alike (some statement) (some other)

/-- The classes of alike statements in a list. -/
def classes (statements : List Statement) : Finset (Finset Statement) :=
  (statements.toFinset.filter fun statement => statement.isShaped).image (kin statements)

/-- The number of classes of alike statements in a list, and of occurrences of statements that are
alike to none. -/
def variety (statements : List Statement) : Nat :=
  (classes statements).card + statements.countP fun statement => !statement.isShaped

theorem isShaped_iff {statement : Statement} :
    statement.isShaped = true ↔ ∃ shape, statement.shape? = some shape := by
  rw [isShaped, alike_some_iff]
  simp only [and_self]

/-- The statements of a list that have a given shape. -/
def ofShape (statements : List Statement) (shape : Shape) : Finset Statement :=
  statements.toFinset.filter fun statement => statement.shape? = some shape

theorem kin_eq_ofShape {statement : Statement} {shape : Shape}
    (shaped : statement.shape? = some shape) (statements : List Statement) :
    kin statements statement = ofShape statements shape := by
  apply Finset.filter_congr
  intro other _
  rw [alike_some_iff, shaped]
  simp

theorem mem_classes_iff {statements : List Statement} {members : Finset Statement} :
    members ∈ classes statements ↔
      ∃ shape, some shape ∈ statements.map shape? ∧ ofShape statements shape = members := by
  simp only [classes, Finset.mem_image, Finset.mem_filter, List.mem_toFinset, isShaped_iff,
    List.mem_map]
  constructor
  · rintro ⟨statement, ⟨member, shape, shaped⟩, rfl⟩
    exact ⟨shape, ⟨statement, member, shaped⟩, (kin_eq_ofShape shaped statements).symm⟩
  · rintro ⟨shape, ⟨statement, member, shaped⟩, rfl⟩
    exact ⟨statement, ⟨member, shape, shaped⟩, kin_eq_ofShape shaped statements⟩

/-- A shape that occurs is told by the statements that have it. -/
theorem ofShape_inj {statements : List Statement} {first second : Shape}
    (occurs : some first ∈ statements.map shape?)
    (same : ofShape statements first = ofShape statements second) : first = second := by
  rcases List.mem_map.mp occurs with ⟨statement, member, shaped⟩
  have inFirst : statement ∈ ofShape statements first :=
    Finset.mem_filter.mpr ⟨List.mem_toFinset.mpr member, shaped⟩
  rw [same] at inFirst
  exact Option.some.inj (shaped.symm.trans (Finset.mem_filter.mp inFirst).2)

/-- There are as many classes as shapes. -/
theorem card_classes {statements : List Statement} {shapes : List Shape} (nodup : shapes.Nodup)
    (mem_iff : ∀ shape, shape ∈ shapes ↔ some shape ∈ statements.map shape?) :
    (classes statements).card = shapes.length := by
  have image : classes statements = shapes.toFinset.image (ofShape statements) := by
    ext members
    simp only [mem_classes_iff, Finset.mem_image, List.mem_toFinset, mem_iff]
  have injective : Set.InjOn (ofShape statements) (shapes.toFinset : Set Shape) := by
    intro first firstMember second _ same
    rw [Finset.mem_coe, List.mem_toFinset, mem_iff] at firstMember
    exact ofShape_inj firstMember same
  rw [image, Finset.card_image_of_injOn injective, List.toFinset_card_of_nodup nodup]

end Statement

theorem Rule.allShapes_eq_map (rules : List Rule) :
    allShapes rules = (rules.flatMap statements).map Statement.shape? :=
  List.map_flatMap.symm

/-- Laying out rules finds a column for each class of statements and each statement that is alike to
none. -/
theorem Grid.width_ofRules_eq_variety (rules : List Rule) :
    (ofRules rules).width = Statement.variety (rules.flatMap Rule.statements) := by
  have kinds : ∀ shape, shape ∈ Rule.kinds rules ↔
      some shape ∈ (rules.flatMap Rule.statements).map Statement.shape? := by
    intro shape
    rw [Rule.mem_kinds_iff, Rule.allShapes_eq_map]
  have shapeless : Rule.shapeless rules =
      (rules.flatMap Rule.statements).countP fun statement => !statement.isShaped := by
    rw [Rule.shapeless, Rule.allShapes_eq_map, List.count, List.countP_map]
    apply List.countP_congr
    intro statement _
    rw [Bool.not_eq_true', Statement.isShaped, Bool.eq_false_iff, Ne, Statement.alike_some_iff]
    cases shaped : statement.shape? <;> simp [shaped]
  rw [width_ofRules, Statement.variety, Statement.card_classes (Rule.nodup_kinds rules) kinds,
    shapeless]

namespace Chain

variable {files : Files} {chain : Chain}

/-- The variety of the statements of a chain. -/
def variety (chain : Chain) : Nat := Statement.variety (chain.rules.flatMap Rule.statements)

theorem width_grid (chain : Chain) : chain.grid.width = chain.variety :=
  Grid.width_ofRules_eq_variety chain.rules

/-- A capacity that suffices has no effect on what folding leaves and reports. -/
theorem fold_eq_of_width_le {first second : Config} (sameAudit : first.audit = second.audit)
    (firstFits : chain.grid.width ≤ first.maxShapes)
    (secondFits : chain.grid.width ≤ second.maxShapes) :
    chain.fold first files = chain.fold second files := by
  rw [grid] at firstFits secondFits
  rw [fold_eq, fold_eq, Grid.ofRulesWithin_eq, if_pos firstFits, Grid.ofRulesWithin_eq,
    if_pos secondFits]
  simp only [report, reportRemarks, sameAudit]

variable {σ : Type} {sink : Sink σ} {state : σ} {config : Config}

theorem foldInto_of_fold_eq_error {failure : PassError}
    (fails : chain.fold config files = .error failure) :
    chain.foldInto sink state config files =
      { chain, merges := .error failure, diagnostics := [], state } := by
  rw [foldInto, fails]

theorem foldInto_of_fold_eq_ok {folded : Folded} (folds : chain.fold config files = .ok folded) :
    (chain.foldInto sink state config files).chain = folded.chain ∧
      (chain.foldInto sink state config files).merges = .ok folded.merges.length := by
  rw [foldInto, folds]
  exact ⟨rfl, rfl⟩

/-- The capacity decides whether a chain is folded, exactly at its variety, and nothing else. A
chain that is more varied stays as it is, and nothing is reported; with any two capacities that
suffice the chain, the number of merges, the report and the diagnostics are the same. -/
theorem foldInto_within (chain : Chain) (files : Files) (audit : Bool) {σ : Type} (sink : Sink σ)
    (state : σ) :
    (∀ max, (chain.foldInto sink state ⟨max, audit⟩ files).merges = .error (.tooManyShapes max) ↔
      max < chain.variety) ∧
    (∀ max, max < chain.variety →
      (chain.foldInto sink state ⟨max, audit⟩ files).chain = chain ∧
        (chain.foldInto sink state ⟨max, audit⟩ files).state = state) ∧
    ∀ first second, chain.variety ≤ first → chain.variety ≤ second →
      (∃ count, (chain.foldInto sink state ⟨first, audit⟩ files).merges = .ok count) ∧
        chain.foldInto sink state ⟨first, audit⟩ files =
          chain.foldInto sink state ⟨second, audit⟩ files := by
  have fails : ∀ max, max < chain.variety →
      chain.fold ⟨max, audit⟩ files = .error (.tooManyShapes max) := by
    intro max tooVaried
    rw [← width_grid] at tooVaried
    exact fold_eq_error_iff.mpr ⟨tooVaried, rfl⟩
  have succeeds : ∀ max, chain.variety ≤ max →
      ∃ count, (chain.foldInto sink state ⟨max, audit⟩ files).merges = .ok count := by
    intro max enough
    have fits : chain.grid.width ≤ (Config.mk max audit).maxShapes := by
      rw [width_grid]
      exact enough
    rcases exists_fold_of_width_le fits with ⟨folded, folds⟩
    exact ⟨_, (foldInto_of_fold_eq_ok folds).2⟩
  refine ⟨?_, ?_, ?_⟩
  · intro max
    constructor
    · intro failed
      by_contra fits
      rcases succeeds max (Nat.le_of_not_lt fits) with ⟨count, succeeded⟩
      rw [succeeded] at failed
      cases failed
    · intro tooVaried
      rw [foldInto_of_fold_eq_error (fails max tooVaried)]
  · intro max tooVaried
    rw [foldInto_of_fold_eq_error (fails max tooVaried)]
    exact ⟨rfl, rfl⟩
  · intro first second firstFits secondFits
    refine ⟨succeeds first firstFits, ?_⟩
    rw [← width_grid] at firstFits secondFits
    have same : chain.fold ⟨first, audit⟩ files = chain.fold ⟨second, audit⟩ files :=
      fold_eq_of_width_le rfl firstFits secondFits
    rw [foldInto, foldInto, same]

theorem foldInto_within_crowded :
    crowded.variety = 3 ∧
      (crowded.foldInto Buffer.sink (.empty none) ⟨2, true⟩ (.ofList [])).merges =
        .error (.tooManyShapes 2) ∧
      (crowded.foldInto Buffer.sink (.empty none) ⟨2, true⟩ (.ofList [])).chain = crowded ∧
      (crowded.foldInto Buffer.sink (.empty none) ⟨2, true⟩ (.ofList [])).state = .empty none ∧
      crowded.foldInto Buffer.sink (.empty none) ⟨3, true⟩ (.ofList []) =
        crowded.foldInto Buffer.sink (.empty none) .standard (.ofList []) := by
  have three : crowded.variety = 3 := by
    rw [← width_grid]
    decide
  rcases foldInto_within crowded (.ofList []) true Buffer.sink (.empty none) with
    ⟨fails_iff, unchanged, same⟩
  rcases unchanged 2 (by omega) with ⟨sameChain, sameState⟩
  exact ⟨three, (fails_iff 2).mpr (by omega), sameChain, sameState,
    (same 3 32 (by omega) (by omega)).2⟩

end Chain

end Rulefold
