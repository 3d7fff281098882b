import Rulefold.Proofs.Commands
import Rulefold.Proofs.FixedPoint
import Rulefold.Proofs.Width

/-!
# Capacity after folding

A fold with several selectors leaves a concatenation, which has a column to itself. On the other
hand the columns of its selectors may be needed no more. So a folded chain may be wider than it was
before, and a second pass may fail where the first did not; `Chain.width_fold` says by how much the
width changes, and `fold_twice` what that means for a second pass.
-/

namespace Rulefold

/-- Says whether the run of a merge has several selectors. -/
def Merge.isTupled (merge : Merge) : Bool := merge.run.selectors.length != 1

theorem Rule.shapeless_append (first second : List Rule) :
    shapeless (first ++ second) = shapeless first + shapeless second := by
  rw [shapeless, allShapes_append, List.count_append, shapeless, shapeless]

theorem Rule.shapeless_eq_zero {rules : List Rule} (plain : ∀ rule ∈ rules, rule.Plain) :
    shapeless rules = 0 := by
  rw [shapeless, List.count_eq_zero, allShapes, List.mem_flatMap]
  intro found
  rcases found with ⟨rule, member, inShapes⟩
  exact (plain rule member).shaped inShapes

namespace Segment

variable {grid : Grid} {segment : Segment} {survivor : Rule}

/-- A survivor has as many statements without a shape as the rules of its segment, and one more if
they are a run with several selectors. -/
theorem count_none_survivor (sound : grid.Sound) (inGrid : segment ∈ grid.segments)
    (leaves : segment.survivor = .ok survivor) :
    survivor.shapes.count none = Rule.shapeless (segment.rows.map Row.rule) +
      (segment.run?.map fun run => Merge.mk run survivor).toList.countP Merge.isTupled := by
  cases segment with
  | kept row =>
      cases leaves
      simp [rows, run?, Rule.shapeless, Rule.allShapes]
  | merged run =>
      have proper := Grid.proper_of_mem_segments sound inGrid
      have noneBefore : Rule.shapeless (run.rows.map Row.rule) = 0 := by
        apply Rule.shapeless_eq_zero
        rw [List.forall_mem_map]
        exact fun row member => proper.plain member
      rw [rows, noneBefore]
      rcases proper.shapes_survivor sound leaves with
        ⟨first, firstMember, ⟨single, shapes⟩ | ⟨several, before, after, shapes, subset⟩⟩
      · have shaped := (proper.plain firstMember).shaped
        simp [shapes, run?, Merge.isTupled, single, List.count_eq_zero_of_not_mem shaped]
      · have shaped : none ∉ before ++ after := fun member =>
          (proper.plain firstMember).shaped (subset member)
        rw [List.mem_append, not_or] at shaped
        simp [shapes, run?, Merge.isTupled, several, List.count_eq_zero_of_not_mem shaped.1,
          List.count_eq_zero_of_not_mem shaped.2]

theorem exists_mem_shapes (sound : grid.Sound) (inGrid : segment ∈ grid.segments)
    (leaves : segment.survivor = .ok survivor) {shape : Shape}
    (member : some shape ∈ survivor.shapes) :
    ∃ row ∈ segment.rows, some shape ∈ row.rule.shapes := by
  cases segment with
  | kept row =>
      cases leaves
      exact ⟨row, by simp [rows], member⟩
  | merged run =>
      have proper := Grid.proper_of_mem_segments sound inGrid
      rcases proper.shapes_survivor sound leaves with
        ⟨first, firstMember, ⟨-, shapes⟩ | ⟨-, before, after, shapes, subset⟩⟩
      · exact ⟨first, firstMember, shapes ▸ member⟩
      · refine ⟨first, firstMember, subset ?_⟩
        simpa [shapes] using member

end Segment

namespace Chain

variable {config : Config} {files : Files} {chain : Chain} {folded : Folded}

theorem shapeless_survivors {grid : Grid} {segments : List Segment} {survivors : List Rule}
    (sound : grid.Sound) (leave : List.Forall₂ (fun segment survivor =>
      segment ∈ grid.segments ∧ segment.survivor = .ok survivor) segments survivors) :
    Rule.shapeless survivors =
      Rule.shapeless ((segments.flatMap Segment.rows).map Row.rule) +
        (mergesOf segments survivors).countP Merge.isTupled := by
  induction leave with
  | nil => rfl
  | cons leaves _ ih =>
      rw [Rule.shapeless_cons, ih, mergesOf_cons, List.countP_append, List.flatMap_cons,
        List.map_append, Rule.shapeless_append,
        Segment.count_none_survivor sound leaves.1 leaves.2]
      omega

theorem allShapes_fold_subset (folds : chain.fold config files = .ok folded) {shape : Shape}
    (member : some shape ∈ Rule.allShapes folded.chain.rules) :
    some shape ∈ Rule.allShapes chain.rules := by
  rcases List.mem_flatMap.mp member with ⟨survivor, isSurvivor, inShapes⟩
  rcases List.forall₂_iff_zip.mp (foldsTo_of_fold_eq_ok folds).survivors with
    ⟨sameLength, leaves⟩
  rw [← List.map_snd_zip (Nat.le_of_eq sameLength.symm), List.mem_map] at isSurvivor
  rcases isSurvivor with ⟨⟨segment, survivor⟩, inZip, rfl⟩
  have inGrid := (List.of_mem_zip inZip).1
  rcases Segment.exists_mem_shapes chain.sound_grid inGrid (leaves inZip) inShapes with
    ⟨row, inSegment, inRow⟩
  refine List.mem_flatMap.mpr ⟨row.rule, ?_, inRow⟩
  rw [← chain.map_rule_segments]
  exact List.mem_map_of_mem (List.mem_flatMap.mpr ⟨segment, inGrid, inSegment⟩)

/-- The shapes of a chain that are left in no rule after folding. -/
def lost (chain : Chain) (folded : Folded) : List Shape :=
  (Rule.kinds chain.rules).filter fun shape => some shape ∉ Rule.allShapes folded.chain.rules

/-- Folding adds a column for each run with several selectors, and takes away those of the shapes
that are lost. -/
theorem width_fold (folds : chain.fold config files = .ok folded) :
    folded.chain.grid.width + (chain.lost folded).length =
      chain.grid.width + folded.merges.countP Merge.isTupled := by
  have foldsTo := foldsTo_of_fold_eq_ok folds
  have shapeless := shapeless_survivors chain.sound_grid foldsTo.survivors_mem
  rw [map_rule_segments, ← foldsTo.merges_eq] at shapeless
  have kept : ((Rule.kinds chain.rules).filter fun shape =>
      some shape ∈ Rule.allShapes folded.chain.rules).Perm (Rule.kinds folded.chain.rules) := by
    rw [List.perm_ext_iff_of_nodup ((Rule.nodup_kinds _).filter _) (Rule.nodup_kinds _)]
    intro shape
    rw [List.mem_filter, Rule.mem_kinds_iff, Rule.mem_kinds_iff, decide_eq_true_iff]
    exact and_iff_right_of_imp (allShapes_fold_subset folds)
  have kinds := List.length_eq_length_filter_add (l := Rule.kinds chain.rules)
    fun shape => decide (some shape ∈ Rule.allShapes folded.chain.rules)
  rw [kept.length_eq] at kinds
  have sameLost : (chain.lost folded).length = ((Rule.kinds chain.rules).filter fun shape =>
      !decide (some shape ∈ Rule.allShapes folded.chain.rules)).length := by
    simp [lost]
  rw [grid, grid, Grid.width_ofRules, Grid.width_ofRules]
  omega

/-- A second pass with the same capacity has nothing to do if the folded chain fits, and fails if
it does not. -/
theorem fold_folded (folds : chain.fold config files = .ok folded) (laterFiles : Files) :
    if folded.chain.grid.width ≤ config.maxShapes then
      ∃ again, folded.chain.fold config laterFiles = .ok again ∧ again.merges = [] ∧
        again.chain = folded.chain
    else folded.chain.fold config laterFiles = .error (.tooManyShapes config.maxShapes) := by
  split
  · rename_i fits
    rcases exists_fold_of_width_le fits with ⟨again, foldsAgain⟩
    rcases (settled_of_fold folds).fold foldsAgain with ⟨unchanged, noMerges, -⟩
    exact ⟨again, foldsAgain, noMerges, unchanged⟩
  · rename_i tooWide
    exact fold_eq_error_iff.mpr ⟨Nat.lt_of_not_le tooWide, rfl⟩

/-- Says whether the pass leaves a chain as it is because it has too many shapes. -/
def isOverCapacity (config : Config) (chain : Chain) : Bool :=
  !chain.isOffloaded && decide (config.maxShapes < chain.grid.width)

/-- The pass folds the chain, and afterwards it has too many shapes. -/
def Outgrows (config : Config) (files : Files) (chain : Chain) : Prop :=
  chain.isOffloaded = false ∧
    ∃ folded, chain.fold config files = .ok folded ∧ config.maxShapes < folded.chain.grid.width

theorem outgrows_iff {config : Config} {files : Files} {chain : Chain} :
    chain.Outgrows config files ↔ chain.isOffloaded = false ∧
      (chain.fold config files).toOption.any
        (fun folded => config.maxShapes < folded.chain.grid.width) = true := by
  rw [Outgrows]
  cases chain.fold config files <;> simp [Except.toOption]

instance (config : Config) (files : Files) (chain : Chain) :
    Decidable (chain.Outgrows config files) :=
  decidable_of_iff' _ outgrows_iff

theorem failedChains_pass (config : Config) (files : Files) (table : String) (chain : Chain) :
    (chain.pass config files table).summary.failedChains =
      if chain.isOverCapacity config then [(table, chain.name)] else [] := by
  unfold isOverCapacity
  rcases pass_cases config files table chain with ⟨offloaded, -, summary⟩ |
    ⟨notOffloaded, tooWide, -, summary⟩ | ⟨notOffloaded, folded, folds, -, summary⟩
  · simp [summary, offloaded]
  · simp [summary, notOffloaded, tooWide]
  · simp [summary, Nat.not_lt.mpr (foldsTo_of_fold_eq_ok folds).width_le]

theorem name_pass (config : Config) (files : Files) (table : String) (chain : Chain) :
    (chain.pass config files table).result.name = chain.name := by
  rcases pass_cases config files table chain with ⟨-, result, -⟩ | ⟨-, -, result, -⟩ |
    ⟨-, folded, folds, result, -⟩
  · rw [result]
  · rw [result]
  · rw [result, (foldsTo_of_fold_eq_ok folds).chain_eq]

theorem isOverCapacity_pass_iff (config : Config) (files : Files) (table : String)
    (chain : Chain) : (chain.pass config files table).result.isOverCapacity config = true ↔
      chain.isOverCapacity config = true ∨ chain.Outgrows config files := by
  unfold isOverCapacity Outgrows
  rcases pass_cases config files table chain with ⟨offloaded, result, -⟩ |
    ⟨notOffloaded, tooWide, result, -⟩ | ⟨notOffloaded, folded, folds, result, -⟩
  · simp [result, offloaded]
  · simp [result, notOffloaded, tooWide]
  · have foldsTo := foldsTo_of_fold_eq_ok folds
    have sameFlags : folded.chain.isOffloaded = false := by
      rw [foldsTo.chain_eq]
      exact notOffloaded
    simp [result, folds, notOffloaded, sameFlags, Nat.not_lt.mpr foldsTo.width_le]

end Chain

/-- The chains that failed are those among the chains worked on that have too many shapes. -/
theorem failedChains_pass (config : Config) (files : Files) (commands : List Command) :
    (pass config files commands).summary.failedChains =
      ((worked commands).filter fun entry => entry.2.isOverCapacity config).map
        fun entry => (entry.1, entry.2.name) := by
  rw [summary_pass, Summary.failedChains_sum, List.flatMap_map]
  simp only [Chain.failedChains_pass]
  induction worked commands with
  | nil => rfl
  | cons entry rest ih =>
      rw [List.flatMap_cons, ih, List.filter_cons]
      cases entry.2.isOverCapacity config <;> rfl

theorem Chain.Outgrows.not_isOverCapacity {config : Config} {files : Files} {chain : Chain}
    (outgrows : chain.Outgrows config files) : chain.isOverCapacity config = false := by
  rcases outgrows with ⟨-, folded, folds, -⟩
  have fits := (foldsTo_of_fold_eq_ok folds).width_le
  simp [isOverCapacity, Nat.not_lt.mpr fits]

/-- The second of two passes fails on the chains that the first fails on, and otherwise on those
that outgrow the capacity in the first. -/
theorem failedChains_pass_again (config : Config) (files laterFiles : Files)
    (commands : List Command) :
    (pass config laterFiles (pass config files commands).result).summary.failedChains =
      ((worked commands).filter fun entry =>
        entry.2.isOverCapacity config || entry.2.Outgrows config files).map
          fun entry => (entry.1, entry.2.name) := by
  have overAgain : ∀ entry : String × Chain,
      (entry.2.pass config files entry.1).result.isOverCapacity config =
        (entry.2.isOverCapacity config || decide (entry.2.Outgrows config files)) := by
    intro entry
    rw [Bool.eq_iff_iff, Chain.isOverCapacity_pass_iff, Bool.or_eq_true, decide_eq_true_iff]
  rw [failedChains_pass, worked_pass, List.filter_map, List.map_map]
  simp only [Function.comp_def, overAgain, Chain.name_pass]

theorem overCapacity_sublist {config : Config} {files : Files} (entries : List (String × Chain)) :
    (entries.filter fun entry => entry.2.isOverCapacity config).Sublist
      (entries.filter fun entry =>
        entry.2.isOverCapacity config || entry.2.Outgrows config files) := by
  apply List.monotone_filter_right
  intro entry tooWide
  rw [tooWide, Bool.true_or]

theorem failedChains_again_eq_iff {config : Config} {files : Files}
    {entries : List (String × Chain)} :
    ((entries.filter fun entry =>
        entry.2.isOverCapacity config || entry.2.Outgrows config files).map
          fun entry => (entry.1, entry.2.name)) =
        (entries.filter fun entry => entry.2.isOverCapacity config).map
          (fun entry => (entry.1, entry.2.name)) ↔
      ∀ entry ∈ entries, ¬entry.2.Outgrows config files := by
  constructor
  · intro same entry member outgrows
    have lengths := congrArg List.length same
    rw [List.length_map, List.length_map] at lengths
    have later : entry ∈ entries.filter fun entry =>
        entry.2.isOverCapacity config || entry.2.Outgrows config files :=
      List.mem_filter.mpr ⟨member, by simp [outgrows]⟩
    rw [← (overCapacity_sublist entries).eq_of_length lengths.symm] at later
    have tooWide := (List.mem_filter.mp later).2
    rw [outgrows.not_isOverCapacity] at tooWide
    cases tooWide
  · intro noneOutgrows
    congr 1
    apply List.filter_congr
    intro entry member
    rw [decide_eq_false (noneOutgrows entry member), Bool.or_false]

/-- What a second pass meets: a folded chain is wider by the runs with several selectors and
narrower by the shapes that are lost. If it still fits nothing is left to do, and otherwise the
second pass fails on it. Over a list of commands the first pass fails on the chains that are too
wide, and the second on these and on those that outgrow the capacity in the first. -/
theorem fold_twice (config : Config) :
    (∀ (chain : Chain) (files : Files) (folded : Folded),
      chain.fold config files = .ok folded → ∀ laterFiles : Files,
        folded.chain.grid.width + (chain.lost folded).length =
            chain.grid.width + folded.merges.countP Merge.isTupled ∧
          if folded.chain.grid.width ≤ config.maxShapes then
            ∃ again, folded.chain.fold config laterFiles = .ok again ∧ again.merges = [] ∧
              again.chain = folded.chain
          else folded.chain.fold config laterFiles = .error (.tooManyShapes config.maxShapes)) ∧
    ∀ (σ τ : Type) (sink : Sink σ) (laterSink : Sink τ) (state : σ) (laterState : τ)
        (files laterFiles : Files) (commands : List Command) (first : Delivered (List Command) σ)
        (second : Delivered (List Command) τ),
      first = passInto sink state config files commands →
      second = passInto laterSink laterState config laterFiles first.result →
        first.summary.failedChains =
            ((worked commands).filter fun entry => entry.2.isOverCapacity config).map
              (fun entry => (entry.1, entry.2.name)) ∧
          second.summary.failedChains =
            ((worked commands).filter fun entry =>
              entry.2.isOverCapacity config || entry.2.Outgrows config files).map
                (fun entry => (entry.1, entry.2.name)) ∧
          first.summary.failedChains.Sublist second.summary.failedChains ∧
          (second.summary.failedChains = first.summary.failedChains ↔
            ∀ entry ∈ worked commands, ¬entry.2.Outgrows config files) := by
  constructor
  · intro chain files folded folds laterFiles
    exact ⟨Chain.width_fold folds, Chain.fold_folded folds laterFiles⟩
  · rintro σ τ sink laterSink state laterState files laterFiles commands _ _ rfl rfl
    rw [result_passInto, summary_passInto, summary_passInto, failedChains_pass_again,
      failedChains_pass]
    exact ⟨rfl, rfl, (overCapacity_sublist _).map _, failedChains_again_eq_iff⟩

/-- A run with two selectors, and both selectors again on their own. -/
def Chain.brimming : Chain := .ofStatements [
  [.number (.metadata .mark .unspecified) 1, .number (.route .mtu) 1],
  [.number (.metadata .mark .unspecified) 2, .number (.route .mtu) 2],
  [.number (.metadata .mark .unspecified) 3],
  [.number (.route .mtu) 3]]

/-- A table with a chain that outgrows a capacity of two shapes and one that exceeds it from the
start. -/
def Command.addBrimming : Command where
  action := .add
  subject := .table {
    family := .ip
    name := "filter"
    chains := [
      { Chain.brimming with name := "brimming" },
      { Chain.ofStatements [[.notrack, .other "first", .other "second"]] with name := "wide" }] }

/-- With three shapes the second pass folds nothing; with two it fails on one more chain. -/
theorem fold_twice_of_brimming : (∃ folded again,
    Chain.brimming.fold ⟨3, true⟩ (.ofList []) = .ok folded ∧
      folded.chain.fold ⟨3, true⟩ (.ofList []) = .ok again ∧ again.merges = []) ∧
    ∃ first second : Delivered (List Command) Buffer,
      first = passInto Buffer.sink (.empty none) ⟨2, true⟩ (.ofList []) [.addBrimming] ∧
        second = passInto Buffer.sink (.empty none) ⟨2, true⟩ (.ofList []) first.result ∧
        first.summary.failedChains = [("filter", "wide")] ∧
        second.summary.failedChains = [("filter", "brimming"), ("filter", "wide")] := by
  constructor
  · have fits : Chain.brimming.grid.width ≤ (Config.mk 3 true).maxShapes := by
      decide
    rcases Chain.exists_fold_of_width_le fits with ⟨folded, folds⟩
    have stillFits : (Chain.brimming.fold ⟨3, true⟩ (.ofList [])).toOption.all
        (fun folded => folded.chain.grid.width ≤ 3) = true := by
      decide
    have second := ((fold_twice ⟨3, true⟩).1 _ _ folded folds (.ofList [])).2
    rw [if_pos (by simpa using Chain.fold_all stillFits folds)] at second
    rcases second with ⟨again, foldsAgain, noMerges, -⟩
    exact ⟨folded, again, folds, foldsAgain, noMerges⟩
  · have reports := (fold_twice ⟨2, true⟩).2 _ _ Buffer.sink Buffer.sink (.empty none)
      (.empty none) (.ofList []) (.ofList []) [.addBrimming] _ _ rfl rfl
    refine ⟨_, _, rfl, rfl, reports.1.trans ?_, reports.2.1.trans ?_⟩
    · decide +kernel
    · decide +kernel

theorem fold_twice_of_two_shapes : ¬∀ (chain : Chain) (config : Config) (files : Files)
    (folded : Folded), chain.fold config files = .ok folded →
      ∃ again, folded.chain.fold config files = .ok again ∧ again.merges = [] := by
  intro alwaysFits
  have fits : Chain.brimming.grid.width ≤ (Config.mk 2 true).maxShapes := by
    decide
  rcases Chain.exists_fold_of_width_le fits with ⟨folded, folds⟩
  have tooWide : (Chain.brimming.fold ⟨2, true⟩ (.ofList [])).toOption.all
      (fun folded => 2 < folded.chain.grid.width) = true := by
    decide
  have grown : 2 < folded.chain.grid.width := by
    simpa using Chain.fold_all tooWide folds
  rcases alwaysFits _ _ _ folded folds with ⟨again, foldsAgain, -⟩
  have width_le : folded.chain.grid.width ≤ 2 := (Chain.foldsTo_of_fold_eq_ok foldsAgain).width_le
  omega

end Rulefold
