import Mathlib.Algebra.Order.BigOperators.Group.List
import Mathlib.Algebra.Order.Group.Nat
import Rulefold.Proofs.Capacity
import Rulefold.Proofs.Variety

/-!
# What a pass leaves and counts

A pass over a list of commands does to each chain of an added table what folding does to the chain
alone, unless the chain is offloaded or too varied; nothing else changes. Its summary counts just
that: the runs folded, the rules gone, the chains passed over and the chains that failed.
-/

namespace Rulefold

namespace Chain

variable {config : Config} {files : Files} {chain : Chain}

/-- What becomes of a chain in a pass. It keeps its name and its flags. It stays as it is if it is
offloaded or too varied, and unless it is offloaded it becomes what folding makes of it alone. -/
structure PassesTo (config : Config) (files : Files) (before after : Chain) : Prop where
  name_eq : after.name = before.name
  flags_eq : after.flags = before.flags
  offloaded : before.flags.has .offload = true → after = before
  tooVaried : config.maxShapes < before.variety → after = before
  folded : before.flags.has .offload = false → ∀ {σ : Type} (sink : Sink σ) (state : σ),
    after = (before.foldInto sink state config files).chain

theorem passesTo_pass (config : Config) (files : Files) (table : String) (chain : Chain) :
    chain.PassesTo config files (chain.pass config files table).result := by
  rcases pass_cases config files table chain with ⟨offloaded, result, -⟩ |
    ⟨notOffloaded, tooWide, result, -⟩ | ⟨notOffloaded, folded, folds, result, -⟩
  · rw [result]
    exact {
      name_eq := rfl
      flags_eq := rfl
      offloaded := fun _ => rfl
      tooVaried := fun _ => rfl
      folded := fun notOffloaded => absurd (notOffloaded.symm.trans offloaded) Bool.false_ne_true }
  · rw [result]
    have fails : chain.fold config files = .error (.tooManyShapes config.maxShapes) :=
      fold_eq_error_iff.mpr ⟨tooWide, rfl⟩
    exact {
      name_eq := rfl
      flags_eq := rfl
      offloaded := fun _ => rfl
      tooVaried := fun _ => rfl
      folded := fun _ _ _ _ => by rw [foldInto_of_fold_eq_error fails] }
  · rw [result]
    have foldsTo := foldsTo_of_fold_eq_ok folds
    exact {
      name_eq := by rw [foldsTo.chain_eq]
      flags_eq := by rw [foldsTo.chain_eq]
      offloaded := fun offloaded => absurd (notOffloaded.symm.trans offloaded) Bool.false_ne_true
      tooVaried := by
        intro tooVaried
        rw [← width_grid] at tooVaried
        exact absurd foldsTo.width_le (Nat.not_le.mpr tooVaried)
      folded := fun _ _ _ _ => (foldInto_of_fold_eq_ok folds).1.symm }

/-- The number of runs that the pass folds in a chain. -/
def mergeCount (config : Config) (files : Files) (chain : Chain) : Nat :=
  if chain.flags.has .offload then 0
  else
    match chain.fold config files with
    | .ok folded => folded.merges.length
    | .error _ => 0

/-- The summary of a pass over a chain counts its merges, and the chain if it is offloaded. -/
theorem counts_pass (config : Config) (files : Files) (table : String) (chain : Chain) :
    (chain.pass config files table).summary.merges = chain.mergeCount config files ∧
      (chain.pass config files table).summary.offloadSkipped =
        if chain.flags.has .offload then 1 else 0 := by
  rw [mergeCount, ← isOffloaded]
  rcases pass_cases config files table chain with ⟨offloaded, -, summary⟩ |
    ⟨notOffloaded, tooWide, -, summary⟩ | ⟨notOffloaded, folded, folds, -, summary⟩
  · simp [summary, offloaded]
  · simp [summary, notOffloaded, fold_eq_error_iff.mpr ⟨tooWide, rfl⟩]
  · simp [summary, notOffloaded, folds]

end Chain

/-- What becomes of a table in a pass. -/
structure Table.PassesTo (config : Config) (files : Files) (before after : Table) : Prop where
  family_eq : after.family = before.family
  name_eq : after.name = before.name
  chains : List.Forall₂ (Chain.PassesTo config files) before.chains after.chains

/-- What becomes of a command in a pass. If it adds a table it still does, and otherwise it stays as
it is. -/
def Command.PassesTo (config : Config) (files : Files) (before after : Command) : Prop :=
  match before.added? with
  | some table =>
    ∃ later, after = { action := .add, subject := .table later } ∧ table.PassesTo config files later
  | none => after = before

theorem Table.passesTo_pass (config : Config) (files : Files) (table : Table) :
    table.PassesTo config files (table.pass config files).result where
  family_eq := rfl
  name_eq := rfl
  chains := by
    simp only [pass, Passed.all, List.map_map]
    rw [List.forall₂_map_right_iff, List.forall₂_same]
    exact fun chain _ => chain.passesTo_pass config files table.name

theorem Command.passesTo_pass (config : Config) (files : Files) (command : Command) :
    command.PassesTo config files (command.pass config files).result := by
  rw [PassesTo, pass_eq]
  cases command.added? with
  | some table => exact ⟨_, rfl, table.passesTo_pass config files⟩
  | none => rfl

/-- The rules that a command carries. -/
def Command.rules (command : Command) : List Rule :=
  match command.subject with
  | .table content => content.chains.flatMap Chain.rules
  | .chain content => content.rules
  | .rule content => [content]

theorem Passed.rulesRemoved_all {α β : Type} {step : α → Passed β} {before : α → List Rule}
    {after : β → List Rule} (items : List α) (each : ∀ item ∈ items,
      (step item).summary.rulesRemoved + (after (step item).result).length =
        (before item).length) :
    (Passed.all (items.map step)).summary.rulesRemoved +
        ((Passed.all (items.map step)).result.flatMap after).length =
      (items.flatMap before).length := by
  induction items with
  | nil => rfl
  | cons item rest ih =>
      rw [List.forall_mem_cons] at each
      have later := ih each.2
      simp only [Passed.all, List.map_cons, Summary.sum_cons, Summary.append,
        List.flatMap_cons, List.length_append] at later ⊢
      omega

theorem Command.rulesRemoved_pass (config : Config) (files : Files) (command : Command) :
    (command.pass config files).summary.rulesRemoved +
      (command.pass config files).result.rules.length = command.rules.length := by
  rcases command with ⟨action, subject⟩
  have ofTable : ∀ table : Table, (table.pass config files).summary.rulesRemoved +
      ((table.pass config files).result.chains.flatMap Chain.rules).length =
        (table.chains.flatMap Chain.rules).length := fun table =>
    Passed.rulesRemoved_all table.chains fun chain _ =>
      (chain.rulesRemoved_pass config files table.name).1
  cases action with
  | add =>
      cases subject with
      | table content => exact ofTable content
      | _ => exact Nat.zero_add _
  | _ => exact Nat.zero_add _

/-- A pass does to each chain what folding does to it alone, and its summary says what it did. -/
theorem passInto_decomposes {σ : Type} (sink : Sink σ) (state : σ) (config : Config)
    (files : Files) (commands : List Command) :
    let delivered := passInto sink state config files commands
    List.Forall₂ (Command.PassesTo config files) commands delivered.result ∧
      delivered.summary.merges =
        ((worked commands).map fun entry => entry.2.mergeCount config files).sum ∧
      delivered.summary.rulesRemoved + (delivered.result.flatMap Command.rules).length =
        (commands.flatMap Command.rules).length ∧
      delivered.summary.offloadSkipped =
        (worked commands).countP (fun entry => entry.2.flags.has .offload) ∧
      delivered.summary.failedChains =
        ((worked commands).filter fun entry =>
          !entry.2.flags.has .offload && decide (config.maxShapes < entry.2.variety)).map
            (fun entry => (entry.1, entry.2.name)) ∧
      delivered.summary.merges ≤ delivered.summary.rulesRemoved := by
  simp only [result_passInto, summary_passInto]
  have counted := fun count none adds => count_summary_pass config files count none adds commands
  have merges := counted Summary.merges rfl fun _ _ => rfl
  have rulesRemoved := counted Summary.rulesRemoved rfl fun _ _ => rfl
  have offloadSkipped := counted Summary.offloadSkipped rfl fun _ _ => rfl
  refine ⟨?_, ?_, ?_, ?_, ?_, ?_⟩
  · simp only [pass, Passed.all, List.map_map]
    rw [List.forall₂_map_right_iff, List.forall₂_same]
    exact fun command _ => command.passesTo_pass config files
  · rw [merges]
    simp only [(Chain.counts_pass config files _ _).1]
  · exact Passed.rulesRemoved_all commands fun command _ => command.rulesRemoved_pass config files
  · rw [offloadSkipped]
    simp only [(Chain.counts_pass config files _ _).2]
    induction worked commands with
    | nil => rfl
    | cons entry rest ih => rw [List.map_cons, List.sum_cons, ih, List.countP_cons, Nat.add_comm]
  · rw [failedChains_pass]
    simp only [Chain.isOverCapacity, Chain.isOffloaded, Chain.width_grid]
  · rw [merges, rulesRemoved]
    exact List.sum_le_sum fun entry _ => (entry.2.rulesRemoved_pass config files entry.1).2

end Rulefold
