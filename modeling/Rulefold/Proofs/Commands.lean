import Mathlib.Algebra.BigOperators.Group.List.Basic
import Mathlib.Algebra.Ring.Nat
import Rulefold.Proofs.Passing

/-!
# A pass, chain by chain

A pass over a list of commands works on the chains of the tables that are added, each by itself.
`worked_pass` says what becomes of these chains, and `summary_pass` that the summary of the pass is
made up of theirs, in order.
-/

namespace Rulefold

namespace Summary

theorem sum_append (first second : List Summary) :
    sum (first ++ second) = (sum first).append (sum second) := by
  induction first with
  | nil => exact (empty_append _).symm
  | cons summary rest ih => rw [List.cons_append, sum_cons, ih, sum_cons, append_assoc]

theorem sum_flatMap {α : Type} (items : List α) (each : α → List Summary) :
    sum (items.flatMap each) = sum (items.map fun item => sum (each item)) := by
  induction items with
  | nil => rfl
  | cons item rest ih => rw [List.flatMap_cons, sum_append, ih, List.map_cons, sum_cons]

/-- Numbers of a summary that add up are summed. -/
theorem count_sum {count : Summary → Nat} (none : count empty = 0)
    (adds : ∀ first second, count (append first second) = count first + count second)
    (summaries : List Summary) : count (sum summaries) = (summaries.map count).sum := by
  induction summaries with
  | nil => exact none
  | cons summary rest ih => rw [sum_cons, adds, ih, List.map_cons, List.sum_cons]

theorem failedChains_sum (summaries : List Summary) :
    (Summary.sum summaries).failedChains = summaries.flatMap failedChains := by
  induction summaries with
  | nil => rfl
  | cons summary rest ih => rw [sum_cons, append, ih, List.flatMap_cons]

end Summary

/-- The table of a command that adds one. -/
def Command.added? : Command → Option Table
  | { action := .add, subject := .table content } => some content
  | _ => none

/-- The chains that the pass works on, behind their tables. -/
def worked (commands : List Command) : List (String × Chain) :=
  (commands.filterMap Command.added?).flatMap fun table =>
    table.chains.map fun chain => (table.name, chain)

variable (config : Config) (files : Files)

/-- A command that adds a table stays one, and any other command stays as it is. -/
theorem Command.pass_eq (command : Command) : command.pass config files =
    match command.added? with
    | some table =>
      { result := { action := .add, subject := .table (table.pass config files).result }
        summary := (table.pass config files).summary
        journal := (table.pass config files).journal }
    | none => .untouched command := by
  rcases command with ⟨action, subject⟩
  cases action <;> cases subject <;> rfl

theorem Command.added?_pass (command : Command) :
    (command.pass config files).result.added? =
      command.added?.map fun table => (table.pass config files).result := by
  rw [pass_eq]
  cases added : command.added? with
  | none => exact added
  | some table => rfl

theorem Command.summary_pass (command : Command) : (command.pass config files).summary =
    .sum (command.added?.toList.map fun table => (table.pass config files).summary) := by
  rw [pass_eq]
  cases command.added? with
  | none => rfl
  | some table => exact (Summary.append_empty _).symm

theorem worked_pass (commands : List Command) :
    worked (pass config files commands).result = (worked commands).map fun entry =>
      (entry.1, (entry.2.pass config files entry.1).result) := by
  have addedTables : (pass config files commands).result.filterMap Command.added? =
      (commands.filterMap Command.added?).map fun table => (table.pass config files).result := by
    rw [pass, Passed.all, List.map_map, List.filterMap_map, List.map_filterMap]
    exact List.filterMap_congr fun command _ => Command.added?_pass config files command
  rw [worked, addedTables, worked, List.flatMap_map, List.map_flatMap]
  congr 1
  funext table
  simp [Table.pass, Passed.all]

/-- The summary of a pass is the sum of the summaries of the chains it works on. -/
theorem summary_pass (commands : List Command) : (pass config files commands).summary =
    .sum ((worked commands).map fun entry => (entry.2.pass config files entry.1).summary) := by
  have ofTable : ∀ table : Table, (table.pass config files).summary =
      .sum ((table.chains.map fun chain => (table.name, chain)).map
        fun entry => (entry.2.pass config files entry.1).summary) := by
    intro table
    simp only [Table.pass, Passed.all, List.map_map]
    rfl
  calc
    (pass config files commands).summary =
        .sum (commands.map fun command => (command.pass config files).summary) := by
      simp only [pass, Passed.all, List.map_map]
      rfl
    _ = .sum ((commands.filterMap Command.added?).map
          fun table => (table.pass config files).summary) := by
      rw [List.filterMap_eq_flatMap_toList, List.map_flatMap, Summary.sum_flatMap]
      simp only [Command.summary_pass]
    _ = .sum ((worked commands).map
          fun entry => (entry.2.pass config files entry.1).summary) := by
      rw [worked, List.map_flatMap, Summary.sum_flatMap]
      simp only [ofTable]

/-- Numbers of the summary that add up are summed over the chains that the pass works on. -/
theorem count_summary_pass (count : Summary → Nat) (none : count .empty = 0)
    (adds : ∀ first second : Summary,
      count (first.append second) = count first + count second) (commands : List Command) :
    count (pass config files commands).summary = ((worked commands).map fun entry =>
      count (entry.2.pass config files entry.1).summary).sum := by
  rw [summary_pass, Summary.count_sum none adds, List.map_map]
  rfl

end Rulefold
