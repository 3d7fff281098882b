import Rulefold.Pass

/-!
# A pass, taken apart

A pass goes through its commands with a summary that it keeps up and a sink that it writes to. What
it leaves, counts and tells is put together from what it does to each chain by itself: the chains
and the summaries come out in the same order, and the reports can as well be delivered when all
chains are done (`passInto_eq`).
-/

namespace Rulefold

namespace Summary

/-- The summary of one thing done after another. -/
def append (first second : Summary) : Summary where
  merges := first.merges + second.merges
  rulesRemoved := first.rulesRemoved + second.rulesRemoved
  offloadSkipped := first.offloadSkipped + second.offloadSkipped
  failedChains := first.failedChains ++ second.failedChains

/-- The summary of several things done in order. -/
def sum (summaries : List Summary) : Summary := summaries.foldr append empty

theorem sum_cons (summary : Summary) (rest : List Summary) :
    sum (summary :: rest) = summary.append (sum rest) := rfl

theorem empty_append (summary : Summary) : empty.append summary = summary := by
  simp [append, empty]

theorem append_empty (summary : Summary) : summary.append empty = summary := by
  simp [append, empty]

theorem append_assoc (first second third : Summary) :
    (first.append second).append third = first.append (second.append third) := by
  simp [append, Nat.add_assoc]

/-- A summary without the number of runs that were folded. -/
def besidesMerges (summary : Summary) : Summary := { summary with merges := 0 }

end Summary

/-- Something after the pass, with what the pass has to tell. -/
structure Passed (α : Type) where
  result : α
  summary : Summary
  journal : Journal

namespace Passed

variable {α : Type}

/-- Something that the pass does not touch. -/
def untouched (result : α) : Passed α := ⟨result, .empty, []⟩

/-- Delivers the reports of the pass to a sink. -/
def deliver {σ : Type} (sink : Sink σ) (state : σ) (passed : Passed α) : Delivered α σ :=
  let (diagnostics, state) := Journal.deliver sink state passed.journal
  { result := passed.result, summary := passed.summary, diagnostics, state }

/-- Several things in order. -/
def all (items : List (Passed α)) : Passed (List α) where
  result := items.map result
  summary := .sum (items.map summary)
  journal := items.flatMap journal

end Passed

/-- A chain of a table after the pass. -/
def Chain.pass (config : Config) (files : Files) (table : String) (chain : Chain) :
    Passed Chain :=
  if chain.isOffloaded then
    { result := chain
      summary := { Summary.empty with offloadSkipped := 1 }
      journal := [.remark (.offloaded table chain.name)] }
  else
    match chain.fold config files with
    | .ok folded =>
      { result := folded.chain
        summary := { Summary.empty with
          merges := folded.merges.length
          rulesRemoved := chain.rules.length - folded.chain.rules.length }
        journal := folded.journal }
    | .error failure =>
      { result := chain
        summary := { Summary.empty with failedChains := [(table, chain.name)] }
        journal := [.remark (failure.diagnostic table chain.name)] }

/-- A table after the pass. -/
def Table.pass (config : Config) (files : Files) (table : Table) : Passed Table :=
  let chains := Passed.all (table.chains.map (Chain.pass config files table.name))
  { result := { table with chains := chains.result }
    summary := chains.summary
    journal := chains.journal ++
      [.remark (.tableDone table.family table.name chains.summary.merges)] }

/-- A command after the pass. Only the tables that are added are worked on. -/
def Command.pass (config : Config) (files : Files) (command : Command) : Passed Command :=
  match command with
  | { action := .add, subject := .table content } =>
    let table := content.pass config files
    { result := { action := .add, subject := .table table.result }
      summary := table.summary
      journal := table.journal }
  | command => .untouched command

/-- A list of commands after the pass. -/
def pass (config : Config) (files : Files) (commands : List Command) : Passed (List Command) :=
  Passed.all (commands.map (Command.pass config files))

namespace Journal

variable {σ : Type}

theorem deliver_append (sink : Sink σ) (state : σ) (first second : Journal) :
    deliver sink state (first ++ second) =
      ((deliver sink state first).1 ++ (deliver sink (deliver sink state first).2 second).1,
        (deliver sink (deliver sink state first).2 second).2) := by
  induction first generalizing state with
  | nil => rfl
  | cons event rest ih =>
      cases event with
      | remark diagnostic => simp [deliver, ih]
      | report chain text =>
          rcases written : sink.writeAll state (Text.encode text) with ⟨failure, next⟩
          cases failure <;> simp [deliver, written, ih]

end Journal

namespace Ongoing

variable {σ : Type} (sink : Sink σ) (config : Config) (files : Files) (ongoing : Ongoing σ)

/-- The pass once something more is done and its reports are delivered. -/
def after (summary : Summary) (journal : Journal) : Ongoing σ where
  summary := ongoing.summary.append summary
  diagnostics := ongoing.diagnostics ++ (journal.deliver sink ongoing.state).1
  state := (journal.deliver sink ongoing.state).2

theorem after_empty : ongoing.after sink .empty [] = ongoing := by
  simp [after, Summary.append_empty, Journal.deliver]

theorem after_after (first second : Summary) (journal later : Journal) :
    (ongoing.after sink first journal).after sink second later =
      ongoing.after sink (first.append second) (journal ++ later) := by
  simp [after, Summary.append_assoc, Journal.deliver_append]

theorem tell_eq_after (diagnostic : Diagnostic) :
    ongoing.tell diagnostic = ongoing.after sink .empty [.remark diagnostic] := by
  simp [tell, after, Summary.append_empty, Journal.deliver]

/-- The number of runs of a chain is answered apart, and the rest of its summary is kept up. -/
theorem passChain_eq (table : String) (chain : Chain) :
    ongoing.passChain sink config files table chain =
      ((chain.pass config files table).result, (chain.pass config files table).summary.merges,
        ongoing.after sink (chain.pass config files table).summary.besidesMerges
          (chain.pass config files table).journal) := by
  unfold passChain Chain.pass
  cases chain.isOffloaded with
  | true =>
      simp [tell, after, Summary.append, Summary.besidesMerges, Summary.empty, Journal.deliver]
  | false =>
      rw [Chain.foldInto]
      cases chain.fold config files <;>
        simp [tell, after, Summary.append, Summary.besidesMerges, Summary.empty, Journal.deliver]

theorem passChains_eq (table : String) (merges : Nat) (chains : List Chain) :
    let passed := Passed.all (chains.map (Chain.pass config files table))
    ongoing.passChains sink config files table merges chains =
      (passed.result, merges + passed.summary.merges,
        ongoing.after sink passed.summary.besidesMerges passed.journal) := by
  induction chains generalizing ongoing merges with
  | nil => exact congrArg (fun ongoing => ([], merges, ongoing)) (after_empty sink ongoing).symm
  | cons chain rest ih =>
      simp only [passChains, passChain_eq, ih, after_after]
      simp [Passed.all, Summary.sum_cons, Summary.append, Summary.besidesMerges, Nat.add_assoc]

theorem passTable_eq (table : Table) : ongoing.passTable sink config files table =
    ((table.pass config files).result, ongoing.after sink (table.pass config files).summary
      (table.pass config files).journal) := by
  simp only [passTable, passChains_eq, Nat.zero_add, tell_eq_after sink, after_after, Table.pass]
  simp [after, Summary.append, Summary.besidesMerges, Summary.empty]

theorem passCommand_eq (command : Command) : ongoing.passCommand sink config files command =
    ((command.pass config files).result, ongoing.after sink (command.pass config files).summary
      (command.pass config files).journal) := by
  have unmoved := (after_empty sink ongoing).symm
  rcases command with ⟨action, subject⟩
  cases action with
  | add =>
      cases subject with
      | table content =>
          rw [passCommand, passTable_eq]
          rfl
      | _ => exact congrArg (Prod.mk _) unmoved
  | _ => exact congrArg (Prod.mk _) unmoved

theorem passCommands_eq (commands : List Command) :
    ongoing.passCommands sink config files commands =
      ((pass config files commands).result, ongoing.after sink
        (pass config files commands).summary (pass config files commands).journal) := by
  induction commands generalizing ongoing with
  | nil => exact congrArg (Prod.mk []) (after_empty sink ongoing).symm
  | cons command rest ih =>
      simp only [passCommands, passCommand_eq, ih, after_after]
      simp [pass, Passed.all, Summary.sum_cons]

end Ongoing

section PassInto

variable {σ : Type} (sink : Sink σ) (state : σ) (config : Config) (files : Files)
  (commands : List Command)

/-- What a pass comes to is put together from its chains, and its reports are delivered in their
order. -/
theorem passInto_eq : passInto sink state config files commands =
    (pass config files commands).deliver sink state := by
  rw [passInto, Ongoing.passCommands_eq]
  simp [Passed.deliver, Ongoing.after, Ongoing.start, Summary.empty_append]

theorem result_passInto : (passInto sink state config files commands).result =
    (pass config files commands).result := by
  rw [passInto_eq]
  rfl

theorem summary_passInto : (passInto sink state config files commands).summary =
    (pass config files commands).summary := by
  rw [passInto_eq]
  rfl

end PassInto

end Rulefold
