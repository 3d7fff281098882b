import Rulefold.Config
import Rulefold.Journal
import Rulefold.Report
import Rulefold.Rewrite

/-!
# The pass over a ruleset

The pass folds the runs of every chain of every table that is added. A chain is folded as a whole
or left as it is. It is left as it is if it runs in a fixed-function engine or has more shapes
than the configuration allows; the other chains are not affected.
-/

namespace Rulefold

/-- Why a chain is not folded. -/
inductive PassError where
  /-- The chain has more shapes than allowed. -/
  | tooManyShapes (max : Nat)
  /-- A run cannot be folded. -/
  | unfolded (fault : Fault)
  deriving DecidableEq

/-- The wording of an error. -/
def PassError.message : PassError → String
  | tooManyShapes max => s!"Chain has more than {max} distinct statement shapes"
  | unfolded fault => fault.message

/-- What is to be said on a chain that is not folded. -/
def PassError.diagnostic (table chain : String) : PassError → Diagnostic
  | tooManyShapes max => .overCapacity table chain max
  | unfolded fault => .unfolded table chain fault.message

/-- A chain after folding. -/
structure Folded where
  chain : Chain
  /-- The runs that were folded, in order. -/
  merges : List Merge
  journal : Journal

/-- A chain while its runs are folded, one after another. -/
structure Progress where
  rules : List Rule
  /-- For each rule whether it has gone into another. -/
  absorbed : List Bool
  /-- The runs that are folded so far, and what they left. -/
  merges : List Merge
  /-- The report on them. -/
  report : String
  remarks : List Diagnostic

namespace Progress

/-- A chain none of whose runs is folded. -/
def start (rules : List Rule) : Progress where
  rules
  absorbed := List.replicate rules.length false
  merges := []
  report := ""
  remarks := []

/-- Folds a run. Its rules but the first are marked, and go when all runs are folded. -/
def step (config : Config) (files : Files) (grid : Grid) (cells : Cells) (progress : Progress)
    (span : Span) : Except Fault Progress := do
  let rules ← cells.merge progress.rules span
  let last ← span.last
  let survivor ← Checked.get rules span.first
  let told ← if config.audit then Checked.slice rules span.first last else pure []
  let absorbed ← Checked.fill progress.absorbed (span.first + 1) last true
  return {
    rules
    absorbed
    merges := progress.merges ++ [{ run := grid.runOf span, survivor }]
    report := if config.audit then progress.report ++ Rule.foldReport files told survivor
      else progress.report
    remarks := progress.remarks ++ Rule.foldRemarks files told }

/-- The rules that have not gone into another, in order. -/
def survivors (progress : Progress) : List Rule :=
  (progress.rules.zip progress.absorbed).filterMap fun (rule, gone) =>
    if gone then none else some rule

end Progress

namespace Chain

/-- Folds the runs of a chain that is laid out on a grid. -/
def foldOn (config : Config) (files : Files) (chain : Chain) (grid : Grid) :
    Except Fault Folded := do
  let cells ← Cells.ofGrid grid
  let findings ← cells.scan chain.rules grid.columns
  let spans := findings.filterMap Finding.span?
  let candidates ← spans.mapM Span.candidate
  let done ← spans.foldlM (Progress.step config files grid cells) (.start chain.rules)
  let remarks := .laidOut chain.name chain.rules.length grid.width ::
    findings.filterMap Finding.remark? ++ candidates ++ done.remarks
  return {
    chain := { chain with rules := done.survivors }
    merges := done.merges
    journal := remarks.map .remark ++ [.report chain.name done.report] }

/-- Folds the runs of a chain, whatever its flags. -/
def fold (config : Config) (files : Files) (chain : Chain) : Except PassError Folded :=
  match Grid.ofRulesWithin config.maxShapes chain.rules with
  | none => .error (.tooManyShapes config.maxShapes)
  | some grid => (chain.foldOn config files grid).mapError .unfolded

end Chain

/-- A chain that was to be folded, once its report is delivered. -/
structure Attempt (σ : Type) where
  /-- The chain as it is now. -/
  chain : Chain
  /-- The number of runs that were folded, or why none was. -/
  merges : Except PassError Nat
  diagnostics : List Diagnostic
  /-- The state of the sink afterwards. -/
  state : σ

/-- Folds the runs of a chain in its place, and delivers the report to a sink. A chain that cannot
be folded stays as it is. -/
def Chain.foldInto {σ : Type} (sink : Sink σ) (state : σ) (config : Config) (files : Files)
    (chain : Chain) : Attempt σ :=
  match chain.fold config files with
  | .error failure => { chain, merges := .error failure, diagnostics := [], state }
  | .ok folded =>
    let (diagnostics, state) := Journal.deliver sink state folded.journal
    { chain := folded.chain, merges := .ok folded.merges.length, diagnostics, state }

/-- What a pass did. -/
structure Summary where
  /-- The number of runs that were folded. -/
  merges : Nat
  /-- The number of rules that went. -/
  rulesRemoved : Nat
  /-- The number of chains that run in a fixed-function engine. -/
  offloadSkipped : Nat
  /-- The chains that could not be folded, behind their tables. -/
  failedChains : List (String × String)
  deriving DecidableEq

/-- The summary of doing nothing. -/
def Summary.empty : Summary := ⟨0, 0, 0, []⟩

/-- What the pass left, once its reports are delivered. -/
structure Delivered (α σ : Type) where
  result : α
  summary : Summary
  diagnostics : List Diagnostic
  /-- The state of the sink afterwards. -/
  state : σ

/-- A pass that is under way. -/
structure Ongoing (σ : Type) where
  /-- What it did so far. -/
  summary : Summary
  diagnostics : List Diagnostic
  /-- The state of the sink so far. -/
  state : σ

namespace Ongoing

variable {σ : Type} (sink : Sink σ) (config : Config) (files : Files)

/-- A pass that did nothing yet. -/
def start (state : σ) : Ongoing σ := ⟨.empty, [], state⟩

/-- Tells of something. -/
def tell (ongoing : Ongoing σ) (diagnostic : Diagnostic) : Ongoing σ :=
  { ongoing with diagnostics := ongoing.diagnostics ++ [diagnostic] }

/-- Works on a chain of a table, and answers the number of runs that were folded. A chain that
cannot be folded is left as it is, and its name is kept. -/
def passChain (table : String) (ongoing : Ongoing σ) (chain : Chain) : Chain × Nat × Ongoing σ :=
  if chain.isOffloaded then
    let ongoing := ongoing.tell (.offloaded table chain.name)
    (chain, 0, { ongoing with
      summary.offloadSkipped := ongoing.summary.offloadSkipped + 1 })
  else
    let attempt := chain.foldInto sink ongoing.state config files
    let ongoing := { ongoing with
      diagnostics := ongoing.diagnostics ++ attempt.diagnostics
      state := attempt.state }
    match attempt.merges with
    | .ok count =>
      (attempt.chain, count, { ongoing with
        summary.rulesRemoved := ongoing.summary.rulesRemoved +
          (chain.rules.length - attempt.chain.rules.length) })
    | .error failure =>
      let ongoing := ongoing.tell (failure.diagnostic table chain.name)
      (attempt.chain, 0, { ongoing with
        summary.failedChains := ongoing.summary.failedChains ++ [(table, chain.name)] })

/-- Works on the chains of a table, one after another, and counts the runs that are folded. -/
def passChains (table : String) (ongoing : Ongoing σ) (merges : Nat) :
    List Chain → List Chain × Nat × Ongoing σ
  | [] => ([], merges, ongoing)
  | chain :: rest =>
    let (chain, count, ongoing) := ongoing.passChain sink config files table chain
    let (rest, merges, ongoing) := passChains table ongoing (merges + count) rest
    (chain :: rest, merges, ongoing)

/-- Works on a table. The runs of all its chains go into the summary together. -/
def passTable (ongoing : Ongoing σ) (table : Table) : Table × Ongoing σ :=
  let (chains, merges, ongoing) :=
    ongoing.passChains sink config files table.name 0 table.chains
  let ongoing := ongoing.tell (.tableDone table.family table.name merges)
  ({ table with chains }, { ongoing with summary.merges := ongoing.summary.merges + merges })

/-- Works on a command. Only the tables that are added are worked on. -/
def passCommand (ongoing : Ongoing σ) (command : Command) : Command × Ongoing σ :=
  match command with
  | { action := .add, subject := .table content } =>
    let (table, ongoing) := ongoing.passTable sink config files content
    ({ action := .add, subject := .table table }, ongoing)
  | command => (command, ongoing)

/-- Works on commands, one after another. -/
def passCommands (ongoing : Ongoing σ) : List Command → List Command × Ongoing σ
  | [] => ([], ongoing)
  | command :: rest =>
    let (command, ongoing) := ongoing.passCommand sink config files command
    let (rest, ongoing) := passCommands ongoing rest
    (command :: rest, ongoing)

end Ongoing

/-- Runs the pass over a list of commands. The report on a chain goes to the sink before the pass
turns to the next chain. -/
def passInto {σ : Type} (sink : Sink σ) (state : σ) (config : Config) (files : Files)
    (commands : List Command) : Delivered (List Command) σ :=
  let (result, ongoing) := (Ongoing.start state).passCommands sink config files commands
  { result
    summary := ongoing.summary
    diagnostics := ongoing.diagnostics
    state := ongoing.state }

end Rulefold
