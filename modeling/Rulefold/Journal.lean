import Rulefold.Diagnostic
import Rulefold.Sink
import Rulefold.Text.Utf8

/-!
# Journals

Work on a ruleset leaves a journal: the diagnostics and the reports, in the order in which they
arise. Delivering a journal writes the reports to a sink; a report that does not get through
leaves a diagnostic in its place. The work itself never sees the sink.
-/

namespace Rulefold

/-- An entry of a journal. -/
inductive Event where
  /-- Something was noticed. -/
  | remark (diagnostic : Diagnostic)
  /-- A chain has a report, which may be empty. -/
  | report (chain text : String)
  deriving DecidableEq

/-- What happened, in order. -/
abbrev Journal := List Event

namespace Journal

variable {σ : Type}

/-- Writes the reports of a journal to a sink, and answers all diagnostics in order. -/
def deliver (sink : Sink σ) (state : σ) : Journal → List Diagnostic × σ
  | [] => ([], state)
  | .remark diagnostic :: rest =>
    let (diagnostics, state) := deliver sink state rest
    (diagnostic :: diagnostics, state)
  | .report chain text :: rest =>
    match sink.writeAll state (Text.encode text) with
    | (none, state) => deliver sink state rest
    | (some failure, state) =>
      let (diagnostics, state) := deliver sink state rest
      (.reportLost chain failure :: diagnostics, state)

end Journal

end Rulefold
