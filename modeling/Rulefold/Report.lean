import Rulefold.Fold

/-!
# Reports

Every fold is reported to the reader of the ruleset: the lines that the rules came from, as far as
they can be recovered, and the rule that now stands for them.
-/

namespace Rulefold

/-- A run that was folded, and the rule that stands for it. -/
structure Merge where
  run : Run
  survivor : Rule
  deriving DecidableEq

namespace Rule

/-- The source line of a rule, behind its location. Rules without a line are passed over. -/
def quotation (files : Files) (rule : Rule) : String :=
  if rule.location.source.isSynthetic then ""
  else
    match (rule.location.recover files).1 with
    | some line => rule.location.text ++ line ++ "\n"
    | none => ""

/-- What is to be said on quoting a rule. -/
def quotationRemarks (files : Files) (rule : Rule) : List Diagnostic :=
  if rule.location.source.isSynthetic then [] else (rule.location.recover files).2

/-- The report on rules that are folded into one. -/
def foldReport (files : Files) (rules : List Rule) (survivor : Rule) : String :=
  "Merging:\n" ++ String.join (rules.map (quotation files)) ++
    "into:\n\t" ++ survivor.text ++ "\n"

/-- What is to be said on reporting that rules are folded into one. -/
def foldRemarks (files : Files) (rules : List Rule) : List Diagnostic :=
  rules.flatMap (quotationRemarks files)

end Rule

namespace Merge

/-- The rules that a merge folded. -/
def rules (merge : Merge) : List Rule := merge.run.rows.map Row.rule

/-- The report on a merge. -/
def report (files : Files) (merge : Merge) : String :=
  Rule.foldReport files merge.rules merge.survivor

/-- What is to be said on reporting a merge. -/
def remarks (files : Files) (merge : Merge) : List Diagnostic :=
  Rule.foldRemarks files merge.rules

end Merge

end Rulefold
