import Mathlib.Data.List.Forall2
import Rulefold.Fold
import Rulefold.Proofs.Likeness

/-!
# What rules say of a packet

A packet decides every match, however it likes, with two restrictions: a field is in an anonymous
set when it has the value of one of the keys, and a concatenation of fields is in one when each
field has its value in one of the tuples. A rule fires when all its matches are satisfied. Read
statement by statement, a rule decides as soon as it comes to a verdict or a reject.
-/

namespace Rulefold

namespace Match

/-- The comparison of a field with a value. -/
def field (field : Field) (value : Expr) : Match :=
  { op := .eq, left := .field field, right := value }

/-- The comparison of several fields, taken as one, with a value. -/
def fields (fields : List Field) (value : Expr) : Match :=
  { op := .eq, left := .concat (fields.map .field), right := value }

end Match

/-- A packet, as far as matches can tell. -/
structure Packet where
  satisfies : Match → Bool
  /-- A field is in an anonymous set when it has the value of a key. -/
  satisfies_set : ∀ (field : Field) (flags : Flags SetFlag) (elements : List Expr),
    flags.has .anonymous = true →
      satisfies (.field field (.set flags elements)) =
        elements.any fun element => satisfies (.field field element.key)
  /-- A concatenation is in an anonymous set when each field has its value in a tuple. -/
  satisfies_concat : ∀ (fields : List Field) (flags : Flags SetFlag) (elements : List Expr),
    flags.has .anonymous = true →
      (satisfies (.fields fields (.set flags elements)) = true ↔
        ∃ element ∈ elements, ∃ values, element.key = .concat values ∧
          List.Forall₂ (fun field value => satisfies (.field field value) = true) fields values)

/-- Says whether a statement ends the evaluation of a rule. -/
def Statement.isFinal : Statement → Bool
  | verdict .. | reject _ => true
  | _ => false

namespace Rule

/-- The statement that a rule decides by, if it comes to it. -/
def decision? (rule : Rule) : Option Statement := rule.statements.find? Statement.isFinal

/-- The matches that a rule tests before it decides. -/
def guard (rule : Rule) : List Match :=
  (rule.statements.takeWhile fun statement => !statement.isFinal).filterMap Statement.match?

theorem guard_prefix_tests (rule : Rule) : rule.guard <+: rule.tests :=
  (List.takeWhile_prefix _).filterMap _

theorem guard_subset_tests (rule : Rule) : rule.guard ⊆ rule.tests :=
  rule.guard_prefix_tests.subset

theorem decision?_isSome_iff {rule : Rule} :
    rule.decision?.isSome = true ↔ ∃ statement ∈ rule.statements, statement.isFinal = true := by
  rw [decision?, List.find?_isSome]

end Rule

namespace Packet

variable (packet : Packet)

/-- Says whether a rule fires: all its matches are satisfied. -/
def fires (rule : Rule) : Bool := rule.tests.all packet.satisfies

/-- Says whether a packet passes the matches that a rule tests before it decides. -/
def passes (rule : Rule) : Bool := rule.guard.all packet.satisfies

/-- Evaluates statements in order. A match that is not satisfied abandons them, a verdict or a
reject ends them as their outcome, and every other statement goes on. -/
def evaluate : List Statement → Option Statement
  | [] => none
  | .matching test :: rest => if packet.satisfies test then evaluate rest else none
  | .verdict code target :: _ => some (.verdict code target)
  | .reject answer :: _ => some (.reject answer)
  | _ :: rest => evaluate rest

/-- Evaluates rules in order: the outcome is that of the first rule which has one. -/
def outcome (rules : List Rule) : Option Statement :=
  rules.findSome? fun rule => packet.evaluate rule.statements

variable {packet}

theorem evaluate_eq (rule : Rule) :
    packet.evaluate rule.statements = if packet.passes rule then rule.decision? else none := by
  unfold passes Rule.guard Rule.decision?
  induction rule.statements with
  | nil => simp [evaluate]
  | cons statement rest ih =>
      cases statement <;>
        simp [evaluate, List.find?_cons, Statement.isFinal, Statement.match?, ih, ite_and]

theorem evaluate_eq_some_iff {rule : Rule} {decision : Statement} :
    packet.evaluate rule.statements = some decision ↔
      packet.passes rule = true ∧ rule.decision? = some decision := by
  rw [evaluate_eq]
  split <;> simp_all

theorem evaluate_eq_none_iff {rule : Rule} :
    packet.evaluate rule.statements = none ↔
      (packet.passes rule = true → rule.decision? = none) := by
  rw [evaluate_eq]
  split <;> simp_all

theorem outcome_append (first second : List Rule) :
    packet.outcome (first ++ second) = (packet.outcome first).or (packet.outcome second) := by
  simp [outcome, List.findSome?_append]

theorem outcome_singleton (rule : Rule) :
    packet.outcome [rule] = packet.evaluate rule.statements := by
  simp [outcome]

theorem outcome_eq_none_iff {rules : List Rule} : packet.outcome rules = none ↔
    ∀ rule ∈ rules, packet.passes rule = true → rule.decision? = none := by
  simp [outcome, evaluate_eq_none_iff]

theorem outcome_eq_some_iff {rules : List Rule} {decision : Statement} :
    packet.outcome rules = some decision ↔
      ∃ before rule after, rules = before ++ rule :: after ∧ packet.outcome before = none ∧
        packet.passes rule = true ∧ rule.decision? = some decision := by
  rw [outcome, List.findSome?_eq_some_iff]
  simp only [evaluate_eq_some_iff, outcome, List.findSome?_eq_none_iff]
  constructor
  · rintro ⟨before, rule, after, split, ⟨passes, decides⟩, none⟩
    exact ⟨before, rule, after, split, none, passes, decides⟩
  · rintro ⟨before, rule, after, split, none, passes, decides⟩
    exact ⟨before, rule, after, split, ⟨passes, decides⟩, none⟩

end Packet

end Rulefold
