import Rulefold.Statement

/-!
# Shapes of statements

Statements are compared by their patterns, in which the value that a match compares with is taken
away. Two statements are alike when their patterns are the same. A statement that cannot be folded
has a pattern that is the same as no other, not even as itself.

The shape of a statement is what its pattern has in common with all patterns that are the same
(`Pattern.same_iff`); there is none if the pattern is not the same as itself. On optional statements
likeness is symmetric (`alike_comm`) and transitive (`alike_trans`).
-/

namespace Rulefold

/-- The chain that a verdict leads to, as far as patterns tell. Of a target that is not spelled out
only its kind counts. -/
inductive Target where
  | literal (value : Literal)
  | other (kind : ExprKind)
  deriving DecidableEq

/-- The target that an expression denotes. -/
def Target.ofExpr : Expr → Target
  | .literal value => .literal value
  | expr => .other expr.kind

/-- What the lines of a log statement begin with, as far as patterns tell. -/
inductive Label where
  | absent
  | literal (value : Literal)
  /-- A label that is not spelled out, and so may differ in ways that are not visible. -/
  | hidden

namespace Label

/-- The label that an optional expression denotes. -/
def ofExpr? : Option Expr → Label
  | none => absent
  | some (.literal value) => literal value
  | some _ => hidden

/-- Compares labels. Statements without a label have nothing to differ in, and a hidden label is
the same as no other. -/
def same : Label → Label → Bool
  | absent, absent => true
  | literal first, literal second => first == second
  | _, _ => false

theorem same_iff {first second : Label} :
    first.same second = true ↔ first = second ∧ first ≠ hidden := by
  cases first <;> cases second <;> simp [same]

end Label

/-- The pattern of a log statement. -/
structure LogPattern where
  settings : LogSettings
  label : Label

namespace LogPattern

/-- The pattern of a log statement. -/
def ofLog (line : Log) : LogPattern where
  settings := line.settings
  label := .ofExpr? line.label

/-- Compares log statements setting by setting, and then by their labels. -/
def same (first second : LogPattern) : Bool :=
  first.settings.snaplen == second.settings.snaplen &&
    first.settings.group == second.settings.group &&
    first.settings.queueThreshold == second.settings.queueThreshold &&
    first.settings.level == second.settings.level &&
    first.settings.details == second.settings.details &&
    first.settings.given == second.settings.given &&
    first.label.same second.label

theorem same_iff {first second : LogPattern} :
    first.same second = true ↔ first = second ∧ first.label ≠ .hidden := by
  rcases first with ⟨⟨_, _, _, _, _, _⟩, label⟩
  rcases second with ⟨⟨_, _, _, _, _, _⟩, otherLabel⟩
  simp [same, Label.same_iff, and_assoc]

end LogPattern

/-- A statement without the value that it compares with. -/
inductive Pattern where
  /-- A test of a field for equality with any value. -/
  | selector (field : Field)
  | counter
  | notrack
  | verdict (code : VerdictCode) (target : Option Target)
  | limit (bound : Limit)
  | log (line : LogPattern)
  | reject (reason : RejectReason)
  /-- A statement that cannot be folded. -/
  | unfoldable

/-- Compares patterns. One that cannot be folded is the same as no other. -/
def Pattern.same : Pattern → Pattern → Bool
  | selector first, selector second => first == second
  | counter, counter => true
  | notrack, notrack => true
  | verdict code target, verdict otherCode otherTarget =>
    code == otherCode && target == otherTarget
  | limit first, limit second => first == second
  | log first, log second => first.same second
  | reject first, reject second => first == second
  | _, _ => false

/-- The shape of a statement. -/
inductive Shape where
  /-- A test of a field for equality with any value. -/
  | selector (field : Field)
  | counter
  | notrack
  | verdict (code : VerdictCode) (target : Option Target)
  | limit (bound : Limit)
  | log (label : Option Literal) (settings : LogSettings)
  | reject (reason : RejectReason)
  deriving DecidableEq

-- Membership among the shapes of a rule is decided by way of this instance.
instance : LawfulBEq (Option Shape) := inferInstance

/-- Says whether statements of a shape have their values gathered in a set. -/
def Shape.isSelector : Shape → Bool
  | selector _ => true
  | _ => false

/-- The shape that a pattern stands for. A pattern with a part that is the same as no other stands
for none. -/
def Pattern.shape? : Pattern → Option Shape
  | selector field => some (.selector field)
  | counter => some .counter
  | notrack => some .notrack
  | verdict code target => some (.verdict code target)
  | limit bound => some (.limit bound)
  | log { settings, label := .absent } => some (.log none settings)
  | log { settings, label := .literal value } => some (.log (some value) settings)
  | log { label := .hidden, .. } => none
  | reject reason => some (.reject reason)
  | unfoldable => none

namespace Pattern

theorem shape?_log_ne_none_iff {line : LogPattern} :
    (log line).shape? ≠ none ↔ line.label ≠ .hidden := by
  rcases line with ⟨settings, label⟩
  cases label <;> simp [shape?]

theorem same_iff_eq {first second : Pattern} :
    first.same second = true ↔ first = second ∧ first.shape? ≠ none := by
  cases first with
  | log line =>
    cases second with
    | log other => rw [same, LogPattern.same_iff, log.injEq, shape?_log_ne_none_iff]
    | _ => simp [same]
  | _ => cases second <;> simp [same, shape?]

theorem eq_of_shape?_eq_some {first second : Pattern} {shape : Shape}
    (isShape : first.shape? = some shape) (isOtherShape : second.shape? = some shape) :
    first = second := by
  unfold shape? at isShape isOtherShape
  split at isShape <;> cases isShape <;> split at isOtherShape <;> cases isOtherShape <;> rfl

/-- Two patterns are the same when they stand for one shape. -/
theorem same_iff {first second : Pattern} : first.same second = true ↔
    ∃ shape, first.shape? = some shape ∧ second.shape? = some shape := by
  rw [same_iff_eq, Option.ne_none_iff_exists']
  constructor
  · rintro ⟨rfl, shape, isShape⟩
    exact ⟨shape, isShape, isShape⟩
  · rintro ⟨shape, isShape, isOtherShape⟩
    exact ⟨eq_of_shape?_eq_some isShape isOtherShape, shape, isShape⟩

end Pattern

namespace Statement

/-- The pattern of a statement. Only tests of a field for equality can be widened to sets, and a
rejection with a message of its own cannot be folded. -/
def pattern : Statement → Pattern
  | matching test =>
    if test.op ≠ .eq then .unfoldable
    else
      match test.left with
      | .field subject => .selector subject
      | _ => .unfoldable
  | counter _ => .counter
  | notrack => .notrack
  | verdict code target => .verdict code (target.map Target.ofExpr)
  | limit bound => .limit bound
  | log line => .log (.ofLog line)
  | reject answer => if answer.message.isSome then .unfoldable else .reject answer.reason
  | other _ => .unfoldable

/-- The shape of a statement. It is that of its pattern (`shape?_pattern`). -/
def shape? : Statement → Option Shape
  | matching { op := .eq, left := .field subject, right := _ } => some (.selector subject)
  | matching _ => none
  | counter _ => some .counter
  | notrack => some .notrack
  | verdict code target => some (.verdict code (target.map Target.ofExpr))
  | limit bound => some (.limit bound)
  | log { label := none, settings } => some (.log none settings)
  | log { label := some (.literal value), settings } => some (.log (some value) settings)
  | log _ => none
  | reject { message := none, reason } => some (.reject reason)
  | reject _ => none
  | other _ => none

theorem shape?_pattern (statement : Statement) : statement.pattern.shape? = statement.shape? := by
  cases statement with
  | matching test =>
    rcases test with ⟨op, left, right⟩
    cases op <;> cases left <;> rfl
  | log line =>
    rcases line with ⟨_ | label, settings⟩
    · rfl
    · cases label <;> rfl
  | reject answer =>
    rcases answer with ⟨_ | message, reason⟩ <;> rfl
  | _ => rfl

/-- Compares optional statements by their patterns. Absent ones are alike. -/
def alike : Option Statement → Option Statement → Bool
  | none, none => true
  | some first, some second => first.pattern.same second.pattern
  | _, _ => false

/-- Two statements are alike when they have one shape. -/
theorem alike_some_iff {first second : Statement} :
    alike (some first) (some second) = true ↔
      ∃ shape, first.shape? = some shape ∧ second.shape? = some shape := by
  rw [alike, Pattern.same_iff, shape?_pattern, shape?_pattern]

theorem alike_comm (first second : Option Statement) : alike first second = alike second first := by
  cases first with
  | none => cases second <;> rfl
  | some first =>
    cases second with
    | none => rfl
    | some second =>
      rw [Bool.eq_iff_iff, alike_some_iff, alike_some_iff]
      exact exists_congr fun _ => And.comm

theorem alike_trans {first second third : Option Statement}
    (firstAlike : alike first second = true) (secondAlike : alike second third = true) :
    alike first third = true := by
  cases first <;> cases second <;> cases third <;> simp_all [alike, Pattern.same_iff_eq]

end Statement

end Rulefold
