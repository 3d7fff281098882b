import Rulefold.Proofs.Likeness

/-!
# When statements are alike

Likeness of optional statements is a partial equivalence. What it leaves out are the statements that
cannot be folded, and each of these is alike to nothing: a match that does not test a field for
equality, a log line or a rejection that is not spelled out, and a statement of a kind that is not
modelled. Of a match only the field counts, and of a verdict its code and its target.
-/

namespace Rulefold

/-- What it takes for two targets of verdicts to be alike: neither verdict has one, or both have the
same literal, or both have an expression of one kind that is not a literal. -/
def Target.Agree : Option Expr → Option Expr → Prop
  | none, none => True
  | some (.literal first), some (.literal second) => first = second
  | some first, some second =>
    (∀ value, first ≠ .literal value) ∧ (∀ value, second ≠ .literal value) ∧
      first.kind = second.kind
  | _, _ => False

/-- Targets are the same, as far as shapes tell, exactly when they agree. -/
theorem Target.map_ofExpr_eq_iff {first second : Option Expr} :
    first.map ofExpr = second.map ofExpr ↔ Agree first second := by
  rcases first with _ | first <;> rcases second with _ | second
  · simp [Agree]
  · simp [Agree]
  · simp [Agree]
  · cases first <;> cases second <;> simp [Agree, ofExpr]

namespace Statement

/-- A statement that cannot be folded: a match that does not test a field for equality, a log line
whose label is not a literal, a rejection with a message of its own, or a statement of a kind that
is not modelled. -/
def StandsAlone : Statement → Prop
  | matching test => test.op ≠ .eq ∨ ∀ subject, test.left ≠ .field subject
  | log line => ∃ label, line.label = some label ∧ ∀ value, label ≠ .literal value
  | reject answer => ∃ message, answer.message = some message
  | other _ => True
  | counter _ | notrack | verdict .. | limit _ => False

theorem shape?_matching_eq_some_iff {test : Match} {shape : Shape} :
    (matching test).shape? = some shape ↔
      test.op = .eq ∧ ∃ subject, test.left = .field subject ∧ shape = .selector subject := by
  rcases test with ⟨op, left, right⟩
  cases op <;> cases left <;> simp [shape?, eq_comm]

/-- The statements that cannot be folded are those without a shape. -/
theorem standsAlone_iff {statement : Statement} :
    statement.StandsAlone ↔ statement.shape? = none := by
  cases statement with
  | matching test =>
      rw [Option.eq_none_iff_forall_ne_some, StandsAlone]
      simp only [Ne, shape?_matching_eq_some_iff, not_and, not_exists]
      constructor
      · rintro (notEq | notField) shape isEq subject isField
        · exact absurd isEq notEq
        · exact absurd isField (notField subject)
      · intro noShape
        by_cases isEq : test.op = .eq
        · exact .inr fun subject isField => noShape _ isEq subject isField rfl
        · exact .inl isEq
  | log line =>
      rcases line with ⟨_ | label, settings⟩
      · simp [StandsAlone, shape?]
      · cases label <;> simp [StandsAlone, shape?]
  | reject answer =>
      rcases answer with ⟨_ | message, reason⟩ <;> simp [StandsAlone, shape?]
  | _ => simp [StandsAlone, shape?]

theorem alike_self_iff {statement : Statement} :
    alike (some statement) (some statement) = true ↔ ¬statement.StandsAlone := by
  rw [alike_some_iff, standsAlone_iff, ← Ne, Option.ne_none_iff_exists']
  simp only [and_self]

theorem StandsAlone.alike_eq_false {statement : Statement} (alone : statement.StandsAlone)
    (other : Option Statement) : alike (some statement) other = false := by
  cases other with
  | none => rfl
  | some other =>
      rw [← Bool.not_eq_true, alike_some_iff, standsAlone_iff.mp alone]
      rintro ⟨shape, isShape, -⟩
      cases isShape

theorem alike_matching_iff {first second : Match} :
    alike (some (.matching first)) (some (.matching second)) = true ↔
      first.op = .eq ∧ second.op = .eq ∧
        ∃ subject, first.left = .field subject ∧ second.left = .field subject := by
  simp only [alike_some_iff, shape?_matching_eq_some_iff]
  constructor
  · rintro ⟨_, ⟨isEq, subject, isField, rfl⟩, isOtherEq, other, isOtherField, same⟩
    cases same
    exact ⟨isEq, isOtherEq, subject, isField, isOtherField⟩
  · rintro ⟨isEq, isOtherEq, subject, isField, isOtherField⟩
    exact ⟨_, ⟨isEq, subject, isField, rfl⟩, isOtherEq, subject, isOtherField, rfl⟩

theorem alike_verdict_iff {code otherCode : VerdictCode} {target otherTarget : Option Expr} :
    alike (some (.verdict code target)) (some (.verdict otherCode otherTarget)) = true ↔
      code = otherCode ∧ Target.Agree target otherTarget := by
  rw [alike_some_iff, ← Target.map_ofExpr_eq_iff]
  simp only [shape?, Option.some_inj, exists_eq_left', Shape.verdict.injEq]
  rw [eq_comm, @eq_comm _ (otherTarget.map _)]

/-- Likeness of optional statements is a partial equivalence, and it is reflexive exactly on absence
and on the statements that can be folded; one that cannot be folded is alike to nothing. Matches are
alike exactly when they test the same field for equality, whatever their values, and verdicts when
they have the same code and their targets agree. -/
theorem alike_partial_equivalence :
    (∀ first second, alike first second = alike second first) ∧
      (∀ first second third, alike first second = true → alike second third = true →
        alike first third = true) ∧
      alike none none = true ∧
      (∀ statement, alike (some statement) (some statement) = true ↔ ¬statement.StandsAlone) ∧
      (∀ statement : Statement, statement.StandsAlone →
        ∀ other, alike (some statement) other = false) ∧
      (∀ first second : Match, alike (some (.matching first)) (some (.matching second)) = true ↔
        first.op = .eq ∧ second.op = .eq ∧
          ∃ subject, first.left = .field subject ∧ second.left = .field subject) ∧
      ∀ code otherCode target otherTarget,
        alike (some (.verdict code target)) (some (.verdict otherCode otherTarget)) = true ↔
          code = otherCode ∧ Target.Agree target otherTarget := by
  refine ⟨alike_comm, ?_, rfl, fun _ => alike_self_iff, fun _ => StandsAlone.alike_eq_false,
    fun _ _ => alike_matching_iff, fun _ _ _ _ => alike_verdict_iff⟩
  intro first second third firstAlike secondAlike
  exact alike_trans firstAlike secondAlike

/-- Jumps to chains that are named by variables are alike, and a log line with a variable for its
label is not even alike to itself. -/
theorem alike_partial_equivalence_of_symbols :
    let jump (name : String) : Statement := .verdict .jump (some (.symbol name))
    let log : Statement := .log ⟨some (.symbol "label"), ⟨0, 0, 0, .warn, 0, .none⟩⟩
    alike (some (jump "first")) (some (jump "second")) = true ∧
      alike (some (jump "second")) (some (jump "third")) = true ∧
      alike (some (jump "first")) (some (jump "third")) = true ∧
      log.StandsAlone ∧ alike (some log) (some log) = false := by
  rcases alike_partial_equivalence with ⟨-, trans, -, -, alone, -, verdicts⟩
  have jumps : ∀ name other : String, alike (some (.verdict .jump (some (.symbol name))))
      (some (.verdict .jump (some (.symbol other)))) = true := by
    intro name other
    exact (verdicts _ _ _ _).mpr ⟨rfl, by simp [Target.Agree, Expr.kind]⟩
  have logAlone : (Statement.log
      ⟨some (.symbol "label"), ⟨0, 0, 0, .warn, 0, .none⟩⟩).StandsAlone :=
    ⟨_, rfl, by simp⟩
  exact ⟨jumps _ _, jumps _ _, trans _ _ _ (jumps _ "second") (jumps _ _), logAlone,
    alone _ logAlone _⟩

end Statement

end Rulefold
