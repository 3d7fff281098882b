import Rulefold.Field
import Rulefold.Flags
import Rulefold.Literal

/-!
# Expressions

Expressions are what statements operate on: literals, fields, sets, concatenations and the like.
Their equality is equality of values, and it is decidable; every expression has a written form.
-/

namespace Rulefold

/-- What a set is declared to be. -/
inductive SetFlag where
  | anonymous | constant | interval | map | timeout | concat
  deriving DecidableEq

instance : Flag SetFlag where
  place
    | .anonymous => 0
    | .constant => 1
    | .interval => 2
    | .map => 3
    | .timeout => 4
    | .concat => 5

/-- What becomes of a packet. -/
inductive VerdictCode where
  | accept
  | drop
  /-- Go on with the next rule. -/
  | proceed
  /-- Go back to the calling chain. -/
  | back
  | jump
  | goto
  | queue
  deriving DecidableEq

instance : Keyword VerdictCode where
  all := [.accept, .drop, .proceed, .back, .jump, .goto, .queue]
  text
    | .accept => "accept"
    | .drop => "drop"
    | .proceed => "continue"
    | .back => "return"
    | .jump => "jump"
    | .goto => "goto"
    | .queue => "queue"
  mem_all word := by cases word <;> decide
  nodup_text := by decide

/-- An expression. -/
inductive Expr where
  /-- A literal value. -/
  | literal (value : Literal)
  /-- A variable that has no value yet. -/
  | symbol (name : String)
  /-- A field of the packet. -/
  | field (subject : Field)
  /-- A set with its elements in order. -/
  | set (flags : Flags SetFlag) (elements : List Expr)
  /-- An element of a set, around its key. -/
  | element (key : Expr)
  /-- Several expressions taken as one. -/
  | concat (parts : List Expr)
  /-- All values from one to another. -/
  | range (low high : Expr)
  /-- All values that agree with one in their leading bits. -/
  | subnet (base : Expr) (length : UInt8)
  /-- A verdict, with the chain it leads to. -/
  | verdict (code : VerdictCode) (target : Option Expr)

/-- The kinds of expression; each kind of field is a kind of its own. -/
inductive ExprKind where
  | literal | symbol | payload | extension | metadata | conntrack | route | socket | set | element
  | concat | range | subnet | verdict
  deriving DecidableEq

/-- The kind of a field as an expression. -/
def Field.kind : Field → ExprKind
  | payload .. => .payload
  | extension .. => .extension
  | metadata .. => .metadata
  | conntrack .. => .conntrack
  | route .. => .route
  | socket .. => .socket

namespace Expr

/-- The kind of an expression. -/
def kind : Expr → ExprKind
  | literal _ => .literal
  | symbol _ => .symbol
  | field subject => subject.kind
  | set .. => .set
  | element _ => .element
  | concat _ => .concat
  | range .. => .range
  | subnet .. => .subnet
  | verdict .. => .verdict

/-- Says whether an expression is a set, whatever its flags. -/
def isSet : Expr → Bool
  | set .. => true
  | _ => false

/-- The elements of an anonymous set; other expressions have none to give. -/
def anonymousElements? : Expr → Option (List Expr)
  | set flags elements => if flags.has .anonymous then some elements else none
  | _ => none

theorem anonymousElements?_eq_some_iff {expr : Expr} {elements : List Expr} :
    expr.anonymousElements? = some elements ↔
      ∃ flags, expr = set flags elements ∧ flags.has .anonymous = true := by
  unfold anonymousElements?
  split
  · rename_i flags _
    constructor
    · intro found
      split at found
      · rename_i anonymous
        cases found
        exact ⟨flags, rfl, anonymous⟩
      · cases found
    · intro found
      rcases found with ⟨_, same, anonymous⟩
      cases same
      rw [if_pos anonymous]
  · rename_i notSet
    constructor
    · intro found
      cases found
    · intro found
      rcases found with ⟨flags, isSet, -⟩
      exact absurd isSet (notSet flags elements)

/-- Says whether an expression is an anonymous set. -/
def isAnonymousSet (expr : Expr) : Bool := expr.anonymousElements?.isSome

mutual

/-- Equality of expressions, as a test. -/
def same : Expr → Expr → Bool
  | literal first, literal second => first == second
  | symbol first, symbol second => first == second
  | field first, field second => first == second
  | set firstFlags first, set secondFlags second =>
    firstFlags == secondFlags && sameAll first second
  | element first, element second => first.same second
  | concat first, concat second => sameAll first second
  | range firstLow firstHigh, range secondLow secondHigh =>
    firstLow.same secondLow && firstHigh.same secondHigh
  | subnet first firstLength, subnet second secondLength =>
    first.same second && firstLength == secondLength
  | verdict first none, verdict second none => first == second
  | verdict first (some firstTarget), verdict second (some secondTarget) =>
    first == second && firstTarget.same secondTarget
  | _, _ => false

/-- Equality of lists of expressions, as a test. -/
def sameAll : List Expr → List Expr → Bool
  | [], [] => true
  | first :: firstRest, second :: secondRest => first.same second && sameAll firstRest secondRest
  | _, _ => false

end

mutual

theorem same_iff_eq : ∀ first second : Expr, first.same second = true ↔ first = second
  | literal _, second => by cases second <;> simp [same]
  | symbol _, second => by cases second <;> simp [same]
  | field _, second => by cases second <;> simp [same]
  | set _ elements, second => by cases second <;> simp [same, sameAll_iff_eq elements]
  | element key, second => by cases second <;> simp [same, same_iff_eq key]
  | concat parts, second => by cases second <;> simp [same, sameAll_iff_eq parts]
  | range low high, second => by
    cases second <;> simp [same, same_iff_eq low, same_iff_eq high]
  | subnet base _, second => by cases second <;> simp [same, same_iff_eq base]
  | verdict _ none, second => by
    rcases second with _ | _ | _ | _ | _ | _ | _ | _ | ⟨_, _ | _⟩ <;> simp [same]
  | verdict _ (some target), second => by
    rcases second with _ | _ | _ | _ | _ | _ | _ | _ | ⟨_, _ | _⟩ <;>
      simp [same, same_iff_eq target]

theorem sameAll_iff_eq : ∀ first second : List Expr, sameAll first second = true ↔ first = second
  | [], second => by cases second <;> simp [sameAll]
  | expr :: rest, second => by
    cases second <;> simp [sameAll, same_iff_eq expr, sameAll_iff_eq rest]

end

instance : DecidableEq Expr := fun first second =>
  decidable_of_iff (first.same second = true) (same_iff_eq first second)

mutual

/-- The written form. The key of an element stands for it; a chain that a literal names is written
without quotation marks. -/
def text : Expr → String
  | literal value => value.written
  | symbol name => "$" ++ name
  | field subject => subject.text
  | set _ elements => "\x7b " ++ ", ".intercalate (texts elements) ++ " \x7d"
  | element key => key.text
  | concat parts => " . ".intercalate (texts parts)
  | range low high => low.text ++ "-" ++ high.text
  | subnet base length => base.text ++ "/" ++ toString length.toNat
  | verdict code none => Keyword.text code
  | verdict code (some (literal (.text name))) => Keyword.text code ++ " " ++ name
  | verdict code (some target) => Keyword.text code ++ " " ++ target.text

/-- The written forms of several expressions. -/
def texts : List Expr → List String
  | [] => []
  | expr :: rest => expr.text :: texts rest

end

theorem texts_eq_map (exprs : List Expr) : texts exprs = exprs.map text := by
  induction exprs with
  | nil => rfl
  | cons expr rest ih => simp [texts, ih]

end Expr

end Rulefold
