import Mathlib.Data.List.Sections
import Rulefold.Proofs.Packet

/-!
# The cases of a match

With its anonymous sets opened a match has finitely many cases, each of which asks for some
comparisons at once. A packet satisfies the match when it satisfies a case, so for any list of
comparisons there is a packet that satisfies just them. Two lists of rules that agree on the packets
which just satisfy one or two of their cases agree on all packets.
-/

namespace Rulefold

namespace Expr

mutual

/-- The values that an expression gives to compare with, when anonymous sets are opened. -/
def leaves : Expr → List Expr
  | set flags elements =>
    if flags.has .anonymous then leavesAll elements else [set flags elements]
  | expr => [expr]

/-- The values that the keys of several elements give. -/
def leavesAll : List Expr → List Expr
  | [] => []
  | element key :: rest => key.leaves ++ leavesAll rest
  | expr :: rest => expr.leaves ++ leavesAll rest

end

theorem leavesAll_eq_flatMap (elements : List Expr) :
    leavesAll elements = elements.flatMap fun element => element.key.leaves := by
  induction elements with
  | nil => rfl
  | cons element rest ih => cases element <;> simp [leavesAll, key, ih]

theorem leaves_of_anonymous {flags : Flags SetFlag} (elements : List Expr)
    (anonymous : flags.has .anonymous = true) :
    (set flags elements).leaves = elements.flatMap fun element => element.key.leaves := by
  rw [leaves, if_pos anonymous, leavesAll_eq_flatMap]

theorem leaves_of_not_isSet {expr : Expr} (noSet : expr.isSet = false) : expr.leaves = [expr] := by
  cases expr <;> simp_all [leaves, isSet]

/-- The fields that a list of expressions consists of, if there is nothing else in it. -/
def fields? (parts : List Expr) : Option (List Field) :=
  parts.mapM fun
    | field subject => some subject
    | _ => none

theorem fields?_map_field (fields : List Field) : fields? (fields.map field) = some fields := by
  induction fields with
  | nil => rfl
  | cons subject rest ih =>
      rw [fields?] at ih
      simp [fields?, ih]

theorem eq_map_field_of_fields?_eq_some {parts : List Expr} {fields : List Field}
    (found : fields? parts = some fields) : parts = fields.map field := by
  induction parts generalizing fields with
  | nil =>
      cases found
      rfl
  | cons part rest ih =>
      rw [fields?] at found
      cases part <;> simp [Option.bind_eq_some_iff] at found
      rcases found with ⟨others, isOthers, rfl⟩
      rw [ih isOthers, List.map_cons]

end Expr

namespace Match

/-- The cases of the comparison of a field with a value. -/
def fieldCases (subject : Field) (value : Expr) : List (List Match) :=
  value.leaves.map fun leaf => [.field subject leaf]

/-- Asks for a case of each. -/
def combine (each : List (List (List Match))) : List (List Match) :=
  each.sections.map List.flatten

/-- The cases of the comparison of several fields with the key of an element. -/
def tupleCases (subjects : List Field) : Expr → List (List Match)
  | .concat values =>
    if subjects.length = values.length then
      combine ((subjects.zip values).map fun (subject, value) => fieldCases subject value)
    else []
  | _ => []

/-- The cases of a match: it is satisfied when all comparisons of a case are. -/
def cases (test : Match) : List (List Match) :=
  match test with
  | ⟨.eq, .field subject, value⟩ => fieldCases subject value
  | ⟨.eq, .concat parts, value⟩ =>
    match Expr.fields? parts, value.anonymousElements? with
    | some subjects, some elements =>
      elements.flatMap fun element => tupleCases subjects element.key
    | _, _ => [[test]]
  | _ => [[test]]

theorem cases_fields {flags : Flags SetFlag} (subjects : List Field) (elements : List Expr)
    (anonymous : flags.has .anonymous = true) :
    (fields subjects (.set flags elements)).cases =
      elements.flatMap fun element => tupleCases subjects element.key := by
  simp [fields, cases, Expr.fields?_map_field, Expr.anonymousElements?, anonymous]

/-- What holds of all comparisons of a case. -/
def SomeCase (property : Match → Prop) (cases : List (List Match)) : Prop :=
  ∃ case ∈ cases, ∀ atom ∈ case, property atom

variable {property : Match → Prop}

theorem someCase_combine {each : List (List (List Match))} :
    SomeCase property (combine each) ↔ ∀ cases ∈ each, SomeCase property cases := by
  induction each with
  | nil => simp [SomeCase, combine]
  | cons cases rest ih =>
      rw [List.forall_mem_cons, ← ih]
      simp only [SomeCase, combine, List.sections, List.mem_map, List.mem_flatMap]
      constructor
      · rintro ⟨-, ⟨-, ⟨others, inRest, case, member, rfl⟩, rfl⟩, all⟩
        rw [List.flatten_cons, List.forall_mem_append] at all
        exact ⟨⟨case, member, all.1⟩, ⟨others.flatten, ⟨others, inRest, rfl⟩, all.2⟩⟩
      · rintro ⟨⟨case, member, first⟩, ⟨-, ⟨others, inRest, rfl⟩, later⟩⟩
        refine ⟨_, ⟨_, ⟨others, inRest, case, member, rfl⟩, rfl⟩, ?_⟩
        rw [List.flatten_cons, List.forall_mem_append]
        exact ⟨first, later⟩

theorem someCase_flatMap {α : Type} {items : List α} {each : α → List (List Match)} :
    SomeCase property (items.flatMap each) ↔ ∃ item ∈ items, SomeCase property (each item) := by
  simp only [SomeCase, List.mem_flatMap]
  constructor
  · rintro ⟨case, ⟨item, inItems, member⟩, all⟩
    exact ⟨item, inItems, case, member, all⟩
  · rintro ⟨item, inItems, case, member, all⟩
    exact ⟨case, ⟨item, inItems, member⟩, all⟩

theorem someCase_fieldCases {subject : Field} {value : Expr} :
    SomeCase property (fieldCases subject value) ↔
      ∃ leaf ∈ value.leaves, property (.field subject leaf) := by
  simp [SomeCase, fieldCases]

theorem someCase_tupleCases {subjects : List Field} {key : Expr} :
    SomeCase property (tupleCases subjects key) ↔ ∃ values, key = .concat values ∧
      List.Forall₂ (fun subject value => SomeCase property (fieldCases subject value))
        subjects values := by
  cases key with
  | concat values =>
      simp only [tupleCases, Expr.concat.injEq, exists_eq_left']
      split
      · rename_i sameLength
        rw [someCase_combine, List.forall_mem_map, List.forall₂_iff_zip]
        simp [sameLength, Prod.forall]
      · rename_i otherLength
        constructor
        · simp [SomeCase]
        · intro related
          exact absurd related.length_eq otherLength
  | _ => simp [tupleCases, SomeCase]

end Match

namespace Packet

variable {packet : Packet}

mutual

/-- A field has the value of an expression when it has that of a leaf. -/
theorem satisfies_field_iff (subject : Field) : ∀ value : Expr,
    packet.satisfies (.field subject value) = true ↔
      ∃ leaf ∈ value.leaves, packet.satisfies (.field subject leaf) = true
  | .set flags elements => by
      cases anonymous : flags.has .anonymous with
      | false => simp [Expr.leaves, anonymous]
      | true =>
          rw [packet.satisfies_set subject flags elements anonymous, Expr.leaves, if_pos anonymous,
            List.any_eq_true, satisfies_key_iff subject elements]
  | .literal _ | .symbol _ | .field _ | .element _ | .concat _ | .range .. | .subnet ..
  | .verdict .. => by simp [Expr.leaves]

theorem satisfies_key_iff (subject : Field) : ∀ elements : List Expr,
    (∃ element ∈ elements, packet.satisfies (.field subject element.key) = true) ↔
      ∃ leaf ∈ Expr.leavesAll elements, packet.satisfies (.field subject leaf) = true
  | [] => by simp [Expr.leavesAll]
  | .element key :: rest => by
      rw [List.exists_mem_cons_iff, satisfies_key_iff subject rest, Expr.key,
        satisfies_field_iff subject key]
      simp only [Expr.leavesAll, List.mem_append, or_and_right, exists_or]
  | .set flags elements :: rest => by
      have isKey : (Expr.set flags elements).key = .set flags elements := rfl
      rw [List.exists_mem_cons_iff, satisfies_key_iff subject rest, isKey,
        satisfies_field_iff subject (.set flags elements)]
      simp only [Expr.leavesAll, List.mem_append, or_and_right, exists_or]
  | .literal _ :: rest | .symbol _ :: rest | .field _ :: rest | .concat _ :: rest
  | .range .. :: rest | .subnet .. :: rest | .verdict .. :: rest => by
      rw [List.exists_mem_cons_iff, satisfies_key_iff subject rest]
      simp [Expr.leavesAll, Expr.leaves, Expr.key]

end

/-- A packet satisfies a match when it satisfies all comparisons of a case. -/
theorem satisfies_iff (packet : Packet) (test : Match) : packet.satisfies test = true ↔
    Match.SomeCase (fun atom => packet.satisfies atom = true) test.cases := by
  unfold Match.cases
  split
  · rename_i subject value
    rw [Match.someCase_fieldCases]
    exact satisfies_field_iff subject value
  · rename_i parts value
    split
    · rename_i subjects elements isFields isElements
      rcases Expr.eq_map_field_of_fields?_eq_some isFields with rfl
      rcases Expr.anonymousElements?_eq_some_iff.mp isElements with ⟨flags, rfl, anonymous⟩
      refine (packet.satisfies_concat subjects flags elements anonymous).trans ?_
      rw [Match.someCase_flatMap]
      simp only [Match.someCase_tupleCases, Match.someCase_fieldCases, ← satisfies_field_iff]
    · simp [Match.SomeCase]
  · simp [Match.SomeCase]

/-- The packet that satisfies just some comparisons, and the matches that follow from them. -/
def just (atoms : List Match) : Packet where
  satisfies test := test.cases.any fun case => case.all fun atom => decide (atom ∈ atoms)
  satisfies_set := by
    intro subject flags elements anonymous
    simp only [Match.field, Match.cases, Match.fieldCases,
      Expr.leaves_of_anonymous elements anonymous, List.map_flatMap, List.any_flatMap]
  satisfies_concat := by
    intro subjects flags elements anonymous
    have isSomeCase : ∀ cases : List (List Match),
        (cases.any fun case => case.all fun atom => decide (atom ∈ atoms)) = true ↔
          Match.SomeCase (fun atom => atom ∈ atoms) cases := by
      intro cases
      simp [Match.SomeCase]
    simp only [isSomeCase, Match.cases_fields subjects elements anonymous,
      Match.someCase_flatMap, Match.someCase_tupleCases]
    rfl

theorem satisfies_just_iff {atoms : List Match} {test : Match} :
    (just atoms).satisfies test = true ↔ Match.SomeCase (fun atom => atom ∈ atoms) test.cases := by
  simp [just, Match.SomeCase]

end Packet

/-- The cases of the matches that a rule tests before it decides. -/
def Rule.cases (rule : Rule) : List (List Match) := Match.combine (rule.guard.map Match.cases)

namespace Packet

variable {packet : Packet}

theorem passes_iff {rule : Rule} : packet.passes rule = true ↔
    Match.SomeCase (fun atom => packet.satisfies atom = true) rule.cases := by
  rw [passes, List.all_eq_true, Rule.cases, Match.someCase_combine, List.forall_mem_map]
  simp only [← satisfies_iff]

theorem passes_just_iff {atoms : List Match} {rule : Rule} :
    (just atoms).passes rule = true ↔ Match.SomeCase (fun atom => atom ∈ atoms) rule.cases := by
  rw [passes, List.all_eq_true, Rule.cases, Match.someCase_combine, List.forall_mem_map]
  simp only [← satisfies_just_iff]

theorem passes_of_just {atoms : List Match} (all : ∀ atom ∈ atoms, packet.satisfies atom = true)
    {rule : Rule} (passes : (just atoms).passes rule = true) : packet.passes rule = true := by
  rcases passes_just_iff.mp passes with ⟨case, member, subset⟩
  exact passes_iff.mpr ⟨case, member, fun atom inCase => all atom (subset atom inCase)⟩

theorem outcome_just_eq_none {atoms : List Match} {rules : List Rule}
    (all : ∀ atom ∈ atoms, packet.satisfies atom = true) (none : packet.outcome rules = none) :
    (just atoms).outcome rules = .none := by
  rw [outcome_eq_none_iff] at none ⊢
  intro rule member passes
  exact none rule member (passes_of_just all passes)

/-- The outcome of a packet depends on one case: that by which the deciding rule was passed. -/
theorem exists_case_of_outcome {rules all : List Rule} (subset : rules ⊆ all)
    {decision : Statement} (decides : packet.outcome rules = some decision) :
    ∃ case ∈ all.flatMap Rule.cases, (∀ atom ∈ case, packet.satisfies atom = true) ∧
      ∀ atoms, case ⊆ atoms → (∀ atom ∈ atoms, packet.satisfies atom = true) →
        (just atoms).outcome rules = some decision := by
  rcases outcome_eq_some_iff.mp decides with ⟨before, rule, after, rfl, none, passes, decides⟩
  rcases passes_iff.mp passes with ⟨case, inCases, satisfied⟩
  have inAll : rule ∈ all := subset (by simp)
  refine ⟨case, List.mem_flatMap.mpr ⟨rule, inAll, inCases⟩, satisfied, ?_⟩
  intro atoms subset all
  exact outcome_eq_some_iff.mpr ⟨before, rule, after, rfl, outcome_just_eq_none all none,
    passes_just_iff.mpr ⟨case, inCases, fun atom inCase => subset inCase⟩, decides⟩

/-- Two lists of rules agree on all packets when they agree on those that just satisfy two of the
cases. -/
theorem outcome_eq_iff {first second : List Rule} :
    (∀ packet : Packet, packet.outcome first = packet.outcome second) ↔
      ∀ case ∈ (first ++ second).flatMap Rule.cases,
        ∀ other ∈ (first ++ second).flatMap Rule.cases,
          (just (case ++ other)).outcome first = (just (case ++ other)).outcome second := by
  constructor
  · intro same case _ other _
    exact same (just (case ++ other))
  · intro same packet
    cases firstOutcome : packet.outcome first with
    | none =>
        cases secondOutcome : packet.outcome second with
        | none => rfl
        | some decision =>
            rcases exists_case_of_outcome (List.subset_append_right first second) secondOutcome with
              ⟨case, member, satisfied, decides⟩
            have all : ∀ atom ∈ case ++ case, packet.satisfies atom = true := by
              simpa using satisfied
            have agree := same case member case member
            rw [outcome_just_eq_none all firstOutcome, decides _ (by simp) all] at agree
            cases agree
    | some decision =>
        rcases exists_case_of_outcome (List.subset_append_left first second) firstOutcome with
          ⟨case, member, satisfied, decides⟩
        cases secondOutcome : packet.outcome second with
        | none =>
            have all : ∀ atom ∈ case ++ case, packet.satisfies atom = true := by
              simpa using satisfied
            have agree := same case member case member
            rw [decides _ (by simp) all, outcome_just_eq_none all secondOutcome] at agree
            cases agree
        | some otherDecision =>
            rcases exists_case_of_outcome (List.subset_append_right first second) secondOutcome with
              ⟨other, otherMember, otherSatisfied, otherDecides⟩
            have all : ∀ atom ∈ case ++ other, packet.satisfies atom = true :=
              List.forall_mem_append.mpr ⟨satisfied, otherSatisfied⟩
            have agree := same case member other otherMember
            rw [decides _ (by simp) all, otherDecides _ (by simp) all] at agree
            exact agree

end Packet

end Rulefold
