import Rulefold.Config.Document
import Rulefold.Proofs.Documents
import Rulefold.Proofs.Settings

/-!
# What a configuration document sets

A document makes a configuration out of what it defines for the two options, out of the standard
values of the options that it leaves out, and out of nothing else. No configuration so made forbids
all shapes, or allows more of them than the greatest whole number of a document.
-/

namespace Rulefold.Config

open Toml

variable {config : Config} {text : String} {found : Option Node}

/-- The number of shapes is what the document defines, or the standard one. -/
theorem maxShapesOf_eq_ok_iff {count : Nat} : maxShapesOf found = .ok count ↔
    found.getD (.integer standard.maxShapes) = .integer count := by
  cases found with
  | none =>
      rw [maxShapesOf, Option.getD_none, Except.ok.injEq, Node.integer.injEq]
      omega
  | some node =>
      cases node with
      | integer value =>
          cases value with
          | ofNat number =>
              rw [maxShapesOf, Option.getD_some, Except.ok.injEq, Node.integer.injEq]
              exact Int.natCast_inj.symm
          | negSucc number => simp [maxShapesOf]
      | _ => simp [maxShapesOf]

/-- Whether folds are reported is what the document defines, or the standard. -/
theorem auditOf_eq_ok_iff {audit : Bool} : auditOf found = .ok audit ↔
    found.getD (.boolean standard.audit) = .boolean audit := by
  cases found with
  | none => simp [auditOf, standard, eq_comm]
  | some node => cases node <;> simp [auditOf]

/-- A document makes a configuration exactly if each option has a value of its kind, defined or
standard, and shapes are allowed. -/
theorem parse_eq_ok_iff : parse text = .ok config ↔
    ∃ entries, Toml.parse? text = some entries ∧
      (entries.find? "max_shapes").getD (.integer standard.maxShapes) =
        .integer config.maxShapes ∧
      (entries.find? "audit").getD (.boolean standard.audit) = .boolean config.audit ∧
      0 < config.maxShapes := by
  rw [parse]
  cases Toml.parse? text with
  | none => simp
  | some entries =>
      simp only [Option.some.injEq, exists_eq_left', ← maxShapesOf_eq_ok_iff,
        ← auditOf_eq_ok_iff]
      cases maxShapesOf (entries.find? "max_shapes") with
      | error _ => simp [Bind.bind, Except.bind]
      | ok maxShapes =>
          cases auditOf (entries.find? "audit") with
          | error _ => simp [Bind.bind, Except.bind]
          | ok audit =>
              rcases config with ⟨configShapes, configAudit⟩
              by_cases allowed : maxShapes = 0
              · simp only [bind, Except.bind, allowed, if_true, reduceCtorEq, Except.ok.injEq,
                  false_iff]
                omega
              · simp only [bind, Except.bind, allowed, if_false, Except.ok.injEq, mk.injEq]
                constructor
                · rintro ⟨rfl, rfl⟩
                  exact ⟨rfl, rfl, Nat.pos_of_ne_zero allowed⟩
                · rintro ⟨rfl, rfl, -⟩
                  exact ⟨rfl, rfl⟩

/-- Every configuration that a document makes allows some shapes, and not too many to count. -/
theorem parse_within (parsed : parse text = .ok config) :
    0 < config.maxShapes ∧ (config.maxShapes : Int) ≤ Int64.maxValue.toInt := by
  rcases parse_eq_ok_iff.mp parsed with ⟨entries, isTree, isMaxShapes, -, allowed⟩
  refine ⟨allowed, ?_⟩
  have isTidy : (Node.integer config.maxShapes).Tidy := by
    rw [← isMaxShapes]
    cases isFound : entries.find? "max_shapes" with
    | none => exact .integer (by decide)
    | some node =>
        rcases Option.map_eq_some_iff.mp isFound with ⟨entry, isEntry, rfl⟩
        exact (tidy_of_parse? isTree).each entry (List.mem_of_find?_eq_some isEntry)
  cases isTidy with
  | integer fits => exact fits.2

/-- A document in a file is loaded as the configuration that it makes, and the diagnostic tells of
it. -/
theorem load_eq_ok_iff {files : Files} {name : String} {diagnostic : Diagnostic}
    (stored : files.openName name = .ok (.file (Text.encode text))) :
    load files name = .ok (config, diagnostic) ↔
      parse text = .ok config ∧
        diagnostic = .configLoaded config.maxShapes config.audit name := by
  rw [load, stored]
  dsimp only
  rw [Text.decode?_encode]
  dsimp only
  cases parse text with
  | error _ => simp [bind, Except.bind]
  | ok made =>
      simp only [bind, Except.bind, pure, Except.pure, Except.ok.injEq, Prod.mk.injEq]
      constructor
      · rintro ⟨rfl, rfl⟩
        exact ⟨rfl, rfl⟩
      · rintro ⟨rfl, rfl⟩
        exact ⟨rfl, rfl⟩

section Settings

variable {settings : List Setting}

/-- Settings give a name a value, or leave the name out where the value is the standard one. -/
def Gives (settings : List Setting) (name : String) (value standardValue : Node) : Prop :=
  (∃ setting ∈ settings, setting.name = name ∧ setting.value.node = value) ∨
    ((∀ setting ∈ settings, setting.name ≠ name) ∧ value = standardValue)

theorem getD_find?_eq_iff (names : (settings.map Setting.name).Nodup) (name : String)
    (value standardValue : Node) :
    (Entries.find? (settings.map Setting.entry) name).getD standardValue = value ↔
      Gives settings name value standardValue := by
  rw [Entries.find?, List.find?_map]
  cases isFound : settings.find? ((fun entry => entry.1 == name) ∘ Setting.entry) with
  | none =>
      have absent : ∀ setting ∈ settings, setting.name ≠ name := by
        simpa [Setting.entry] using isFound
      constructor
      · intro isStandard
        exact .inr ⟨absent, isStandard.symm⟩
      · rintro (⟨setting, member, isName, -⟩ | ⟨-, isStandard⟩)
        · exact absurd isName (absent setting member)
        · exact isStandard.symm
  | some setting =>
      have member := List.mem_of_find?_eq_some isFound
      have isName : setting.name = name := by
        simpa [Setting.entry] using List.find?_some isFound
      constructor
      · intro isValue
        exact .inl ⟨setting, member, isName, isValue⟩
      · rintro (⟨other, otherMember, sameName, isValue⟩ | ⟨absent, -⟩)
        · have same := List.inj_on_of_nodup_map names otherMember member
            (sameName.trans isName.symm)
          exact same ▸ isValue
        · exact absurd isName (absent setting member)

/-- A document of settings makes the configuration that they give, unless they set a name twice,
whatever they set besides. -/
theorem parse_document_iff : parse (document settings) = .ok config ↔
    (settings.map Setting.name).Nodup ∧
      Gives settings "max_shapes" (.integer config.maxShapes) (.integer standard.maxShapes) ∧
      Gives settings "audit" (.boolean config.audit) (.boolean standard.audit) ∧
      0 < config.maxShapes := by
  rw [parse_eq_ok_iff, parse?_document]
  by_cases names : (settings.map Setting.name).Nodup
  · rw [if_pos names]
    simp only [Option.some.injEq, exists_eq_left', getD_find?_eq_iff names, names, true_and]
  · rw [if_neg names]
    simp only [reduceCtorEq, names, false_and, exists_false]

example : parse "max_shapes = 4 # not many\n[other]\naudit = 0\n" =
    .ok { maxShapes := 4, audit := true } := by
  decide

end Settings

end Rulefold.Config
