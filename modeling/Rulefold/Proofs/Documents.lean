import Mathlib.Data.List.Nodup
import Rulefold.Proofs.Reading

/-!
# Documents are well-formed

Whatever document is read, no name is defined twice in a table of its tree, and all its whole
numbers fit into 64 bits. The lines of a document are added to the tree one by one, and each leaves
it tidy.
-/

namespace Rulefold.Toml

/-- A node in which no name is defined twice and every whole number fits into 64 bits. -/
inductive Node.Tidy : Node → Prop where
  | boolean (value : Bool) : Tidy (.boolean value)
  | integer {value : Int} (fits : Int64.minValue.toInt ≤ value ∧ value ≤ Int64.maxValue.toInt) :
      Tidy (.integer value)
  | fraction : Tidy .fraction
  | moment : Tidy .moment
  | text (value : String) : Tidy (.text value)
  | array {items : List Node} (each : ∀ item ∈ items, Tidy item) : Tidy (.array items)
  | inlineTable {entries : Entries} (names : (entries.map Prod.fst).Nodup)
      (each : ∀ entry ∈ entries, Tidy entry.2) : Tidy (.inlineTable entries)
  | table {stance : Stance} {entries : Entries} (names : (entries.map Prod.fst).Nodup)
      (each : ∀ entry ∈ entries, Tidy entry.2) : Tidy (.table stance entries)
  | tables {members : List Entries}
      (names : ∀ entries ∈ members, (entries.map Prod.fst).Nodup)
      (each : ∀ entries ∈ members, ∀ entry ∈ entries, Tidy entry.2) : Tidy (.tables members)

namespace Entries

/-- Entries of which no two have one name, and all have tidy nodes. -/
structure Tidy (entries : Entries) : Prop where
  names : (entries.map Prod.fst).Nodup
  each : ∀ entry ∈ entries, entry.2.Tidy

variable {entries later : Entries} {name : String} {value : Node}
  {change : Option Node → Option Node}

theorem tidy_nil : Tidy [] := ⟨List.nodup_nil, List.forall_mem_nil _⟩

theorem tidy_table_iff {stance : Stance} : (Node.table stance entries).Tidy ↔ entries.Tidy := by
  constructor
  · rintro ⟨⟩
    exact ⟨‹_›, ‹_›⟩
  · intro tidy
    exact .table tidy.names tidy.each

theorem tidy_tables_iff {members : List Entries} :
    (Node.tables members).Tidy ↔ ∀ entries ∈ members, entries.Tidy := by
  constructor
  · rintro ⟨⟩ entries member
    exact ⟨‹∀ entries ∈ members, (entries.map Prod.fst).Nodup› entries member,
      ‹∀ entries ∈ members, ∀ entry ∈ entries, Node.Tidy entry.2› entries member⟩
  · intro tidy
    exact .tables (fun entries member => (tidy entries member).names)
      fun entries member => (tidy entries member).each

/-- Altering a name adds no other. -/
theorem mem_names_of_alter (altered : entries.alter name change = some later) {other : String}
    (member : other ∈ later.map Prod.fst) : other = name ∨ other ∈ entries.map Prod.fst := by
  induction entries generalizing later with
  | nil =>
      rcases Option.map_eq_some_iff.mp altered with ⟨node, -, rfl⟩
      exact .inl (by simpa using member)
  | cons entry rest ih =>
      rw [alter] at altered
      split at altered
      · rcases Option.map_eq_some_iff.mp altered with ⟨node, -, rfl⟩
        exact .inr member
      · rcases Option.map_eq_some_iff.mp altered with ⟨more, alteredRest, rfl⟩
        rcases List.mem_cons.mp member with rfl | member
        · exact .inr (List.mem_cons_self ..)
        · exact (ih alteredRest member).imp_right (List.mem_cons_of_mem _)

/-- A change to one name keeps entries tidy if it makes tidy nodes of tidy ones. -/
theorem Tidy.alter (tidy : entries.Tidy)
    (keeps : ∀ before after, (∀ node ∈ before, node.Tidy) → change before = some after →
      after.Tidy)
    (altered : entries.alter name change = some later) : later.Tidy := by
  induction entries generalizing later with
  | nil =>
      rcases Option.map_eq_some_iff.mp altered with ⟨node, changed, rfl⟩
      refine ⟨List.nodup_singleton _, List.forall_mem_singleton.mpr ?_⟩
      exact keeps none node (by simp) changed
  | cons entry rest ih =>
      rcases entry with ⟨other, node⟩
      have restTidy : Tidy rest :=
        ⟨(List.nodup_cons.mp tidy.names).2, fun entry member =>
          tidy.each entry (List.mem_cons_of_mem _ member)⟩
      have nodeTidy : node.Tidy := tidy.each _ (List.mem_cons_self ..)
      rw [Entries.alter] at altered
      split at altered
      · rcases Option.map_eq_some_iff.mp altered with ⟨after, changed, rfl⟩
        refine ⟨tidy.names, List.forall_mem_cons.mpr ⟨?_, restTidy.each⟩⟩
        exact keeps (some node) after (by simpa using nodeTidy) changed
      · rename_i differs
        rcases Option.map_eq_some_iff.mp altered with ⟨more, alteredRest, rfl⟩
        have moreTidy := ih restTidy alteredRest
        refine ⟨List.nodup_cons.mpr ⟨?_, moreTidy.names⟩,
          List.forall_mem_cons.mpr ⟨nodeTidy, moreTidy.each⟩⟩
        intro member
        rcases mem_names_of_alter alteredRest member with same | member
        · exact differs (beq_iff_eq.mpr same)
        · exact (List.nodup_cons.mp tidy.names).1 member

theorem tidy_alterLast {members : List Entries} {after : Node}
    {change : Entries → Option Entries} (tidy : ∀ entries ∈ members, entries.Tidy)
    (keeps : ∀ before later, before.Tidy → change before = some later → later.Tidy)
    (altered : alterLast members change = some after) : after.Tidy := by
  rw [alterLast] at altered
  split at altered
  · cases altered
  · rename_i last isLast
    rcases Option.map_eq_some_iff.mp altered with ⟨changed, isChanged, rfl⟩
    rw [tidy_tables_iff]
    intro entries member
    rcases List.mem_append.mp member with member | member
    · exact tidy entries (List.dropLast_sublist members |>.subset member)
    · rw [List.mem_singleton.mp member]
      exact keeps last changed (tidy last (List.mem_of_getLast? isLast)) isChanged

theorem Tidy.define (tidy : entries.Tidy) (valueTidy : value.Tidy) {isOpen : Bool}
    {path : List String} (defined : entries.define isOpen name value path = some later) :
    later.Tidy := by
  induction path generalizing entries isOpen later with
  | nil =>
      rw [Entries.define, Option.ite_none_right_eq_some] at defined
      refine tidy.alter ?_ defined.2
      rintro (_ | before) after - ⟨⟩
      exact valueTidy
  | cons part rest ih =>
      refine tidy.alter ?_ defined
      intro before after beforeTidy changed
      split at changed
      · rcases Option.map_eq_some_iff.mp changed with ⟨inner, defined, rfl⟩
        exact tidy_table_iff.mpr (ih tidy_nil defined)
      · cases changed
      · rename_i stance inner _
        rcases Option.map_eq_some_iff.mp changed with ⟨inner, defined, rfl⟩
        exact tidy_table_iff.mpr (ih (tidy_table_iff.mp (beforeTidy _ rfl)) defined)
      · exact tidy_alterLast (tidy_tables_iff.mp (beforeTidy _ rfl))
          (fun before later beforeTidy defined => ih beforeTidy defined) changed
      · cases changed

theorem Tidy.alterAt (tidy : entries.Tidy)
    (keeps : ∀ before after, (∀ node ∈ before, node.Tidy) → change before = some after →
      after.Tidy)
    {header : List String} (altered : entries.alterAt change header = some later) :
    later.Tidy := by
  induction header generalizing entries later with
  | nil => cases altered
  | cons part rest ih =>
      cases rest with
      | nil => exact tidy.alter keeps altered
      | cons next rest =>
          refine tidy.alter ?_ altered
          intro before after beforeTidy changed
          split at changed
          · rcases Option.map_eq_some_iff.mp changed with ⟨inner, altered, rfl⟩
            exact tidy_table_iff.mpr (ih tidy_nil altered)
          · rcases Option.map_eq_some_iff.mp changed with ⟨inner, altered, rfl⟩
            exact tidy_table_iff.mpr (ih (tidy_table_iff.mp (beforeTidy _ rfl)) altered)
          · exact tidy_alterLast (tidy_tables_iff.mp (beforeTidy _ rfl))
              (fun before later beforeTidy altered => ih beforeTidy altered) changed
          · cases changed

theorem Tidy.openTable (tidy : entries.Tidy) {header : List String}
    (opened : entries.openTable header = some later) : later.Tidy := by
  refine tidy.alterAt ?_ opened
  intro before after beforeTidy changed
  split at changed
  · cases changed
    exact tidy_table_iff.mpr tidy_nil
  · cases changed
    exact tidy_table_iff.mpr (tidy_table_iff.mp (beforeTidy _ rfl))
  · cases changed

theorem Tidy.openMember (tidy : entries.Tidy) {header : List String}
    (opened : entries.openMember header = some later) : later.Tidy := by
  refine tidy.alterAt ?_ opened
  intro before after beforeTidy changed
  split at changed
  · cases changed
    exact tidy_tables_iff.mpr (List.forall_mem_singleton.mpr tidy_nil)
  · cases changed
    rw [tidy_tables_iff, List.forall_mem_append]
    exact ⟨tidy_tables_iff.mp (beforeTidy _ rfl), List.forall_mem_singleton.mpr tidy_nil⟩
  · cases changed

theorem Tidy.defineUnder (tidy : entries.Tidy) (valueTidy : value.Tidy)
    {header path : List String}
    (defined : entries.defineUnder header path name value = some later) : later.Tidy := by
  rw [Entries.defineUnder] at defined
  split at defined
  · exact tidy.define valueTidy defined
  · refine tidy.alterAt ?_ defined
    intro before after beforeTidy changed
    split at changed
    · rcases Option.map_eq_some_iff.mp changed with ⟨inner, defined, rfl⟩
      exact tidy_table_iff.mpr
        ((tidy_table_iff.mp (beforeTidy _ rfl)).define valueTidy defined)
    · exact tidy_alterLast (tidy_tables_iff.mp (beforeTidy _ rfl))
        (fun before later beforeTidy defined => beforeTidy.define valueTidy defined) changed
    · cases changed

end Entries

/-- What every step keeps is kept by all steps together. -/
theorem foldlM_keeps {α σ : Type} {invariant : σ → Prop} {step : σ → α → Option σ}
    {items : List α} {start final : σ}
    (keeps : ∀ state item later, item ∈ items → invariant state → step state item = some later →
      invariant later)
    (folds : items.foldlM step start = some final) (holds : invariant start) :
    invariant final := by
  induction items generalizing start with
  | nil =>
      cases folds
      exact holds
  | cons item rest ih =>
      rw [List.foldlM_cons] at folds
      rcases Option.bind_eq_some_iff.mp folds with ⟨next, stepped, folds⟩
      exact ih (fun state other later member => keeps state other later
        (List.mem_cons_of_mem _ member)) folds
          (keeps start item next (List.mem_cons_self ..) holds stepped)

section Read

open Reader

theorem ensures_integer : integer.Ensures fun value =>
    Int64.minValue.toInt ≤ value ∧ value ≤ Int64.maxValue.toInt := by
  refine .bind_right fun value => (ensures_guard _).bind fun _ fits => ensures_pure ?_
  simpa using fits

theorem ensures_plainValue : plainValue.Ensures Node.Tidy := by
  have textual : (do pure (.text (← quoted)) : Reader Node).Ensures Node.Tidy :=
    .bind_right fun text => ensures_pure (.text text)
  have whole : (do pure (.integer (← integer)) : Reader Node).Ensures Node.Tidy :=
    ensures_integer.bind fun value fits => ensures_pure (.integer fits)
  have other : ∀ {node : Node} (reader : Reader Unit), node.Tidy →
      (do reader; pure node : Reader Node).Ensures Node.Tidy := fun reader tidy =>
    .bind_right fun _ => ensures_pure tidy
  exact textual.orElse <| (other _ (.boolean true)).orElse <| (other _ (.boolean false)).orElse <|
    (other _ .moment).orElse <| (other _ .fraction).orElse <| (other _ .fraction).orElse whole

theorem ensures_separated {α : Type} {item : Reader α} {property : α → Prop}
    (ensures : item.Ensures property) :
    (separated item).Ensures fun values => ∀ value ∈ values, property value := by
  have later : (do char ','; item : Reader α).Ensures property := .bind_right fun _ => ensures
  exact (ensures.bind fun value holds => later.many.bind fun others allHold =>
    ensures_pure (List.forall_mem_cons.mpr ⟨holds, allHold⟩)).orElse
      (ensures_pure (List.forall_mem_nil _))

theorem ensures_array {value : Reader Node} (ensures : value.Ensures Node.Tidy) :
    (array value).Ensures Node.Tidy := by
  have item : (do gap; let item ← value; gap; pure item : Reader Node).Ensures Node.Tidy :=
    .bind_right fun _ => ensures.bind fun node tidy => .bind_right fun _ => ensures_pure tidy
  refine .bind_right fun _ => (ensures_separated item).bind fun items allTidy => ?_
  have ending : (do gap; char ']'; pure (.array items) : Reader Node).Ensures Node.Tidy :=
    .bind_right fun _ => .bind_right fun _ => ensures_pure (.array allTidy)
  dsimp only
  split
  · exact .bind_right fun _ => ending
  · exact ending

theorem ensures_definition {value : Reader Node} (ensures : value.Ensures Node.Tidy) :
    (definition value).Ensures fun defined => defined.2.2.Tidy := by
  refine .bind_right fun parts => .bind_right fun _ => .bind_right fun _ =>
    ensures.bind fun node tidy => ?_
  cases parts.getLast? with
  | none => exact ensures_fail
  | some name => exact ensures_pure tidy

theorem ensures_inlineTable {value : Reader Node} (ensures : value.Ensures Node.Tidy) :
    (inlineTable value).Ensures Node.Tidy := by
  have item : (do let pair ← definition value; blanks; pure pair :
      Reader (List String × String × Node)).Ensures fun defined => defined.2.2.Tidy :=
    (ensures_definition ensures).bind fun defined tidy =>
      .bind_right fun _ => ensures_pure tidy
  refine .bind_right fun _ => (ensures_separated item).bind fun pairs allTidy =>
    .bind_right fun _ => .bind_right fun _ => ?_
  split
  · exact ensures_fail
  · rename_i entries defined
    have tidy : Entries.Tidy entries := foldlM_keeps
      (fun entries pair later member entriesTidy defined =>
        entriesTidy.define (allTidy pair member) defined) defined Entries.tidy_nil
    exact ensures_pure (.inlineTable tidy.names tidy.each)

theorem ensures_value (depth : Nat) : (value depth).Ensures Node.Tidy := by
  induction depth with
  | zero => exact ensures_plainValue
  | succ depth ih =>
      exact ensures_plainValue.orElse ((ensures_array ih).orElse (ensures_inlineTable ih))

/-- A line of a document that defines nothing but a tidy node. -/
def Line.Tidy : Line → Prop
  | definition _ _ value => value.Tidy
  | _ => True

theorem ensures_line : line.Ensures Line.Tidy := by
  have nothing : ∀ {α : Type} {said : Line} (reader : Reader α), said.Tidy →
      (do let _ ← reader; pure said : Reader Line).Ensures Line.Tidy := fun reader tidy =>
    .bind_right fun _ => ensures_pure tidy
  have empty : Line.Tidy .empty := trivial
  have header : ∀ path, Line.Tidy (.header path) := fun _ => trivial
  have memberHeader : ∀ path, Line.Tidy (.memberHeader path) := fun _ => trivial
  refine (nothing _ empty).orElse <| .orElse ?_ <| .orElse ?_ <| .orElse ?_ ?_
  · exact .bind_right fun _ => nothing _ empty
  · exact .bind_right fun _ => .bind_right fun path => .bind_right fun _ =>
      nothing _ (memberHeader path)
  · exact .bind_right fun _ => .bind_right fun path => .bind_right fun _ =>
      nothing _ (header path)
  · exact (ensures_definition (ensures_value _)).bind fun defined tidy => nothing _ tidy

theorem ensures_lines : lines.Ensures fun said => ∀ line ∈ said, line.Tidy := by
  have item : (do let line ← line; blanks; pure line : Reader Line).Ensures Line.Tidy :=
    ensures_line.bind fun said tidy => .bind_right fun _ => ensures_pure tidy
  exact .bind_right fun _ => .bind_right fun _ => item.many.bind fun said allTidy =>
    .bind_right fun _ => ensures_pure allTidy

/-- A line leaves a tidy tree tidy. -/
theorem Line.Tidy.apply {line : Line} (lineTidy : line.Tidy)
    {state later : Entries × List String} (tidy : state.1.Tidy)
    (applied : Line.apply state line = some later) : later.1.Tidy := by
  cases line with
  | empty =>
      cases applied
      exact tidy
  | header path =>
      rcases Option.map_eq_some_iff.mp applied with ⟨entries, opened, rfl⟩
      exact tidy.openTable opened
  | memberHeader path =>
      rcases Option.map_eq_some_iff.mp applied with ⟨entries, opened, rfl⟩
      exact tidy.openMember opened
  | definition path name value =>
      rcases Option.map_eq_some_iff.mp applied with ⟨entries, defined, rfl⟩
      exact tidy.defineUnder lineTidy defined

/-- Whatever document is read, its tree is tidy. -/
theorem tidy_of_parse? {text : String} {entries : Entries} (parsed : parse? text = some entries) :
    entries.Tidy := by
  rw [parse?] at parsed
  rcases Option.bind_eq_some_iff.mp parsed with ⟨⟨said, rest⟩, read, parsed⟩
  rcases Option.bind_eq_some_iff.mp parsed with ⟨⟨built, header⟩, applied, ⟨⟩⟩
  exact @foldlM_keeps _ _ (fun state => Entries.Tidy state.1) _ _ _ _
    (fun state line later member tidy applied =>
      (ensures_lines read line member).apply tidy applied)
    applied Entries.tidy_nil

end Read

end Rulefold.Toml
