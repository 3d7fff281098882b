import Rulefold.Proofs.Lines
import Rulefold.Ruleset

/-!
# What is quoted

The source line of a rule is what stands at its location: in a text at hand the rest of the line
from a byte on, and in a file the line with a number, if that is a text. `Location.Recovers` says
what stands there, whatever way it is searched for, and `Rule.Quotes` which lines quote several
rules.
-/

namespace Rulefold

namespace Text

/-- The line that stands at a byte offset of a text reaches up to the next newline or the end. -/
def LineAtOffset (text : String) (offset : Nat) (line : String) : Prop :=
  ∃ before after, text = before ++ line ++ after ∧ before.utf8ByteSize = offset ∧
    '\n' ∉ line.toList ∧ (after = "" ∨ ∃ rest, after = "\n" ++ rest)

/-- The line with a number among bytes stands behind as many lines less one, each of them ended by a
newline. It has a byte or is ended itself, and its bytes encode it, but for a carriage return right
before its newline. -/
def LineAtNumber (bytes : List UInt8) (number : Nat) (line : String) : Prop :=
  ∃ (ended : List (List UInt8)) (body after : List UInt8),
    bytes = ended.flatMap (· ++ [newline]) ++ (body ++ after) ∧
      (∀ part ∈ ended, newline ∉ part) ∧ ended.length + 1 = number ∧
      newline ∉ body ∧ (after = [] ∨ ∃ rest, after = newline :: rest) ∧ body ++ after ≠ [] ∧
      encode line = if after = [] then body else dropEnd carriageReturn body

theorem decode?_eq_some_iff {bytes : List UInt8} {line : String} :
    decode? bytes = some line ↔ encode line = bytes := by
  constructor
  · intro decoded
    rw [decode?, String.fromUTF8?, Option.dite_none_right_eq_some] at decoded
    rcases decoded with ⟨valid, isLine⟩
    rw [← Option.some_inj.mp isLine]
    rfl
  · rintro rfl
    exact decode?_encode line

theorem dropBytes?_eq_some_iff {offset : Nat} {chars rest : List Char} :
    dropBytes? offset chars = some rest ↔
      ∃ before, chars = before ++ rest ∧ (String.ofList before).utf8ByteSize = offset := by
  constructor
  · intro dropped
    induction chars generalizing offset with
    | nil =>
        cases offset with
        | zero =>
            cases dropped
            exact ⟨[], rfl, rfl⟩
        | succ offset => cases dropped
    | cons char chars ih =>
        rcases Nat.eq_zero_or_pos offset with rfl | pos
        · rw [dropBytes?_zero] at dropped
          exact ⟨[], Option.some_inj.mp dropped, rfl⟩
        · rw [dropBytes?_cons pos, Option.ite_none_right_eq_some] at dropped
          rcases ih dropped.2 with ⟨before, rfl, size⟩
          refine ⟨char :: before, rfl, ?_⟩
          rw [utf8ByteSize_ofList_cons, size]
          exact Nat.add_sub_cancel' dropped.1
  · rintro ⟨before, rfl, rfl⟩
    exact dropBytes?_append before rest

theorem lineAtOffset?_eq_some_iff {text : String} {offset : Nat} {line : String} :
    lineAtOffset? text offset = some line ↔ LineAtOffset text offset line := by
  constructor
  · intro found
    rcases Option.map_eq_some_iff.mp found with ⟨rest, dropped, -⟩
    rcases dropBytes?_eq_some_iff.mp dropped with ⟨before, split, rfl⟩
    rcases exists_line (String.ofList rest) with ⟨other, after, isRest, free, ends⟩
    have isText : text = String.ofList before ++ other ++ after := by
      rw [String.append_assoc, ← isRest, ← String.ofList_append, ← split, String.ofList_toList]
    rw [isText, lineAtOffset?_eq_some _ free ends] at found
    cases found
    exact ⟨_, after, isText, rfl, free, ends⟩
  · rintro ⟨before, after, rfl, rfl, free, ends⟩
    exact lineAtOffset?_eq_some before free ends

theorem lines_flatMap {ended : List (List UInt8)} (free : ∀ part ∈ ended, newline ∉ part)
    (rest : List UInt8) : lines (ended.flatMap (· ++ [newline]) ++ rest) =
      ended.map (dropEnd carriageReturn) ++ lines rest := by
  induction ended with
  | nil => rfl
  | cons part ended ih =>
      rw [List.forall_mem_cons] at free
      rw [List.flatMap_cons, List.append_assoc, List.append_assoc, List.singleton_append,
        lines_append free.1, ih free.2]
      rfl

/-- Bytes start with a line, and the newline after it stands ahead of all others. -/
theorem exists_part (bytes : List UInt8) : ∃ body after, bytes = body ++ after ∧
    newline ∉ body ∧ (after = [] ∨ ∃ rest, after = newline :: rest) := by
  refine ⟨bytes.takeWhile (· != newline), bytes.dropWhile (· != newline),
    List.takeWhile_append_dropWhile.symm, ?_, ?_⟩
  · intro member
    simpa using List.mem_takeWhile_imp member
  · cases behind : bytes.dropWhile (· != newline) with
    | nil => exact .inl rfl
    | cons byte rest =>
        have isNewline := List.head?_dropWhile_not (· != newline) bytes
        rw [behind] at isNewline
        have isNewline : byte = newline := by
          simpa using isNewline
        exact .inr ⟨rest, by rw [isNewline]⟩

theorem getElem?_lines {ended : List (List UInt8)} (endedFree : ∀ part ∈ ended, newline ∉ part)
    {body after : List UInt8} (free : newline ∉ body)
    (ends : after = [] ∨ ∃ rest, after = newline :: rest) (some_bytes : body ++ after ≠ []) :
    (lines (ended.flatMap (· ++ [newline]) ++ (body ++ after)))[ended.length]? =
      some (if after = [] then body else dropEnd carriageReturn body) := by
  rw [lines_flatMap endedFree, List.getElem?_append_right (by simp), List.length_map,
    Nat.sub_self]
  rcases ends with rfl | ⟨rest, rfl⟩
  · rw [List.append_nil] at some_bytes ⊢
    rw [lines_of_newline_not_mem free some_bytes, if_pos rfl]
    rfl
  · rw [lines_append free, if_neg (List.cons_ne_nil _ _)]
    rfl

/-- As many lines as are found among bytes stand there, and there is something behind the others. -/
theorem exists_parts_of_lt {bytes : List UInt8} {count : Nat}
    (inside : count < (lines bytes).length) :
    ∃ (ended : List (List UInt8)) (rest : List UInt8), (∀ part ∈ ended, newline ∉ part) ∧
      bytes = ended.flatMap (· ++ [newline]) ++ rest ∧ ended.length = count ∧ rest ≠ [] := by
  induction count generalizing bytes with
  | zero =>
      refine ⟨[], bytes, List.forall_mem_nil _, rfl, rfl, ?_⟩
      rintro rfl
      exact Nat.lt_irrefl 0 inside
  | succ count ih =>
      rcases exists_part bytes with ⟨body, after, rfl, free, rfl | ⟨rest, rfl⟩⟩
      · by_cases empty : body = []
        · subst empty
          exact absurd inside (Nat.not_lt_zero _)
        · rw [List.append_nil, lines_of_newline_not_mem free empty] at inside
          simp at inside
      · rw [lines_append free, List.length_cons, Nat.succ_lt_succ_iff] at inside
        rcases ih inside with ⟨ended, last, allFree, rfl, length, some_last⟩
        refine ⟨body :: ended, last, List.forall_mem_cons.mpr ⟨free, allFree⟩, ?_, ?_, some_last⟩
        · simp
        · rw [List.length_cons, length]

theorem lineAtNumber?_eq_some_iff {bytes : List UInt8} {number : Nat} {line : String} :
    lineAtNumber? bytes number = some line ↔ LineAtNumber bytes number line := by
  constructor
  · intro found
    cases number with
    | zero => cases found
    | succ count =>
        rcases Option.bind_eq_some_iff.mp found with ⟨part, isPart, decoded⟩
        rcases exists_parts_of_lt (List.getElem?_eq_some_iff.mp isPart).1 with
          ⟨ended, rest, endedFree, rfl, rfl, some_rest⟩
        rcases exists_part rest with ⟨body, after, rfl, free, ends⟩
        rw [getElem?_lines endedFree free ends some_rest, Option.some_inj] at isPart
        exact ⟨ended, body, after, rfl, endedFree, rfl, free, ends, some_rest,
          isPart ▸ decode?_eq_some_iff.mp decoded⟩
  · rintro ⟨ended, body, after, rfl, endedFree, rfl, free, ends, some_bytes, encoded⟩
    rw [lineAtNumber?, getElem?_lines endedFree free ends some_bytes, Option.bind_some, ← encoded,
      decode?_encode]

end Text

namespace Location

variable {files : Files} {location : Location} {line : String}

/-- The line of source text that stands at a location. -/
def Recovers (files : Files) (location : Location) (line : String) : Prop :=
  match location.source.kind with
  | .buffer | .cli | .stdin =>
    ∃ text, location.source.data = some text ∧ Text.LineAtOffset text location.offset line
  | .file =>
    ∃ bytes, files.openName location.source.name = .ok (.file bytes) ∧
      Text.LineAtNumber bytes location.line line
  | .internal | .netlink => False

theorem fileLine_eq_ok_some_iff {name : String} {number : Nat} :
    fileLine files name number = .ok (some line) ↔
      ∃ bytes, files.openName name = .ok (.file bytes) ∧ Text.LineAtNumber bytes number line := by
  simp only [← Text.lineAtNumber?_eq_some_iff]
  cases number with
  | zero => simp [fileLine, Text.lineAtNumber?]
  | succ count =>
      rw [fileLine, if_neg (Nat.succ_ne_zero count)]
      split
      · simp [*]
      · simp [*]
      · simp [*]

theorem recover_eq_some_iff :
    (location.recover files).1 = some line ↔ location.Recovers files line := by
  have found : (location.recover files).1 = some line ↔
      location.sourceLine files = .ok (some line) := by
    rw [recover]
    cases location.sourceLine files <;> simp
  rw [found, sourceLine, Recovers]
  cases location.source.kind with
  | file => exact fileLine_eq_ok_some_iff
  | internal | netlink => simp
  | buffer | cli | stdin =>
      simp only [Except.ok.injEq, Option.bind_eq_some_iff, Text.lineAtOffset?_eq_some_iff]

end Location

namespace Rule

variable {files : Files} {rule : Rule} {rules : List Rule} {lines : List String}

/-- The lines that quote several rules. There is one for each rule that was written and whose source
line can be recovered: the line behind the location. The other rules are passed over. -/
inductive Quotes (files : Files) : List Rule → List String → Prop where
  | nil : Quotes files [] []
  | quoted {rule : Rule} {rules : List Rule} {line : String} {lines : List String}
      (written : rule.location.source.isSynthetic = false)
      (recovers : rule.location.Recovers files line) (rest : Quotes files rules lines) :
      Quotes files (rule :: rules) ((rule.location.text ++ line) :: lines)
  | passed {rule : Rule} {rules : List Rule} {lines : List String}
      (passed : rule.location.source.isSynthetic = true ∨
        ∀ line, ¬rule.location.Recovers files line)
      (rest : Quotes files rules lines) : Quotes files (rule :: rules) lines

/-- The line that quotes a rule, if there is one. -/
def quotedLine? (files : Files) (rule : Rule) : Option String :=
  if rule.location.source.isSynthetic then none
  else (rule.location.recover files).1.map (rule.location.text ++ ·)

theorem quotedLine?_eq_some_iff {quotation : String} :
    rule.quotedLine? files = some quotation ↔ rule.location.source.isSynthetic = false ∧
      ∃ line, rule.location.Recovers files line ∧ rule.location.text ++ line = quotation := by
  simp only [quotedLine?, ← Location.recover_eq_some_iff]
  split <;> simp [*]

theorem quotedLine?_eq_none_iff : rule.quotedLine? files = none ↔
    rule.location.source.isSynthetic = true ∨ ∀ line, ¬rule.location.Recovers files line := by
  simp only [quotedLine?, ← Location.recover_eq_some_iff, ← Option.eq_none_iff_forall_ne_some]
  split <;> simp [*]

theorem quotes_iff : Quotes files rules lines ↔ rules.filterMap (quotedLine? files) = lines := by
  constructor
  · intro quotes
    induction quotes with
    | nil => rfl
    | quoted written recovers rest ih =>
        have isQuoted := quotedLine?_eq_some_iff.mpr ⟨written, _, recovers, rfl⟩
        rw [List.filterMap_cons_some isQuoted, ih]
    | passed passed rest ih =>
        rw [List.filterMap_cons_none (quotedLine?_eq_none_iff.mpr passed), ih]
  · rintro rfl
    induction rules with
    | nil => exact .nil
    | cons rule rest ih =>
        cases isQuoted : rule.quotedLine? files with
        | none =>
            rw [List.filterMap_cons_none isQuoted]
            exact .passed (quotedLine?_eq_none_iff.mp isQuoted) ih
        | some quotation =>
            rcases quotedLine?_eq_some_iff.mp isQuoted with ⟨written, line, recovers, rfl⟩
            rw [List.filterMap_cons_some isQuoted]
            exact .quoted written recovers ih

end Rule

end Rulefold
