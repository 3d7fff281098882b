import Rulefold.Toml.Document

/-!
# What readers do

A reader that takes at least one character each time can be repeated, and repeating it only ends
where it fails: the bound on the number of repetitions is never what ends it (`many_stops`). What
holds of whatever a reader answers holds of all that it answers when it is repeated.
-/

namespace Rulefold.Toml.Reader

variable {α β : Type} {reader first : Reader α} {second : Reader β} {text rest : List Char}

theorem read_pure (value : α) (text : List Char) :
    (pure value : Reader α).read text = some (value, text) := rfl

theorem read_bind (reader : Reader α) (next : α → Reader β) (text : List Char) :
    (reader >>= next).read text =
      (reader.read text).bind fun taken => (next taken.1).read taken.2 := rfl

theorem read_orElse (first second : Reader α) (text : List Char) :
    (first <|> second).read text = (first.read text).or (second.read text) :=
  Option.orElse_eq_or

theorem read_guard (condition : Bool) (text : List Char) :
    (guard condition : Reader Unit).read text = if condition then some ((), text) else none := by
  cases condition <;> rfl

theorem read_map (make : α → β) (reader : Reader α) (text : List Char) :
    (make <$> reader).read text = (reader.read text).map fun taken => (make taken.1, taken.2) := by
  change (reader >>= fun value => pure (make value)).read text = _
  rw [read_bind]
  cases reader.read text <;> rfl

theorem read_optional (reader : Reader α) (text : List Char) : (optional reader).read text =
    ((reader.read text).map fun taken => (some taken.1, taken.2)).or (some (none, text)) := by
  change (some <$> reader <|> pure none).read text = _
  rw [read_orElse, read_map]
  rfl

theorem read_satisfy_cons (isWanted : Char → Bool) (char : Char) (text : List Char) :
    (satisfy isWanted).read (char :: text) =
      if isWanted char then some (char, text) else none := rfl

theorem read_char_cons (wanted other : Char) (text : List Char) :
    (char wanted).read (other :: text) = if other == wanted then some ((), text) else none := by
  rw [char, read_bind, read_satisfy_cons]
  split <;> rfl

theorem bind_eq_some_iff {next : α → Reader β} {answer : β × List Char} :
    (reader >>= next).read text = some answer ↔
      ∃ value middle, reader.read text = some (value, middle) ∧
        (next value).read middle = some answer := by
  rw [read_bind, Option.bind_eq_some_iff, Prod.exists]

section Consumes

/-- A reader takes at least one character. -/
def Consumes (reader : Reader α) : Prop :=
  ∀ ⦃text value rest⦄, reader.read text = some (value, rest) → rest.length < text.length

theorem Consumes.bind_left (consumes : first.Consumes) (next : α → Reader β) :
    (first >>= next).Consumes := by
  intro text value rest found
  rcases bind_eq_some_iff.mp found with ⟨middle, left, taken, found⟩
  exact Nat.lt_of_le_of_lt ((next middle).suffix found).length_le (consumes taken)

theorem Consumes.bind_right (first : Reader α) {next : α → Reader β}
    (consumes : ∀ value, (next value).Consumes) : (first >>= next).Consumes := by
  intro text value rest found
  rcases bind_eq_some_iff.mp found with ⟨middle, left, taken, found⟩
  exact Nat.lt_of_lt_of_le (consumes middle found) (first.suffix taken).length_le

theorem Consumes.orElse {other : Reader α} (consumes : first.Consumes)
    (otherConsumes : other.Consumes) : (first <|> other).Consumes := by
  intro text value rest found
  rw [read_orElse, Option.or_eq_some_iff] at found
  rcases found with found | ⟨-, found⟩
  · exact consumes found
  · exact otherConsumes found

theorem consumes_satisfy (isWanted : Char → Bool) : (satisfy isWanted).Consumes := by
  rintro (_ | ⟨char, text⟩) value rest found
  · cases found
  · rw [read_satisfy_cons, Option.ite_none_right_eq_some] at found
    cases found.2
    exact Nat.lt_succ_self _

theorem consumes_char (wanted : Char) : (char wanted).Consumes :=
  (consumes_satisfy _).bind_left _

theorem consumes_chars {wanted : String} (some_chars : wanted ≠ "") : (chars wanted).Consumes := by
  rw [chars]
  cases characters : wanted.toList with
  | nil => exact absurd (String.toList_eq_nil_iff.mp characters) some_chars
  | cons first rest =>
      exact (consumes_char first).bind_left fun _ => rest.forM char

theorem consumes_newline : newline.Consumes :=
  (consumes_char '\n').orElse (consumes_chars (by decide))

theorem consumes_comment : comment.Consumes :=
  (consumes_char '#').bind_left _

end Consumes

section Many

variable {item : Reader α}

/-- Puts one thing in front of others that were read behind it. -/
def prepend (first : α) (others : List α × List Char) : List α × List Char :=
  (first :: others.1, others.2)

/-- A repetition never fails. -/
theorem exists_read_atMost (item : Reader α) (bound : Nat) (text : List Char) :
    ∃ answer, (atMost item bound).read text = some answer := by
  cases bound with
  | zero => exact ⟨_, read_pure _ text⟩
  | succ bound =>
      rw [atMost, read_orElse]
      exact Option.isSome_iff_exists.mp (by simp [read_pure])

theorem read_atMost_of_none (fails : item.read text = none) (bound : Nat) :
    (atMost item bound).read text = some ([], text) := by
  cases bound with
  | zero => rfl
  | succ bound =>
      rw [atMost, read_orElse, read_bind, fails]
      rfl

theorem read_atMost_of_some {value : α} (found : item.read text = some (value, rest))
    (bound : Nat) : (atMost item (bound + 1)).read text =
      ((atMost item bound).read rest).map (prepend value) := by
  rcases exists_read_atMost item bound rest with ⟨others, isOthers⟩
  rw [atMost, read_orElse, read_bind, found, Option.bind_some, read_bind, isOthers]
  rfl

/-- Bounds that are no less than the length of the text make no difference. -/
theorem read_atMost_eq (consumes : item.Consumes) {bound other : Nat}
    (enough : text.length ≤ bound) (otherEnough : text.length ≤ other) :
    (atMost item bound).read text = (atMost item other).read text := by
  induction bound generalizing text other with
  | zero =>
      cases found : item.read text with
      | none => rw [read_atMost_of_none found, read_atMost_of_none found]
      | some taken =>
          have shorter := consumes found
          omega
  | succ bound ih =>
      cases found : item.read text with
      | none => rw [read_atMost_of_none found, read_atMost_of_none found]
      | some taken =>
          have shorter := consumes found
          cases other with
          | zero => omega
          | succ other =>
              have same := @ih taken.2 other (by omega) (by omega)
              rw [read_atMost_of_some found, read_atMost_of_some found, same]

theorem read_many_of_none (fails : item.read text = none) :
    (many item).read text = some ([], text) :=
  read_atMost_of_none fails text.length

theorem read_many_of_some (consumes : item.Consumes) {value : α}
    (found : item.read text = some (value, rest)) :
    (many item).read text = ((many item).read rest).map (prepend value) := by
  have shorter := consumes found
  rcases Nat.exists_eq_add_one.mpr (Nat.zero_lt_of_lt shorter) with ⟨bound, length⟩
  rw [length, Nat.lt_succ_iff] at shorter
  change (atMost item text.length).read text = _
  rw [length, read_atMost_of_some found, read_atMost_eq consumes shorter (Nat.le_refl _)]
  rfl

/-- A repetition ends only where there is nothing more to be repeated. -/
theorem many_stops (consumes : item.Consumes) {text rest : List Char} {values : List α}
    (found : (many item).read text = some (values, rest)) : item.read rest = none := by
  cases taken : item.read text with
  | none =>
      rw [read_many_of_none taken] at found
      cases found
      exact taken
  | some answer =>
      rw [read_many_of_some consumes taken, Option.map_eq_some_iff] at found
      rcases found with ⟨others, found, isValues⟩
      have left : rest = others.2 := (congrArg Prod.snd isValues).symm
      have shorter := consumes taken
      rw [left]
      exact many_stops consumes found
termination_by text.length

end Many

section Ensures

variable {property : α → Prop} {other : β → Prop}

/-- Whatever a reader answers has a property. -/
def Ensures (reader : Reader α) (property : α → Prop) : Prop :=
  ∀ ⦃text value rest⦄, reader.read text = some (value, rest) → property value

theorem ensures_pure {value : α} (holds : property value) :
    (pure value : Reader α).Ensures property := by
  rintro text _ _ ⟨⟩
  exact holds

theorem ensures_fail : (failure : Reader α).Ensures property := by
  rintro text value rest ⟨⟩

theorem ensures_guard (condition : Bool) :
    (guard condition : Reader Unit).Ensures fun _ => condition = true := by
  intro text value rest found
  rw [read_guard, Option.ite_none_right_eq_some] at found
  exact found.1

theorem Ensures.bind (ensures : first.Ensures property) {next : α → Reader β}
    (later : ∀ value, property value → (next value).Ensures other) :
    (first >>= next).Ensures other := by
  intro text value rest found
  rcases bind_eq_some_iff.mp found with ⟨middle, left, taken, found⟩
  exact later middle (ensures taken) found

/-- What comes last alone decides what is answered. -/
theorem Ensures.bind_right {next : α → Reader β} (later : ∀ value, (next value).Ensures other) :
    (first >>= next).Ensures other := by
  intro text value rest found
  rcases bind_eq_some_iff.mp found with ⟨middle, left, -, found⟩
  exact later middle found

theorem Ensures.orElse {second : Reader α} (ensures : first.Ensures property)
    (otherEnsures : second.Ensures property) : (first <|> second).Ensures property := by
  intro text value rest found
  rw [read_orElse, Option.or_eq_some_iff] at found
  rcases found with found | ⟨-, found⟩
  · exact ensures found
  · exact otherEnsures found

theorem Ensures.many (ensures : first.Ensures property) :
    (many first).Ensures fun values => ∀ value ∈ values, property value := by
  have atMost : ∀ bound, (atMost first bound).Ensures fun values =>
      ∀ value ∈ values, property value := by
    intro bound
    induction bound with
    | zero => exact ensures_pure (List.forall_mem_nil _)
    | succ bound ih =>
        exact (ensures.bind fun value holds => ih.bind fun others allHold =>
          ensures_pure (List.forall_mem_cons.mpr ⟨holds, allHold⟩)).orElse
            (ensures_pure (List.forall_mem_nil _))
  exact .bind_right fun text => atMost text.length

end Ensures

end Rulefold.Toml.Reader

namespace Rulefold.Toml

open Reader

/-! Each reader that is repeated takes a character, so that its repetition is exhaustive. -/

section Repeated

theorem consumes_digit (isWanted : Char → Bool) :
    (do let _ ← optional (char '_'); satisfy isWanted : Reader Char).Consumes :=
  .bind_right _ fun _ => consumes_satisfy isWanted

theorem consumes_gapPiece : ((do let _ ← satisfy isBlank) <|> newline <|>
    (do comment; newline) : Reader Unit).Consumes :=
  ((consumes_satisfy _).bind_left _).orElse
    (consumes_newline.orElse (consumes_comment.bind_left _))

theorem consumes_quotedPiece :
    (satisfy isPlainChar <|> (do char '\\'; escape) : Reader Char).Consumes :=
  (consumes_satisfy _).orElse ((consumes_char _).bind_left _)

theorem consumes_joinedPiece :
    ((do let _ ← satisfy isBlank) <|> newline : Reader Unit).Consumes :=
  ((consumes_satisfy _).bind_left _).orElse consumes_newline

theorem consumes_innerMarks (mark : Char) : (innerMarks mark).Consumes := by
  intro text value rest found
  rcases bind_eq_some_iff.mp found with ⟨marks, left, taken, guarded⟩
  rcases bind_eq_some_iff.mp guarded with ⟨_, _, checked, ⟨⟩⟩
  cases taken
  rw [read_guard, Option.ite_none_right_eq_some] at checked
  rcases checked with ⟨some_marks, ⟨⟩⟩
  have split := congrArg List.length (@List.takeWhile_append_dropWhile Char (· == mark) text)
  rw [List.length_append] at split
  simp only [Bool.and_eq_true, decide_eq_true_iff] at some_marks
  omega

theorem consumes_linesPiece {piece : Reader (List Char)} (consumes : piece.Consumes)
    (mark : Char) :
    (piece <|> (do newline; pure ['\n']) <|> innerMarks mark : Reader (List Char)).Consumes :=
  consumes.orElse ((consumes_newline.bind_left _).orElse (consumes_innerMarks mark))

theorem consumes_keyPiece : (do char '.'; keyPart : Reader String).Consumes :=
  (consumes_char _).bind_left _

theorem consumes_separatedPiece {α : Type} (item : Reader α) :
    (do char ','; item : Reader α).Consumes :=
  (consumes_char _).bind_left _

theorem consumes_definition (value : Reader Node) : (definition value).Consumes :=
  .bind_right _ fun _ => (consumes_char _).bind_left _

theorem consumes_line : line.Consumes :=
  (consumes_newline.bind_left _).orElse
    ((consumes_comment.bind_left _).orElse
      (((consumes_chars (by decide)).bind_left _).orElse
        (((consumes_char _).bind_left _).orElse
          ((consumes_definition _).bind_left _))))

end Repeated

end Rulefold.Toml
