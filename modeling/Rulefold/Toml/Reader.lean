/-!
# Reading characters

A reader takes characters from the front of a text and answers what it made of them, or fails
without taking any. Repetition is bounded by the length of what is left to read, so reading always
ends; a repeated reader is to take at least one character each time.
-/

namespace Rulefold.Toml

/-- Reads from the front of a text. -/
structure Reader (α : Type) where
  /-- What is made of the front of a text, and what is left of it. -/
  read : List Char → Option (α × List Char)
  /-- Characters are taken from the front only. -/
  suffix : ∀ {text value rest}, read text = some (value, rest) → rest <:+ text

namespace Reader

variable {α β : Type}

/-- Takes nothing. -/
def give (value : α) : Reader α where
  read text := some (value, text)
  suffix := by
    rintro text _ _ ⟨⟩
    exact List.suffix_rfl

/-- Reads one thing, and what comes next depends on it. -/
def andThen (first : Reader α) (next : α → Reader β) : Reader β where
  read text := (first.read text).bind fun (value, rest) => (next value).read rest
  suffix := by
    intro text value rest found
    rcases Option.bind_eq_some_iff.mp found with ⟨⟨middle, left⟩, taken, found⟩
    exact ((next middle).suffix found).trans (first.suffix taken)

/-- Reads nothing at all. -/
def fail : Reader α where
  read _ := none
  suffix := by
    rintro text value rest ⟨⟩

/-- Reads one thing, or another if that fails. -/
def orElse (first : Reader α) (second : Unit → Reader α) : Reader α where
  read text := (first.read text).orElse fun _ => (second ()).read text
  suffix := by
    intro text value rest found
    cases taken : first.read text with
    | none =>
      rw [taken] at found
      exact (second ()).suffix found
    | some answer =>
      rw [taken] at found
      exact first.suffix (taken.trans found)

instance : Monad Reader where
  pure := give
  bind := andThen

instance : Alternative Reader where
  failure := fail
  orElse := orElse

/-- All that is left to read. -/
def ahead : Reader (List Char) where
  read text := some (text, text)
  suffix := by
    rintro text _ _ ⟨⟩
    exact List.suffix_rfl

/-- The next character, if it is of the given kind. -/
def satisfy (isWanted : Char → Bool) : Reader Char where
  read
    | [] => none
    | char :: rest => if isWanted char then some (char, rest) else none
  suffix := by
    rintro (_ | ⟨char, text⟩) value rest found
    · cases found
    · rw [Option.ite_none_right_eq_some] at found
      cases found.2
      exact List.suffix_cons char text

/-- Exactly the given character. -/
def char (wanted : Char) : Reader Unit := do
  let _ ← satisfy (· == wanted)

/-- Exactly the given characters. -/
def chars (wanted : String) : Reader Unit := wanted.toList.forM char

/-- The longest run of characters of the given kind, which may be empty. -/
def span (isWanted : Char → Bool) : Reader (List Char) where
  read text := some (text.takeWhile isWanted, text.dropWhile isWanted)
  suffix := by
    rintro text _ _ ⟨⟩
    exact List.dropWhile_suffix isWanted

/-- As many things as there are, but no more than the given number. -/
def atMost (item : Reader α) : Nat → Reader (List α)
  | 0 => pure []
  | bound + 1 =>
    (do
      let first ← item
      let others ← atMost item bound
      pure (first :: others)) <|> pure []

/-- As many things as there are. -/
def many (item : Reader α) : Reader (List α) := do
  atMost item (← ahead).length

/-- The end of the text. -/
def finish : Reader Unit := do
  guard (← ahead).isEmpty

/-- A line feed, alone or behind a carriage return. -/
def newline : Reader Unit := char '\n' <|> chars "\r\n"

/-- Blanks and tabs. -/
def isBlank (char : Char) : Bool := char == ' ' || char == '\t'

/-- Any number of blanks and tabs. -/
def blanks : Reader Unit := do
  let _ ← span isBlank

/-- What may stand in a comment: everything but control characters other than tabs. -/
def isCommentChar (char : Char) : Bool :=
  char == '\t' || (' ' ≤ char && char != '\x7f')

/-- A comment, up to the end of its line. -/
def comment : Reader Unit := do
  char '#'
  let _ ← span isCommentChar

/-- The end of a line, or of the text. -/
def lineEnd : Reader Unit := newline <|> finish

/-- Blanks, newlines and comments. -/
def gap : Reader Unit := do
  let _ ← many ((do let _ ← satisfy isBlank) <|> newline <|> (do comment; newline))

/-- A value of a decimal or hexadecimal digit. -/
def digitValue (char : Char) : Nat :=
  if char.isDigit then char.toNat - '0'.toNat
  else if 'a' ≤ char && char ≤ 'f' then char.toNat - 'a'.toNat + 10
  else char.toNat - 'A'.toNat + 10

/-- The number that digits denote to a base. -/
def ofDigits (base : Nat) (digits : List Char) : Nat :=
  digits.foldl (fun value digit => value * base + digitValue digit) 0

/-- Says whether a character is a hexadecimal digit. -/
def isHexDigit (char : Char) : Bool :=
  char.isDigit || ('a' ≤ char && char ≤ 'f') || ('A' ≤ char && char ≤ 'F')

/-- A given number of characters of one kind. -/
def exactly (isWanted : Char → Bool) : Nat → Reader (List Char)
  | 0 => pure []
  | count + 1 => do
    let first ← satisfy isWanted
    let others ← exactly isWanted count
    pure (first :: others)

end Reader

end Rulefold.Toml
