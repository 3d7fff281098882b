import Rulefold.Toml.Reader

/-!
# Quoted text and keys

Text stands between quotation marks, where escapes are understood, or between apostrophes, where
they are not; three marks open a text of several lines. A key is a bare word or a quoted text.
-/

namespace Rulefold.Toml

open Reader

/-- What may stand in a quoted text beside the mark itself. -/
def isTextChar (char : Char) : Bool := isCommentChar char

/-- What stands for itself between quotation marks. -/
def isPlainChar (char : Char) : Bool := isTextChar char && char != '"' && char != '\\'

/-- What stands between apostrophes. -/
def isRawChar (char : Char) : Bool := isTextChar char && char != '\''

/-- A character given by its number in hexadecimal digits. -/
def numberedChar (digits : Nat) : Reader Char := do
  let number := ofDigits 16 (← exactly isHexDigit digits)
  guard (number.isValidChar)
  pure (Char.ofNat number)

/-- What an escape stands for, behind its backslash. -/
def escape : Reader Char :=
  (do char 'b'; pure '\x08') <|>
  (do char 'f'; pure '\x0c') <|>
  (do char 'n'; pure '\n') <|>
  (do char 'r'; pure '\r') <|>
  (do char 't'; pure '\t') <|>
  (do char '"'; pure '"') <|>
  (do char '\\'; pure '\\') <|>
  (do char 'u'; numberedChar 4) <|>
  (do char 'U'; numberedChar 8)

/-- A text of one line between quotation marks. -/
def quotedLine : Reader (List Char) := do
  char '"'
  let content ← many (satisfy isPlainChar <|> (do char '\\'; escape))
  char '"'
  pure content

/-- A text of one line between apostrophes. -/
def rawLine : Reader (List Char) := do
  char '\''
  let content ← span isRawChar
  char '\''
  pure content

/-- One or two marks, which do not yet close a text of several lines. -/
def innerMarks (mark : Char) : Reader (List Char) := do
  let marks ← span (· == mark)
  guard (0 < marks.length && marks.length < 3)
  pure marks

/-- Three marks, which close a text of several lines; up to two more before them belong to it. -/
def closingMarks (mark : Char) : Reader (List Char) := do
  let marks ← span (· == mark)
  guard (3 ≤ marks.length && marks.length ≤ 5)
  pure (marks.drop 3)

/-- A backslash at the end of a line takes away the newline and all blanks and newlines behind
it. -/
def joinedLines : Reader (List Char) := do
  char '\\'
  blanks
  newline
  let _ ← many ((do let _ ← satisfy isBlank) <|> newline)
  pure []

/-- A text of several lines between marks; a newline right behind the opening marks is not part
of it. -/
def linesBetween (mark : Char) (piece : Reader (List Char)) : Reader (List Char) := do
  let _ ← exactly (· == mark) 3
  let _ ← optional newline
  let pieces ← many (piece <|> (do newline; pure ['\n']) <|> innerMarks mark)
  let marks ← closingMarks mark
  pure (pieces.flatten ++ marks)

/-- A text of several lines between quotation marks. -/
def quotedLines : Reader (List Char) :=
  linesBetween '"'
    ((do pure [← satisfy isPlainChar]) <|> joinedLines <|> (do char '\\'; pure [← escape]))

/-- A text of several lines between apostrophes. -/
def rawLines : Reader (List Char) :=
  linesBetween '\'' (do pure [← satisfy isRawChar])

/-- A text in any of its forms. -/
def quoted : Reader String :=
  String.ofList <$> (quotedLines <|> quotedLine <|> rawLines <|> rawLine)

/-- What a bare word is made of. -/
def isBareChar (char : Char) : Bool := char.isAlphanum || char == '-' || char == '_'

/-- A bare word, not empty. -/
def bareWord : Reader (List Char) := do
  let word ← span isBareChar
  guard (!word.isEmpty)
  pure word

/-- One part of a key. -/
def keyPart : Reader String := do
  blanks
  let part ← quotedLine <|> rawLine <|> bareWord
  blanks
  pure (String.ofList part)

/-- How many parts a key may have, and how deep values may be nested. -/
def depthLimit : Nat := 79

/-- A key: its parts between dots. -/
def key : Reader (List String) := do
  let first ← keyPart
  let others ← many (do char '.'; keyPart)
  guard (others.length < depthLimit)
  pure (first :: others)

end Rulefold.Toml
