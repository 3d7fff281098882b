import Rulefold.Text.Utf8

/-!
# Lines of text

A line can be found in two ways: by the byte offset of its start in a text at hand, or by its
number among the lines of a file. A newline ends a line. In a file a carriage return right before
the newline belongs to the line's end, and a line that is no valid text is counted but has no text.
-/

namespace Rulefold.Text

/-- The byte that ends a line. -/
def newline : UInt8 := 0x0a

/-- The byte that belongs to the end of a line if it stands right before a newline. -/
def carriageReturn : UInt8 := 0x0d

/-- The characters that follow a number of bytes. There are none to give if the number exceeds
the text or ends inside a character. -/
def dropBytes? : Nat → List Char → Option (List Char)
  | 0, chars => some chars
  | _ + 1, [] => none
  | offset + 1, char :: rest =>
    if char.utf8Size ≤ offset + 1 then dropBytes? (offset + 1 - char.utf8Size) rest else none

/-- The text from a byte offset up to the next newline or the end. -/
def lineAtOffset? (text : String) (offset : Nat) : Option String :=
  (dropBytes? offset text.toList).map fun rest => String.ofList (rest.takeWhile (· != '\n'))

/-- The lines of a file without their ends. What follows the last newline is a line unless it is
empty. -/
def lines : List UInt8 → List (List UInt8)
  | [] => []
  | byte :: rest =>
    if byte = newline then [] :: lines rest
    else if byte = carriageReturn ∧ rest.head? = some newline then lines rest
    else
      match lines rest with
      | [] => [[byte]]
      | line :: more => (byte :: line) :: more

/-- The text of a line of a file, counted from one. -/
def lineAtNumber? (bytes : List UInt8) : Nat → Option String
  | 0 => none
  | number + 1 => (lines bytes)[number]?.bind decode?

end Rulefold.Text
