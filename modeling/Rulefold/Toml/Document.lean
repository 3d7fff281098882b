import Rulefold.Toml.Moment
import Rulefold.Toml.Node
import Rulefold.Toml.Number
import Rulefold.Toml.Quoted

/-!
# Documents

A document is a list of lines: a line defines a key, opens a table, or is empty. Reading a
document answers the tree that its lines build, and fails if any line is ill-formed or defines
what is defined already.
-/

namespace Rulefold.Toml

open Reader

/-- A value that holds no other. -/
def plainValue : Reader Node :=
  (do pure (.text (← quoted))) <|>
  (do chars "true"; pure (.boolean true)) <|>
  (do chars "false"; pure (.boolean false)) <|>
  (do moment; pure .moment) <|>
  (do decimal; pure .fraction) <|>
  (do unbounded; pure .fraction) <|>
  (do pure (.integer (← integer)))

/-- Things with commas between them. -/
def separated {α : Type} (item : Reader α) : Reader (List α) :=
  (do
    let first ← item
    let others ← many (do char ','; item)
    pure (first :: others)) <|> pure []

/-- An array. Its values may stand on lines of their own, and a comma may follow the last. -/
def array (value : Reader Node) : Reader Node := do
  char '['
  let items ← separated (do gap; let item ← value; gap; pure item)
  if !items.isEmpty then
    let _ ← optional (char ',')
  gap
  char ']'
  pure (.array items)

/-- A key with its value: the parts before the last, the last, and the value. -/
def definition (value : Reader Node) : Reader (List String × String × Node) := do
  let parts ← key
  char '='
  blanks
  let value ← value
  match parts.getLast? with
  | none => failure
  | some name => pure (parts.dropLast, name, value)

/-- A table written as a value. It stands on one line. -/
def inlineTable (value : Reader Node) : Reader Node := do
  char '\x7b'
  let pairs ← separated (do let pair ← definition value; blanks; pure pair)
  blanks
  char '\x7d'
  match pairs.foldlM (fun entries (path, name, value) =>
    Entries.define entries true name value path) [] with
  | none => failure
  | some entries => pure (.inlineTable entries)

/-- A value, with others nested in it up to a depth. -/
def value : Nat → Reader Node
  | 0 => plainValue
  | depth + 1 => plainValue <|> array (value depth) <|> inlineTable (value depth)

/-- What a line of a document says. -/
inductive Line where
  /-- Nothing. -/
  | empty
  /-- A table is opened. -/
  | header (path : List String)
  /-- One more table is opened under a name. -/
  | memberHeader (path : List String)
  /-- A name is defined, below dotted parts. -/
  | definition (path : List String) (name : String) (value : Node)

/-- Blanks, perhaps a comment, and the end of the line. -/
def rest : Reader Unit := do
  blanks
  let _ ← optional comment
  lineEnd

/-- A line of a document. -/
def line : Reader Line :=
  (do newline; pure .empty) <|>
  (do comment; lineEnd; pure .empty) <|>
  (do
    chars "[["
    let path ← key
    chars "]]"
    rest
    pure (.memberHeader path)) <|>
  (do
    char '['
    let path ← key
    char ']'
    rest
    pure (.header path)) <|>
  (do
    let (path, name, value) ← definition (value depthLimit)
    rest
    pure (.definition path name value))

/-- All lines of a text, which may begin with a byte order mark. -/
def lines : Reader (List Line) := do
  let _ ← optional (char '\ufeff')
  blanks
  let lines ← many (do let line ← line; blanks; pure line)
  finish
  pure lines

/-- Adds what a line says to a tree, below the header that was opened last. -/
def Line.apply (state : Entries × List String) : Line → Option (Entries × List String)
  | empty => some state
  | header path => (state.1.openTable path).map (·, path)
  | memberHeader path => (state.1.openMember path).map (·, path)
  | definition path name value => (state.1.defineUnder state.2 path name value).map (·, state.2)

/-- Reads a document. -/
def parse? (text : String) : Option Entries := do
  let (lines, _) ← lines.read text.toList
  let (entries, _) ← lines.foldlM Line.apply ([], [])
  pure entries

end Rulefold.Toml
