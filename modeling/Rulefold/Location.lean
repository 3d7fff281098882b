import Rulefold.Diagnostic
import Rulefold.Text.Line

/-!
# Locations

A rule remembers where its text came from, so that the line can be quoted later. Texts at hand
are searched by byte offset, files are opened again and searched by line number, and rules that
were made up or read back from the kernel have no line.
-/

namespace Rulefold

/-- Where rules can come from. -/
inductive SourceKind where
  | buffer | cli | stdin | file | internal | netlink
  deriving DecidableEq

instance : Keyword SourceKind where
  all := [.buffer, .cli, .stdin, .file, .internal, .netlink]
  text
    | .buffer => "buffer"
    | .cli => "cli"
    | .stdin => "stdin"
    | .file => "file"
    | .internal => "internal"
    | .netlink => "netlink"
  mem_all word := by cases word <;> decide
  nodup_text := by decide

/-- An input that rules come from. -/
structure Source where
  kind : SourceKind
  /-- The name of a file, or a label. -/
  name : String
  /-- The text of an input that is at hand. -/
  data : Option String
  deriving DecidableEq

/-- Says whether the rules of a source have no written text. -/
def Source.isSynthetic (source : Source) : Bool :=
  match source.kind with
  | .internal | .netlink => true
  | .buffer | .cli | .stdin | .file => false

/-- A place in a source. -/
structure Location where
  source : Source
  /-- The byte at which the line starts in the text at hand. -/
  offset : Nat
  /-- The number of the line, from one. -/
  line : Nat
  firstColumn : Nat
  lastColumn : Nat
  deriving DecidableEq

namespace Location

/-- The place of what has no source text. -/
def internal : Location :=
  { source := { kind := .internal, name := "internal", data := none }
    offset := 0
    line := 0
    firstColumn := 1
    lastColumn := 1 }

/-- The written form, which stands in front of a quoted line. -/
def text (location : Location) : String :=
  location.source.name ++ ":" ++ toString location.line ++ ":" ++
    toString location.firstColumn ++ "-" ++ toString location.lastColumn ++ ": "

/-- Finds a line of a file by its number. No file is opened for line zero, and a directory has no
lines. -/
def fileLine (files : Files) (name : String) (line : Nat) : Except OpenError (Option String) :=
  if line = 0 then .ok none
  else
    match files.openName name with
    | .error failure => .error failure
    | .ok .directory => .ok none
    | .ok (.file content) => .ok (Text.lineAtNumber? content line)

/-- Recovers the line of source text at a location, if there is one. Only opening a file can
fail. -/
def sourceLine (files : Files) (location : Location) : Except OpenError (Option String) :=
  match location.source.kind with
  | .buffer | .cli | .stdin =>
    .ok (location.source.data.bind fun text => Text.lineAtOffset? text location.offset)
  | .file => fileLine files location.source.name location.line
  | .internal | .netlink => .ok none

/-- Recovers the line of source text at a location, and tells of a file that cannot be opened. -/
def recover (files : Files) (location : Location) : Option String × List Diagnostic :=
  match location.sourceLine files with
  | .ok line => (line, [])
  | .error failure => (none, [.unopened location.source.name failure])

end Location

end Rulefold
