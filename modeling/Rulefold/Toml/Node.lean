/-!
# The tree of a document

A document is a tree of named nodes. A table may be opened by a header, implied by the header of a
table below it, or made by a dotted key; which of these it was decides what may be added to it
later. No name can be defined twice.
-/

namespace Rulefold.Toml

/-- How a table came to be. -/
inductive Stance where
  /-- A header opened it. -/
  | opened
  /-- The header of a table below it implied it. -/
  | implied
  /-- A dotted key made it. -/
  | dotted
  deriving DecidableEq

/-- A node of a document. Of fractions and moments only the kind is kept. -/
inductive Node where
  | boolean (value : Bool)
  | integer (value : Int)
  | fraction
  | moment
  | text (value : String)
  | array (items : List Node)
  /-- A table written as a value; nothing can be added to it. -/
  | inlineTable (entries : List (String × Node))
  | table (stance : Stance) (entries : List (String × Node))
  /-- Tables under one name, each opened by a header of its own. -/
  | tables (members : List (List (String × Node)))

/-- The entries of a table, in the order of their definition. -/
abbrev Entries := List (String × Node)

namespace Entries

/-- The node of a name. -/
def find? (entries : Entries) (name : String) : Option Node :=
  (List.find? (·.1 == name) entries).map (·.2)

/-- Replaces or adds the node of a name by what a function makes of it. -/
def alter (entries : Entries) (name : String) (change : Option Node → Option Node) :
    Option Entries :=
  match entries with
  | [] => (change none).map fun node => [(name, node)]
  | (other, node) :: rest =>
    if other == name then (change (some node)).map fun node => (other, node) :: rest
    else (alter rest name change).map ((other, node) :: ·)

/-- Changes the last member of several tables. -/
def alterLast (members : List Entries) (change : Entries → Option Entries) : Option Node :=
  match members.getLast? with
  | none => none
  | some last => (change last).map fun last => .tables (members.dropLast ++ [last])

/-- Defines a name below dotted parts. Keys may be added to the table at hand, and to tables that
dotted keys made, but not to a table that a header opened or implied. -/
def define (entries : Entries) (isOpen : Bool) (name : String) (value : Node) :
    List String → Option Entries
  | [] =>
    if isOpen then
      entries.alter name fun
        | none => some value
        | some _ => none
    else none
  | part :: rest =>
    entries.alter part fun
      | none => (define [] true name value rest).map (.table .dotted)
      | some (.table .opened _) => none
      | some (.table stance inner) =>
        (define inner (stance == .dotted) name value rest).map (.table stance)
      | some (.tables members) =>
        alterLast members fun last => define last false name value rest
      | some _ => none

/-- Changes the node that a header names. Tables on the way there are implied. -/
def alterAt (entries : Entries) (change : Option Node → Option Node) :
    List String → Option Entries
  | [] => none
  | [name] => entries.alter name change
  | part :: rest =>
    entries.alter part fun
      | none => (alterAt [] change rest).map (.table .implied)
      | some (.table stance inner) => (alterAt inner change rest).map (.table stance)
      | some (.tables members) => alterLast members fun last => alterAt last change rest
      | some _ => none

/-- Opens the table that a header names. It must be new, or implied so far. -/
def openTable (entries : Entries) (header : List String) : Option Entries :=
  entries.alterAt (fun
    | none => some (.table .opened [])
    | some (.table .implied inner) => some (.table .opened inner)
    | some _ => none) header

/-- Opens one more table under the name of a header. -/
def openMember (entries : Entries) (header : List String) : Option Entries :=
  entries.alterAt (fun
    | none => some (.tables [[]])
    | some (.tables members) => some (.tables (members ++ [[]]))
    | some _ => none) header

/-- Defines a name, below dotted parts, in the table that a header opened; without a header, at
the root. -/
def defineUnder (entries : Entries) (header path : List String) (name : String) (value : Node) :
    Option Entries :=
  if header = [] then entries.define true name value path
  else
    entries.alterAt (fun
      | some (.table stance inner) => (define inner true name value path).map (.table stance)
      | some (.tables members) => alterLast members fun last => define last true name value path
      | _ => none) header

end Entries

end Rulefold.Toml
