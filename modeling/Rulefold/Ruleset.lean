import Rulefold.Location
import Rulefold.Statement

/-!
# Rulesets

A ruleset is compiled to a list of commands. Commands carry tables, tables own chains, a chain is
an ordered list of rules, and a rule is an ordered list of statements.
-/

namespace Rulefold

/-- A rule of a chain. -/
structure Rule where
  location : Location
  statements : List Statement
  /-- The number that the kernel knows the rule by. -/
  handle : Option UInt64
  deriving DecidableEq

/-- The written form of a rule. -/
def Rule.text (rule : Rule) : String :=
  " ".intercalate (rule.statements.map Statement.text) ++
    match rule.handle with
    | none => ""
    | some handle => " # handle " ++ toString handle.toNat

/-- The flags of a chain. -/
inductive ChainFlag where
  /-- The rules run in a fixed-function engine. -/
  | offload
  deriving DecidableEq

instance : Flag ChainFlag where
  place
    | .offload => 0

/-- A chain of rules. -/
structure Chain where
  name : String
  flags : Flags ChainFlag
  rules : List Rule
  deriving DecidableEq

namespace Chain

/-- Says whether the rules of a chain run in a fixed-function engine. -/
def isOffloaded (chain : Chain) : Bool := chain.flags.has .offload

/-- The written form of a chain, a rule on each line. -/
def text (chain : Chain) : String :=
  "\tchain " ++ chain.name ++ " \x7b\n" ++
    (if chain.isOffloaded then "\t\tflags offload;\n" else "") ++
    String.join (chain.rules.map fun rule => "\t\t" ++ rule.text ++ "\n") ++
    "\t\x7d\n"

end Chain

/-- A table of chains. -/
structure Table where
  family : Family
  name : String
  chains : List Chain
  deriving DecidableEq

/-- The written form of a table. -/
def Table.text (table : Table) : String :=
  "table " ++ Keyword.text table.family ++ " " ++ table.name ++ " \x7b\n" ++
    String.join (table.chains.map Chain.text) ++ "\x7d\n"

/-- What a command does. -/
inductive Action where
  | add | replace | create | insert | delete | list | flush
  deriving DecidableEq

instance : Keyword Action where
  all := [.add, .replace, .create, .insert, .delete, .list, .flush]
  text
    | .add => "add"
    | .replace => "replace"
    | .create => "create"
    | .insert => "insert"
    | .delete => "delete"
    | .list => "list"
    | .flush => "flush"
  mem_all word := by cases word <;> decide
  nodup_text := by decide

/-- What a command acts on. -/
inductive Subject where
  | table (content : Table)
  | chain (content : Chain)
  | rule (content : Rule)
  deriving DecidableEq

/-- The written form of what a command acts on. -/
def Subject.text : Subject → String
  | .table content => content.text
  | .chain content => content.text
  | .rule content => content.text

/-- A command of a compiled ruleset. -/
structure Command where
  action : Action
  subject : Subject
  deriving DecidableEq

end Rulefold
