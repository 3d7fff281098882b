import Rulefold.Config
import Rulefold.Diagnostic
import Rulefold.Text.Utf8
import Rulefold.Toml.Document

/-!
# Configuration documents

A configuration can be written as a document with the options `max_shapes` and `audit`. Options
left out keep their standard values, and names that are no options are passed over.
-/

namespace Rulefold

/-- Why there is no configuration to be had. -/
inductive ConfigError where
  /-- The file cannot be read, or is no text. -/
  | unreadable (name : String)
  /-- The document is ill-formed, or an option has a value of the wrong kind. -/
  | invalid
  /-- The document allows no shapes at all. -/
  | noShapes
  deriving DecidableEq

/-- The wording of an error. -/
def ConfigError.message : ConfigError → String
  | unreadable name => "Failed to read config file " ++ name
  | invalid => "Invalid optimizer config"
  | noShapes => "max_shapes must be greater than zero"

namespace Config

/-- A number of shapes: a whole number that is not negative. -/
def maxShapesOf : Option Toml.Node → Except ConfigError Nat
  | none => .ok standard.maxShapes
  | some (.integer (.ofNat count)) => .ok count
  | some _ => .error .invalid

/-- Whether folds are reported: true or false. -/
def auditOf : Option Toml.Node → Except ConfigError Bool
  | none => .ok standard.audit
  | some (.boolean audit) => .ok audit
  | some _ => .error .invalid

/-- Reads a configuration from a document. -/
def parse (text : String) : Except ConfigError Config :=
  match Toml.parse? text with
  | none => .error .invalid
  | some entries => do
    let maxShapes ← maxShapesOf (entries.find? "max_shapes")
    let audit ← auditOf (entries.find? "audit")
    if maxShapes = 0 then .error .noShapes else .ok { maxShapes, audit }

/-- Reads a configuration from a file, and tells of it. -/
def load (files : Files) (name : String) : Except ConfigError (Config × Diagnostic) :=
  match files.openName name with
  | .ok (.file content) =>
    match Text.decode? content with
    | none => .error (.unreadable name)
    | some text => do
      let config ← parse text
      return (config, .configLoaded config.maxShapes config.audit name)
  | _ => .error (.unreadable name)

end Config

end Rulefold
