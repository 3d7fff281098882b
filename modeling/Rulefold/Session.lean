import Rulefold.Config.Document
import Rulefold.Pass

/-!
# Sessions

A session holds a list of commands and works on it step by step: it runs the pass, edits the
commands, or changes its configuration. The reports of all its steps go to one buffer.
-/

namespace Rulefold

namespace Command

/-- The chain of a command: the one with the given index in its table, or the chain that the
command acts on. -/
def chain? (command : Command) (index : Nat) : Option Chain :=
  match command.subject with
  | .table content => content.chains[index]?
  | .chain content => some content
  | .rule _ => none

/-- Puts another chain in the place of one. -/
def setChain (command : Command) (index : Nat) (chain : Chain) : Command :=
  match command.subject with
  | .table content =>
    { command with subject := .table { content with chains := content.chains.set index chain } }
  | .chain _ => { command with subject := .chain chain }
  | .rule _ => command

end Command

/-- Where a chain stands in a list of commands. -/
structure Place where
  command : Nat
  /-- The index of the chain in its table; it does not count for a command on one chain. -/
  chain : Nat

/-- A step of a session. -/
inductive Step where
  /-- Run the pass over all commands. -/
  | optimize
  /-- Run the pass with the standard configuration, and report to no one. -/
  | optimizeStandard
  /-- Fold one chain. -/
  | foldChain (place : Place)
  /-- Change the configuration, unless there is none to be had. -/
  | configure (config : Except ConfigError Config)
  /-- Insert a rule before the one with an index, or at the end. -/
  | addRule (place : Place) (rule : Rule) (index : Option Nat)
  /-- Remove the rule with an index, if there is one. -/
  | removeRule (place : Place) (index : Nat)
  /-- Set the flags of a chain. -/
  | setFlags (place : Place) (flags : Flags ChainFlag)
  /-- Set what a command does. -/
  | setAction (command : Nat) (action : Action)

/-- What a step came to. -/
inductive StepResult where
  | summary (summary : Summary)
  | merges (count : Except PassError Nat)
  | config (config : Except ConfigError Config)
  | edited

/-- The answer to a step. -/
structure Answer where
  result : StepResult
  /-- The bytes that reached the buffer during the step. -/
  written : List UInt8
  diagnostics : List Diagnostic

/-- Commands that are worked on step by step. -/
structure Session where
  commands : List Command
  config : Config
  files : Files
  /-- Where reports go. Between steps nothing is in it. -/
  buffer : Buffer

namespace Session

/-- Empties the buffer into the answer to a step. -/
def close (session : Session) (buffer : Buffer) (diagnostics : List Diagnostic)
    (result : StepResult) : Answer × Session :=
  ({ result, written := buffer.written, diagnostics },
    { session with buffer := { buffer with written := [] } })

/-- Answers a step that reports nothing. -/
def quietly (session : Session) (result : StepResult) : Answer × Session :=
  session.close session.buffer [] result

/-- The chain at a place, with its command. -/
def chainAt? (session : Session) (place : Place) : Option (Command × Chain) := do
  let command ← session.commands[place.command]?
  let chain ← command.chain? place.chain
  pure (command, chain)

/-- Puts another chain in the place of one, which is held by the given command. -/
def setChain (session : Session) (place : Place) (command : Command) (chain : Chain) : Session :=
  { session with
    commands := session.commands.set place.command (command.setChain place.chain chain) }

/-- Changes a chain; there is no answer if no chain stands at the place. -/
def editChain (session : Session) (place : Place) (edit : Chain → Chain) :
    Option (Answer × Session) := do
  let (command, chain) ← session.chainAt? place
  pure ((session.setChain place command (edit chain)).quietly .edited)

/-- Takes a step; there is no answer to a step that goes nowhere. -/
def step (session : Session) : Step → Option (Answer × Session)
  | .optimize =>
    let delivered :=
      passInto Buffer.sink session.buffer session.config session.files session.commands
    some ({ session with commands := delivered.result }.close delivered.state
      delivered.diagnostics (.summary delivered.summary))
  | .optimizeStandard =>
    let delivered :=
      passInto Buffer.sink (.empty none) .standard session.files session.commands
    some ({ session with commands := delivered.result }.close session.buffer
      delivered.diagnostics (.summary delivered.summary))
  | .foldChain place => do
    let (command, chain) ← session.chainAt? place
    let attempt :=
      chain.foldInto Buffer.sink session.buffer session.config session.files
    pure ((session.setChain place command attempt.chain).close attempt.state attempt.diagnostics
      (.merges attempt.merges))
  | .configure config =>
    let session := { session with config := config.toOption.getD session.config }
    some (session.quietly (.config config))
  | .addRule place rule index =>
    session.editChain place fun chain =>
      let index := index.getD chain.rules.length
      { chain with rules := chain.rules.take index ++ rule :: chain.rules.drop index }
  | .removeRule place index =>
    session.editChain place fun chain => { chain with rules := chain.rules.eraseIdx index }
  | .setFlags place flags =>
    session.editChain place fun chain => { chain with flags }
  | .setAction command action => do
    let target ← session.commands[command]?
    let commands := session.commands.set command { target with action }
    pure ({ session with commands }.quietly .edited)

/-- Takes steps in order, and answers each with the commands as they are then. -/
def run (session : Session) : List Step → Option (List (Answer × List Command))
  | [] => some []
  | first :: others => do
    let (answer, session) ← session.step first
    let answers ← session.run others
    pure ((answer, session.commands) :: answers)

end Session

end Rulefold
