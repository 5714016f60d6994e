import Caret.Configuration
import Caret.Diagnostic
import Caret.Report

/-!
# Running a command

A command reads one input file and reports a failure in it. The configuration is loaded first, and the
command is recorded before its input is read.
-/

namespace Caret

/-- What the command line asks for. -/
inductive Command
  /-- The diagnostic of an error at an offset, drawn as a snippet if it is `fancy`. -/
  | locate (input : String) (offset : Nat) (expected : String) (fancy : Bool)
  /-- What is left of the input after some bytes of it. -/
  | trailing (input : String) (consumed : Nat)
deriving DecidableEq

namespace Command

/-- The file that a command reads. -/
def input : Command → String
  | locate input _ _ _ => input
  | trailing input _ => input

/-- The record of a command. -/
def record : Command → Record
  | locate input offset _ _ =>
    ⟨.info, "Locating parse error", [("input_path", input), ("offset", toString offset)]⟩
  | trailing input consumed =>
    ⟨.info, "Checking for unparsed input", [("input_path", input), ("consumed", toString consumed)]⟩

/-- The text that a command writes about its input. -/
def output (settings : Settings) (source : String) : Command → Logged String
  | locate _ offset expected fancy =>
    let e : PositionedError := ⟨offset, expected⟩
    if fancy then return (Report.ofPositioned e source).render
    else Diagnostic.locate settings e source
  | trailing _ consumed => do
    match ← TrailingInput.fromConsumed source consumed with
    | some e => return e.message ++ "\n"
    | none =>
      Logged.note .info "All input consumed" []
      return ""

end Command

/-- An accepted command line. -/
structure Request where
  command : Command
  config : Option String
  logLevel : String
deriving DecidableEq

namespace Request

/-- Does what a command line asks for: the text to write, or why there is none. -/
def run (r : Request) (files : Files) : Logged (Except RunError String) := do
  match ← Configuration.load files r.config with
  | .error e => return .error e
  | .ok settings =>
    Logged.write r.command.record
    match (files.state r.command.input).read with
    | .error e => return .error (.io e)
    | .ok source =>
      let text ← r.command.output settings source
      return .ok text

end Request

end Caret
