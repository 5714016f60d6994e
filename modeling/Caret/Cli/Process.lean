import Caret.Cli.Arguments
import Caret.Inspect
import Caret.Text.Lines

/-!
# The program as a process

The exit status, what is written to standard output, and what reaches standard error: a notice, and
the log lines that the log level lets through.
-/

namespace Caret.Cli

/-- Which log lines are shown: none, or those as important as a level. -/
abbrev Verbosity := Option Level

namespace Verbosity

/-- Whether a level is let through. -/
def shows (v : Verbosity) (level : Level) : Bool := v.any (level.rank ≤ ·.rank)

/-- The names of the levels, in small letters. -/
def named : List (String × Verbosity) :=
  [("off", none), ("error", some .error), ("warn", some .warn), ("info", some .info),
   ("debug", some .debug), ("trace", some .trace)]

/-- The verbosity of a name, in letters of either case. -/
def ofName? (name : String) : Option Verbosity :=
  (named.find? (·.1.toList == name.toList.map Char.toLower)).map (·.2)

/-- The verbosity of a name, as it is inspected. -/
def shown : Verbosity → String
  | none => "Off"
  | some .error => "Error"
  | some .warn => "Warn"
  | some .info => "Info"
  | some .debug => "Debug"
  | some .trace => "Trace"

end Verbosity

/-- What a process leaves behind. -/
structure Outcome where
  status : Nat
  output : String
  notice : Option String
  log : List Record

namespace Outcome

/-- The first line of the notice, without what ends it. -/
def noticeLine (o : Outcome) : Option String :=
  o.notice.map fun text =>
    String.ofList (Text.decode ((Text.scanLines (Text.bytes text)).headD []))

end Outcome

/-- Why a log level is not what was asked for. -/
def levelNotice (name : String) : String :=
  "Invalid log level: " ++ name ++ ". Using 'warn' instead."

/-- The log of a request, and its status and output. -/
def perform (r : Request) (files : Files) (v : Verbosity) : Logged (Nat × String) := do
  Logged.note .info "Starting Pinpoint" [("log_level", v.shown)]
  Logged.note .debug "Parsed arguments" [("args", Inspect.request r)]
  match ← r.run files with
  | .ok text =>
    Logged.note .info "Completed successfully" []
    return (0, text)
  | .error e =>
    Logged.note .error e.report.render []
    return (1, "")

/-- What the process of a request leaves behind. A log level that is not known counts as that for
warnings. -/
def ofRequest (r : Request) (files : Files) : Outcome :=
  let known := Verbosity.ofName? r.logLevel
  let verbosity := known.getD (some .warn)
  let done := perform r files verbosity
  { status := done.value.1
    output := done.value.2
    notice := if known.isSome then none else some (levelNotice r.logLevel)
    log := done.records.filter fun record => verbosity.shows record.level }

/-- What the process of a command line leaves behind. -/
def process (arguments : List String) (files : Files) : Outcome :=
  match parseArguments arguments with
  | .ok r => ofRequest r files
  | .error (.help topic) => ⟨0, helpText topic, none, []⟩
  | .error .version => ⟨0, versionText, none, []⟩
  | .error (.refused e) => ⟨2, "", some e.message, []⟩

end Caret.Cli
