import Caret.Cli.Process

/-!
# The program

Looks up the few paths that a command line can depend on, works out what the process leaves behind,
and writes it.
-/

namespace Caret

/-- The state that a failed reading tells of. A path through something that is no directory fails when
it is opened, and the error names it; a directory opens, and fails when it is read. -/
def stateOfError : IO.Error → PathState
  | .permissionDenied .. => .unreadable .permissionDenied
  | .inappropriateType (some _) .. => .absent (.system .notADirectory)
  | .inappropriateType none .. => .unreadable .isADirectory
  | .invalidArgument .. => .absent (.system .nameTooLong)
  | _ => .absent (.system .notFound)

/-- The state of a path, found by reading it. -/
def lookUp (path : String) : IO PathState := do
  if path.toList.contains '\x00' then return .absent .nullInPath
  try
    let content ← IO.FS.readBinFile path
    return .file content.data.toList
  catch e => return stateOfError e

/-- The configuration file of the system, by the environment. -/
def systemConfig? : IO (Option String) := do
  let home := (← IO.getEnv "HOME").map (Files.join · ".config")
  let base := ((← IO.getEnv "XDG_CONFIG_HOME").filter (·.startsWith "/")).or home
  return base.map Files.configUnder

/-- The paths that a command line can depend on. -/
def candidates (arguments : List String) (systemConfig : Option String) : List String :=
  match Cli.parseArguments arguments with
  | .error _ => []
  | .ok r => r.config.toList ++ [Configuration.localPath] ++ systemConfig.toList ++ [r.command.input]

/-- The files that a command line can depend on. -/
def filesFor (arguments : List String) : IO Files := do
  let systemConfig ← systemConfig?
  let states ← (candidates arguments systemConfig).mapM fun path => return (path, ← lookUp path)
  return {
    state := fun path => (states.find? (·.1 == path)).elim (.absent (.system .notFound)) (·.2)
    systemConfig := systemConfig }

/-- A log line. -/
def logLine (r : Record) : String :=
  "[" ++ r.level.name ++ "] " ++ r.message ++
    String.join (r.fields.map fun (key, value) => " " ++ key ++ "=" ++ value)

end Caret

/-- Runs the program. -/
def main (arguments : List String) : IO UInt32 := do
  let outcome := Caret.Cli.process arguments (← Caret.filesFor arguments)
  if let some notice := outcome.notice then IO.eprintln notice
  for record in outcome.log do IO.eprintln (Caret.logLine record)
  IO.print outcome.output
  return outcome.status.toUInt32
