import Caret.Files
import Caret.Settings.Decode
import Caret.Toml

/-!
# Finding the configuration

A path that is given decides alone. Without one, the first file that exists decides: that of the
working directory, then that of the system. Only when there is none are the standard settings used; a
file that exists and cannot be used is an error.
-/

namespace Caret.Configuration

/-- The configuration file of the working directory. -/
def localPath : String := "pinpoint/config.toml"

/-- The settings that the text of a configuration file holds. The message of a TOML reader also has the position
and the line at fault; here a text that is no document has one message whatever the reason, and data at fault have
the text of their fault alone. -/
def parse (text : String) : Except ConfigError Settings :=
  match Toml.read? text with
  | none => .error (.parse "not a TOML document")
  | some data =>
    match Settings.decodeConfiguration .toml data with
    | .ok settings => .ok settings
    | .error fault => .error (.parse (fault.message .toml))

/-- The settings of a configuration file, by the state of its path. -/
def ofState (path : String) (state : PathState) : Except RunError Settings :=
  if state.isPresent then
    match state.read with
    | .error e => .error (.io e)
    | .ok text =>
      match parse text with
      | .error e => .error (.config e)
      | .ok settings => .ok settings
  else .error (.config (.missingFile path))

/-- Loads one configuration file, and records which. -/
def loadFrom (files : Files) (place path : String) : Logged (Except RunError Settings) := do
  Logged.note .info ("Loading configuration from " ++ place ++ " path") [("path", path)]
  return ofState path (files.state path)

/-- Uses the standard settings, and records why. -/
def standard (message : String) (fields : List (String × String)) :
    Logged (Except RunError Settings) := do
  Logged.note .debug message fields
  Logged.note .debug "No configuration file found, using default configuration" []
  return .ok Settings.standard

/-- Loads the settings from the file that decides. -/
def load (files : Files) (explicit : Option String) : Logged (Except RunError Settings) :=
  match explicit with
  | some path => loadFrom files "explicit" path
  | none =>
    if (files.state localPath).isPresent then loadFrom files "local" localPath
    else
      match files.systemConfig with
      | none => standard "Could not determine platform-specific config directory" []
      | some path =>
        if (files.state path).isPresent then loadFrom files "system" path
        else standard "System configuration file not found" [("path", path)]

end Caret.Configuration
