import Caret.Report

/-!
# Errors of a run

What can go wrong when the command works: reading a file, and loading the configuration.
-/

namespace Caret

/-- An error that the operating system reports. -/
inductive SystemError
  | notFound
  | permissionDenied
  | notADirectory
  | isADirectory
  | nameTooLong
deriving DecidableEq

namespace SystemError

/-- The number of the error. -/
def errno : SystemError → Nat
  | notFound => 2
  | permissionDenied => 13
  | notADirectory => 20
  | isADirectory => 21
  | nameTooLong => 36

/-- The error of a number. -/
def ofErrno? : Nat → Option SystemError
  | 2 => some notFound
  | 13 => some permissionDenied
  | 20 => some notADirectory
  | 21 => some isADirectory
  | 36 => some nameTooLong
  | _ => none

/-- What the error says. -/
def description : SystemError → String
  | notFound => "No such file or directory"
  | permissionDenied => "Permission denied"
  | notADirectory => "Not a directory"
  | isADirectory => "Is a directory"
  | nameTooLong => "File name too long"

end SystemError

/-- The kind of an error that is described by a text of its own. -/
inductive IoKind
  | notFound
  | permissionDenied
  | other
deriving DecidableEq

/-- Why a file could not be read. -/
inductive IoError
  | system (e : SystemError)
  | described (kind : IoKind) (message : String)
  | notText
  /-- The path holds a null character, with which the system ends paths. -/
  | nullInPath
deriving DecidableEq

namespace IoError

/-- The text of the error. -/
def message : IoError → String
  | system e => e.description ++ " (os error " ++ toString e.errno ++ ")"
  | described _ message => message
  | notText => "stream did not contain valid UTF-8"
  | nullInPath => "file name contained an unexpected NUL byte"

end IoError

/-- Why no configuration could be loaded. -/
inductive ConfigError
  /-- The text of the file holds no configuration. The message names no position in it. -/
  | parse (message : String)
  | missingFile (path : String)
deriving DecidableEq

namespace ConfigError

/-- The text of the error. -/
def message : ConfigError → String
  | parse message => "Failed to parse TOML configuration: " ++ message
  | missingFile path => "Missing configuration file: " ++ path

/-- What to do about the error. -/
def help? : ConfigError → Option String
  | parse _ => none
  | missingFile _ => some "pass an existing file to --config or omit it to use defaults"

end ConfigError

/-- Why a run failed. -/
inductive RunError
  | io (e : IoError)
  | config (e : ConfigError)
deriving DecidableEq

namespace RunError

/-- The text of the error. -/
def message : RunError → String
  | io e => "I/O error: " ++ e.message
  | config e => e.message

/-- The text of the error that caused this one, if it wraps one. -/
def cause? : RunError → Option String
  | io e => some e.message
  | config _ => none

/-- The report of the error, which has no place in any text. -/
def report : RunError → Report
  | io e => ⟨"pinpoint::io", (io e).message, (io e).cause?, none, none, none⟩
  | config e => ⟨"pinpoint::config", (config e).message, (config e).cause?, e.help?, none, none⟩

end RunError

end Caret
