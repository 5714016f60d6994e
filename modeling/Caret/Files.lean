import Caret.RunError
import Caret.Text.Utf8

/-!
# Files

What a run sees of the file system: the state of each path, and where the system keeps the
configuration. Nothing is changed, so the whole view is a function.
-/

namespace Caret

/-- What stands at a path. -/
inductive PathState
  /-- Nothing can be reached there, for this reason. -/
  | absent (reason : IoError)
  /-- Something is there, but it cannot be read as a file. -/
  | unreadable (reason : SystemError)
  /-- A file with these bytes. -/
  | file (content : List UInt8)
deriving DecidableEq

namespace PathState

/-- Whether anything stands at the path. -/
def isPresent : PathState → Bool
  | absent _ => false
  | _ => true

/-- The text of the file at the path. -/
def read : PathState → Except IoError String
  | absent reason => .error reason
  | unreadable reason => .error (.system reason)
  | file content =>
    match Text.ofBytes? content with
    | some text => .ok text
    | none => .error .notText

end PathState

/-- The file system, as a run sees it. -/
structure Files where
  state : String → PathState
  /-- The configuration file of the system, if the system has a place for it. -/
  systemConfig : Option String

namespace Files

/-- A path followed by another one, which starts anew if it is absolute. -/
def join (base path : String) : String :=
  if path.startsWith "/" then path
  else if base.endsWith "/" then base ++ path
  else base ++ "/" ++ path

/-- The configuration file below the directory where the system keeps configurations. -/
def configUnder (configHome : String) : String := join (join configHome "pinpoint") "config.toml"

end Files

end Caret
