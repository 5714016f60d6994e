import Caret.Run
import Caret.Text.Quoted

/-!
# Inspected values

The structure of a value as one line of text, for people who look into a running program: the name of
its type or case, and its parts by name. Texts are quoted, bytes are numbers.
-/

namespace Caret.Inspect

/-- A case around a value. -/
def wrap (name inner : String) : String := name ++ "(" ++ inner ++ ")"

/-- A record with its fields. -/
def fields (name : String) (parts : List (String × String)) : String :=
  name ++ " \x7b " ++ ", ".intercalate (parts.map fun (key, value) => key ++ ": " ++ value) ++ " \x7d"

/-- A list of bytes. -/
def byteList (bs : List UInt8) : String :=
  "[" ++ ", ".intercalate (bs.map fun b => toString b.toNat) ++ "]"

/-- A value that may be absent. -/
def optional : Option String → String
  | none => "None"
  | some inner => wrap "Some" inner

def positionedError (e : PositionedError) : String :=
  fields "PositionedError" [("pos", toString e.pos), ("expected", Text.quoted e.expected)]

def trailingInput (e : TrailingInput) : String :=
  fields "TrailingInputError" [("remaining", Text.quoted e.remaining)]

def failure : Failure → String
  | .positioned e => wrap "Positioned" (positionedError e)
  | .trailing e => wrap "Trailing" (trailingInput e)

def settings (s : Settings) : String :=
  fields "LocateConfig" [("right_margin", toString s.rightMargin), ("window", toString s.window),
    ("max_width", toString s.maxWidth)]

/-- The settings as those of a renderer. -/
def locator (s : Settings) : String := fields "Locator" [("config", settings s)]

def location (l : Location) : String :=
  fields "LineLocation" [("line_number", toString l.line.number),
    ("line_start", toString l.line.start), ("column", toString l.column),
    ("line", byteList l.line.text)]

/-- A positioned error as the subject of a report. -/
def reported (e : PositionedError) : String := fields "PositionedAdapter" [("err", positionedError e)]

def ioKind : IoKind → String
  | .notFound => "NotFound"
  | .permissionDenied => "PermissionDenied"
  | .other => "Other"

def systemError (e : SystemError) : String :=
  let kind := match e with
    | .notFound => "NotFound"
    | .permissionDenied => "PermissionDenied"
    | .notADirectory => "NotADirectory"
    | .isADirectory => "IsADirectory"
    | .nameTooLong => "InvalidFilename"
  fields "Os" [("code", toString e.errno), ("kind", kind), ("message", Text.quoted e.description)]

def ioError : IoError → String
  | .system e => systemError e
  | .described kind message =>
    fields "Custom" [("kind", ioKind kind), ("error", Text.quoted message)]
  | .notText =>
    fields "Error" [("kind", "InvalidData"), ("message", Text.quoted IoError.notText.message)]
  | .nullInPath =>
    fields "Error" [("kind", "InvalidInput"), ("message", Text.quoted IoError.nullInPath.message)]

def configError : ConfigError → String
  | .parse message => wrap "Parse" (Text.quoted message)
  | .missingFile path => wrap "MissingFile" (Text.quoted path)

def runError : RunError → String
  | .io e => wrap "Io" (ioError e)
  | .config e => wrap "Config" (configError e)

def command : Command → String
  | .locate input offset expected fancy =>
    fields "Locate" [("input", Text.quoted input), ("offset", toString offset),
      ("expected", Text.quoted expected), ("fancy", toString fancy)]
  | .trailing input consumed =>
    fields "Trailing" [("input", Text.quoted input), ("consumed", toString consumed)]

/-- An accepted command line. -/
def request (r : Request) : String :=
  fields "Args" [("command", command r.command), ("config", optional (r.config.map Text.quoted)),
    ("log_level", Text.quoted r.logLevel)]

end Caret.Inspect
