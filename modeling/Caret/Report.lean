import Caret.Failure
import Caret.Snippet

/-!
# Reports

A report tells of one error: a code, a message, and what else is known of it. It is drawn with a mark
before the message, an arrow before the cause, and a snippet around the labelled place of the source.
-/

namespace Caret

/-- A labelled part of a text. -/
structure Label where
  text : String
  offset : Nat
  length : Nat
  primary : Bool
deriving DecidableEq

/-- What is told of an error. -/
structure Report where
  code : String
  message : String
  cause : Option String
  help : Option String
  source : Option String
  label : Option Label
deriving DecidableEq

namespace Report

/-- The place of a positioned error in a text: the start of the character it lies in; `none` past
the end. -/
def place? (e : PositionedError) (source : String) : Option Nat :=
  if Text.size source < e.pos then none
  else some (Text.floorBoundary (Text.bytes source) e.pos)

/-- The report of a positioned error in a text. -/
def ofPositioned (e : PositionedError) (source : String) : Report where
  code := "pinpoint::parse"
  message := e.message
  cause := none
  help := none
  source := (place? e source).map fun _ => source
  label := (place? e source).map fun offset => ⟨"expected " ++ e.expected, offset, 0, true⟩

/-- A line without the spaces at its end. -/
def trimSpaces (line : List Char) : String :=
  String.ofList (line.reverse.dropWhile (· == ' ')).reverse

/-- The lines of a text, the first after one indent and the others after another. -/
def hang (first others text : String) : List String :=
  match Text.pieces text.toList with
  | [] => []
  | l :: ls => (first ++ trimSpaces l) :: ls.map (others ++ trimSpaces ·)

/-- The lines of a report. -/
def lines (r : Report) : List String :=
  let cause := r.cause.elim [] (hang "  ╰─▶ " "      ")
  let snippet := match r.source, r.label with
    | some source, some label => Snippet.draw source label.offset label.text
    | _, _ => []
  let help := r.help.elim [] (hang "  help: " "        ")
  r.code :: "" :: hang "  × " "  │ " r.message ++ cause ++ snippet ++ help

/-- A report as text: each line ends in a newline. -/
def render (r : Report) : String := String.join (r.lines.map (· ++ "\n"))

end Report

end Caret
