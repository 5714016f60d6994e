import Caret.Failure
import Caret.Log
import Caret.Window

/-!
# Caret diagnostics

The diagnostic of a positioned error names its line, shows the window on it and puts a caret under
the column. An offset past the end of the text has no line, so its diagnostic is the bare message.
-/

namespace Caret

namespace Window

/-- Two lines of text: the line shown and the caret below it. -/
def render (w : Window) : String :=
  String.ofList (Text.decode w.line) ++ "\n" ++ String.ofList (Text.decode w.indent) ++ "^\n"

end Window

namespace Diagnostic

/-- The diagnostic of an error whose line is known. -/
def atLocation (s : Settings) (e : PositionedError) (l : Location) : String :=
  "Parsing error in line " ++ toString l.line.number ++ ":\n" ++
    (Window.ofLocation s l).render ++ e.message ++ "\n"

/-- The record that tells where an error was found. -/
def record (e : PositionedError) (source : String) : Option Location → Record
  | none => ⟨.trace, "Error offset is past end of input",
      [("pos", toString e.pos), ("len", toString (Text.size source))]⟩
  | some l => ⟨.trace, "Located error line",
      [("line_number", toString l.line.number), ("line_start", toString l.line.start),
       ("column", toString l.column)]⟩

/-- The diagnostic of an error in a text, with the record of where it was found. -/
def locate (s : Settings) (e : PositionedError) (source : String) : Logged String :=
  let found := Location.find? source e.pos
  { value := found.elim e.message (atLocation s e)
    records := [record e source found] }

/-- The diagnostic of an error in a text. -/
def render (s : Settings) (e : PositionedError) (source : String) : String :=
  (locate s e source).value

end Diagnostic

end Caret
