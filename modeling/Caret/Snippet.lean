import Caret.Text.Lines
import Caret.Text.Utf8
import Caret.Text.Width

/-!
# Snippets

A snippet shows the lines around one place of a text in a frame, with line numbers, and a label below
the line of that place.

To find the lines around a place, a line may end in a newline, a carriage return, or both
(`rowEnds`). The snippet reaches from the row before the place through the second row end after it. It
is then cut into lines at newlines alone (`linesOf`), where a carriage return by itself is part of the
text.
-/

namespace Caret.Snippet

open Text (newline carriageReturn)

/-! ## Rows of a text -/

/-- Where a row ends: the offset of the bytes that end it, and the offset after them. -/
structure RowEnd where
  start : Nat
  stop : Nat
deriving DecidableEq

/-- The row ends of a text, the first byte of which has this offset. -/
def rowEnds : Nat → List UInt8 → List RowEnd
  | _, [] => []
  | i, [b] => if b = newline || b = carriageReturn then [⟨i, i + 1⟩] else []
  | i, b :: c :: bs =>
    if b = carriageReturn && c = newline then ⟨i, i + 2⟩ :: rowEnds (i + 2) bs
    else if b = newline || b = carriageReturn then ⟨i, i + 1⟩ :: rowEnds (i + 1) (c :: bs)
    else rowEnds (i + 1) (c :: bs)

/-- The part of a text around a place: where it starts and stops, and how many rows stand before it. -/
structure Extent where
  start : Nat
  stop : Nat
  rowsBefore : Nat
deriving DecidableEq

/-- The row before the place and its own row, and the row after it. -/
def extent (text : List UInt8) (place : Nat) : Extent :=
  let ends := rowEnds 0 text
  let before := ends.filter (·.stop ≤ place)
  let after := ends.filter (max place 1 ≤ ·.start)
  { start := (before.dropLast.getLast?.map (·.stop)).getD 0
    stop := (after[1]?.map (·.stop)).getD text.length
    rowsBefore := before.length - 1 }

/-- The row and the column of a place, both from 1. The bytes that end rows have no column. -/
def rowColumn (text : List UInt8) (place : Nat) : Nat × Nat :=
  let ends := rowEnds 0 text
  let before := ends.filter (·.stop ≤ place)
  let rowStart := (before.getLast?.map (·.stop)).getD 0
  let within := ends.countP fun e => e.start < place && place < e.stop
  (before.length + 1, place - rowStart - within + 1)

/-! ## Lines of a snippet -/

/-- A numbered line of a snippet. Its length counts the bytes that end it, its text holds none. -/
structure NumberedLine where
  number : Nat
  start : Nat
  length : Nat
  text : List UInt8
deriving DecidableEq

/-- Numbers the lines between newlines. `closed` says whether a newline ends the last one; if none
does and a carriage return stands there, the last line has the number of the line before it. -/
def numberLines (closed : Bool) (number start : Nat) : List (List UInt8) → List NumberedLine
  | [] => []
  | l :: ls =>
    if ls.isEmpty && !closed then
      [⟨if l.getLast? = some carriageReturn then number else number + 1, start, l.length, l⟩]
    else
      ⟨number + 1, start, l.length + 1, Text.stripReturn l⟩ ::
        numberLines closed (number + 1) (start + l.length + 1) ls

/-- The lines of the part of a text around a place. -/
def linesOf (text : List UInt8) (e : Extent) : List NumberedLine :=
  let part := (text.take e.stop).drop e.start
  numberLines (part.getLast? == some newline) e.rowsBefore e.start (Text.rawLines part)

namespace NumberedLine

/-- Whether a place lies in the line. -/
def holds (l : NumberedLine) (place : Nat) : Bool := l.start ≤ place && place < l.start + l.length

/-- The columns before a place of the line; a place after the text counts one column more. -/
def columnsBefore (l : NumberedLine) (place : Nat) : Nat :=
  let k := place - l.start
  Text.columns (Text.decode (l.text.take k)) + (if l.text.length < k then 1 else 0)

end NumberedLine

/-! ## Drawing -/

/-- A text filled with spaces on the left. -/
def padLeft (width : Nat) (s : String) : String :=
  String.ofList (List.replicate (width - s.length) ' ') ++ s

/-- A number of spaces. -/
def spaces (n : Nat) : String := String.ofList (List.replicate n ' ')

/-- The marker under a place and the label that hangs from it. -/
def drawLabel (indent : String) (label : String) : List String :=
  let marker := indent ++ "▲"
  match (Text.pieces label.toList).map String.ofList with
  | [] => [marker]
  | [only] => [marker, indent ++ "╰── " ++ only]
  | first :: more => marker :: (indent ++ "╰─┤ " ++ first) :: more.map (indent ++ "  │ " ++ ·)

/-- One line of the snippet, and the label below it if the place lies in it. -/
def drawLine (width place : Nat) (label : String) (l : NumberedLine) : List String :=
  let shown := " " ++ padLeft width (toString l.number) ++ " │ " ++
    String.ofList (Text.expandTabs (Text.decode l.text))
  if l.holds place then
    shown :: drawLabel (" " ++ spaces width ++ " · " ++ spaces (l.columnsBefore place)) label
  else [shown]

/-- The lines of a snippet of a text, with a label at a place. The frame names the row and column of
the place if it holds more than one line. -/
def draw (source : String) (place : Nat) (label : String) : List String :=
  let text := Text.bytes source
  let lines := linesOf text (extent text place)
  let width := (toString ((lines.getLast?.map (·.number)).getD 0)).length
  let (row, column) := rowColumn text place
  let title := if lines.length ≤ 1 then "───" else "[" ++ toString row ++ ":" ++ toString column ++ "]"
  let margin := spaces (width + 2)
  (margin ++ "╭─" ++ title) :: lines.flatMap (drawLine width place label) ++ [margin ++ "╰────"]

end Caret.Snippet
