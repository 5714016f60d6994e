import Caret.Location
import Caret.Settings

/-!
# The part of a line that is shown

A window is what is printed of a line and the indentation of the caret below it. When the column lies
past the right margin the start of both is cut off; a line that is still too long loses its end. Dots
are written over the bytes next to a cut. The indentation repeats the tabs of the line, so that the
caret stays under its byte whatever the width of a tab.
-/

namespace Caret

/-- The byte written over the ends of what is left out. -/
def dot : UInt8 := 0x2E

/-- How many dots mark a cut. -/
def dotCount : Nat := 3

/-- Writes dots over the first bytes. -/
def dotLeft (bs : List UInt8) : List UInt8 :=
  List.replicate (min dotCount bs.length) dot ++ bs.drop dotCount

/-- Keeps `width` bytes at most, the last of them dots if any byte is lost. -/
def dotRight (width : Nat) (bs : List UInt8) : List UInt8 :=
  if width < bs.length then
    bs.take (width - dotCount) ++ List.replicate (min dotCount width) dot
  else bs

/-- The indentation of a column: the tabs of the line, and spaces elsewhere. -/
def indentation (text : List UInt8) (column : Nat) : List UInt8 :=
  (text.take column).map (fun b => if b = Text.tab then Text.tab else 0x20) ++
    List.replicate (column - text.length) 0x20

/-- The bytes left out at the start of a line for a column. -/
def Settings.cut (s : Settings) (column : Nat) : Nat :=
  if s.rightMargin < column then column - s.window else 0

/-- A line cut for showing, and the indentation of the caret below it. -/
structure Window where
  line : List UInt8
  indent : List UInt8
deriving DecidableEq

namespace Window

/-- The window on a located line. -/
def ofLocation (s : Settings) (l : Location) : Window :=
  let cut := s.cut l.column
  let line := l.line.text.drop cut
  let marked := if s.rightMargin < l.column then dotLeft line else line
  { line := dotRight s.maxWidth marked
    indent := (indentation l.line.text l.column).drop cut }

end Window

end Caret
