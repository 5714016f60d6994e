import Caret.Text.Lines
import Caret.Text.Utf8

/-!
# The line of an offset

Lines are numbered from 1, and each starts one byte after the text of the one before it. A line that
ends in a carriage return and a newline counts one byte for both, so the starts of later lines drift
to the left of their true offsets.

An offset belongs to the first line that reaches it, the offset just past the line's end included
(`Line.covers`); an offset that none reaches belongs to the last line.
-/

namespace Caret

/-- A line of a text, its number and the offset where it starts. -/
structure Line where
  number : Nat
  start : Nat
  text : List UInt8
deriving DecidableEq

namespace Line

/-- The offset just past the line's end. -/
def stop (l : Line) : Nat := l.start + l.text.length + 1

/-- Whether the line reaches an offset. -/
def covers (l : Line) (pos : Nat) : Bool := l.start ≤ pos && pos ≤ l.stop

/-- The line of a text that has none. -/
def empty : Line := ⟨1, 0, []⟩

/-- Numbers lines from `number` and places them one after the other from `start`. -/
def place (number start : Nat) : List (List UInt8) → List Line
  | [] => []
  | l :: ls => ⟨number, start, l⟩ :: place (number + 1) (start + l.length + 1) ls

/-- The lines of a text. -/
def ofText (source : String) : List Line := place 1 0 (Text.scanLines (Text.bytes source))

/-- The line an offset belongs to. -/
def owner (ls : List Line) (pos : Nat) : Line :=
  match ls.find? (·.covers pos) with
  | some l => l
  | none => ls.getLast?.getD empty

end Line

/-- An offset as a line and a byte column in it. The column can lie past the end of the line. -/
structure Location where
  line : Line
  column : Nat
deriving DecidableEq

namespace Location

/-- The line and column of an offset; `none` past the end of the text. -/
def find? (source : String) (pos : Nat) : Option Location :=
  if Text.size source < pos then none
  else
    let line := Line.owner (Line.ofText source) pos
    some ⟨line, pos - line.start⟩

end Location

end Caret
