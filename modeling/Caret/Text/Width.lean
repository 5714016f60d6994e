import Caret.Text.CharClass
import Caret.Text.WidthTable

/-!
# Columns

How many columns a text takes on a terminal. A tab goes to the next tab stop. The escape character
starts a control sequence that takes no columns and lasts through the next `m`.
-/

namespace Caret.Text

/-- The distance of tab stops. -/
def tabWidth : Nat := 4

/-- The columns of a character by itself. One sign stands for three. -/
def charWidth (c : Char) : Nat :=
  if isControl c then 0
  else if c.toNat < 0x7F then 1
  else if inRanges zeroWidthRanges c then 0
  else if inRanges wideRanges c then 2
  else if c = '\u17D8' then 3
  else 1

/-- The columns of a character that starts in a column, and whether a control sequence is open
after it. -/
def columnsAt (column : Nat) (inSequence : Bool) (c : Char) : Nat × Bool :=
  if inSequence then (0, c != 'm')
  else if c = '\t' then (tabWidth - column % tabWidth, false)
  else if c = '\x1b' then (0, true)
  else (charWidth c, false)

/-- Each character of a line with the columns it takes. -/
def withColumns (column : Nat) (inSequence : Bool) : List Char → List (Char × Nat)
  | [] => []
  | c :: cs =>
    let (width, inSequence) := columnsAt column inSequence c
    (c, width) :: withColumns (column + width) inSequence cs

/-- The columns that a line takes. -/
def columns (line : List Char) : Nat := (withColumns 0 false line).foldr (fun shown n => shown.2 + n) 0

/-- A line with its tabs written as spaces. -/
def expandTabs (line : List Char) : List Char :=
  (withColumns 0 false line).flatMap fun (c, width) =>
    if c = '\t' then List.replicate width ' ' else [c]

end Caret.Text
