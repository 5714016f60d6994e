/-!
# What stands between the parts of a TOML document

Blanks, line ends and comments.
-/

namespace Caret.Toml

/-- Whether a character may stand for itself in a line of text: tabs may, other controls may not. -/
def isPlain (c : Char) : Bool := c == '\t' || (0x20 ≤ c.toNat && c.toNat != 0x7F)

/-- Whether a character is a blank within a line. -/
def isBlank (c : Char) : Bool := c == ' ' || c == '\t'

/-- Drops blanks within a line. -/
def skipBlank (cs : List Char) : List Char := cs.dropWhile isBlank

/-- Drops blanks, line ends and comments. -/
def skipFiller? (inComment : Bool) : List Char → Option (List Char)
  | [] => some []
  | '\n' :: cs => skipFiller? false cs
  | '\r' :: '\n' :: cs => skipFiller? false cs
  | c :: cs =>
    if inComment then (if isPlain c then skipFiller? true cs else none)
    else if isBlank c then skipFiller? false cs
    else if c == '#' then skipFiller? true cs
    else some (c :: cs)

/-- Drops the rest of a line, which may hold blanks and a comment, and its end. -/
def lineEnd? (inComment : Bool) : List Char → Option (List Char)
  | [] => some []
  | '\n' :: cs => some cs
  | '\r' :: '\n' :: cs => some cs
  | c :: cs =>
    if inComment then (if isPlain c then lineEnd? true cs else none)
    else if isBlank c then lineEnd? false cs
    else if c == '#' then lineEnd? true cs
    else none

end Caret.Toml
