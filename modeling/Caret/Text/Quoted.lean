import Caret.Text.CharClass
import Caret.Text.HiddenTable

/-!
# Quoted text

A text between double quotes, with an escape for each character that would not show as itself.
-/

namespace Caret.Text

/-- Whether a character shows by itself, in its own cell, as itself. -/
def isPrintable (c : Char) : Bool :=
  if c.toNat < 0x7F then 0x20 ≤ c.toNat
  else
    !(isControl c || inRanges hiddenLowRanges c || inRanges hiddenMiddleRanges c ||
      inRanges hiddenHighRanges c)

/-- One character inside quotes. -/
def quoteChar (c : Char) : List Char :=
  match c with
  | '"' => ['\\', '"']
  | '\\' => ['\\', '\\']
  | '\n' => ['\\', 'n']
  | '\r' => ['\\', 'r']
  | '\t' => ['\\', 't']
  | '\x00' => ['\\', '0']
  | c => if isPrintable c then [c] else "\\u\x7b".toList ++ Nat.toDigits 16 c.toNat ++ ['\x7d']

/-- A text in double quotes. -/
def quoted (s : String) : String := String.ofList ('"' :: s.toList.flatMap quoteChar ++ ['"'])

end Caret.Text
