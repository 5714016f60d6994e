import Caret.Decimal.Digits
import Caret.Toml.Filler

/-!
# TOML strings and keys

The readers of this file start after an opening quote. Each returns the text and what follows the
closing quote. `done` holds the characters read so far, the last one first.
-/

namespace Caret.Toml

/-- The character of a code point that is written in hexadecimal digits. -/
def codePoint? (digits : List Char) : Option Char := do
  let n ← Decimal.ofDigits? 16 digits
  if n < 0xD800 || (0xDFFF < n && n < 0x110000) then some (Char.ofNat n) else none

/-- The character of a code point in a given number of digits, and what follows them. -/
def splitCodePoint (count : Nat) (cs : List Char) : Option (Char × List Char) :=
  if cs.length < count then none else (codePoint? (cs.take count)).map (·, cs.drop count)

/-- Reads what follows a backslash. -/
def escape? : List Char → Option (Char × List Char)
  | 'b' :: cs => some ('\x08', cs)
  | 't' :: cs => some ('\t', cs)
  | 'n' :: cs => some ('\n', cs)
  | 'f' :: cs => some ('\x0c', cs)
  | 'r' :: cs => some ('\r', cs)
  | 'e' :: cs => some ('\x1b', cs)
  | '"' :: cs => some ('"', cs)
  | '\\' :: cs => some ('\\', cs)
  | 'x' :: cs => splitCodePoint 2 cs
  | 'u' :: cs => splitCodePoint 4 cs
  | 'U' :: cs => splitCodePoint 8 cs
  | _ => none

/-- Reads a string with escapes on one line. -/
def basic? : Nat → List Char → List Char → Option (List Char × List Char)
  | 0, _, _ => none
  | fuel + 1, done, cs =>
    match cs with
    | '"' :: cs => some (done.reverse, cs)
    | '\\' :: cs =>
      match escape? cs with
      | some (c, cs) => basic? fuel (c :: done) cs
      | none => none
    | c :: cs => if isPlain c then basic? fuel (c :: done) cs else none
    | [] => none

/-- Reads a string without escapes on one line. -/
def literal? (done : List Char) : List Char → Option (List Char × List Char)
  | '\'' :: cs => some (done.reverse, cs)
  | c :: cs => if isPlain c then literal? (c :: done) cs else none
  | [] => none

/-- Drops one line end at the start. -/
def dropNewline : List Char → List Char
  | '\n' :: cs => cs
  | '\r' :: '\n' :: cs => cs
  | cs => cs

/-- Drops blanks and line ends. `none` if no line end is among them. -/
def continuation? (seen : Bool) : List Char → Option (List Char)
  | '\n' :: cs => continuation? true cs
  | '\r' :: '\n' :: cs => continuation? true cs
  | c :: cs =>
    if isBlank c then continuation? seen cs else if seen then some (c :: cs) else none
  | [] => if seen then some [] else none

/-- Splits off the quotes that close a string of several lines; up to two more before them belong to
the string. -/
def closing? (quote : Char) (cs : List Char) : Option (Nat × List Char) :=
  let count := (cs.takeWhile (· == quote)).length
  if 3 ≤ count then some (min (count - 3) 2, cs.drop (min count 5)) else none

/-- Reads a string with escapes over several lines. A backslash at the end of a line joins it with the
next one that is not blank. -/
def basicLines? : Nat → List Char → List Char → Option (List Char × List Char)
  | 0, _, _ => none
  | fuel + 1, done, cs =>
    match closing? '"' cs with
    | some (extra, rest) => some (done.reverse ++ List.replicate extra '"', rest)
    | none =>
      match cs with
      | '\\' :: cs =>
        match continuation? false cs with
        | some cs => basicLines? fuel done cs
        | none =>
          match escape? cs with
          | some (c, cs) => basicLines? fuel (c :: done) cs
          | none => none
      | '\n' :: cs => basicLines? fuel ('\n' :: done) cs
      | '\r' :: '\n' :: cs => basicLines? fuel ('\n' :: '\r' :: done) cs
      | c :: cs => if isPlain c then basicLines? fuel (c :: done) cs else none
      | [] => none

/-- Reads a string without escapes over several lines. -/
def literalLines? : Nat → List Char → List Char → Option (List Char × List Char)
  | 0, _, _ => none
  | fuel + 1, done, cs =>
    match closing? '\'' cs with
    | some (extra, rest) => some (done.reverse ++ List.replicate extra '\'', rest)
    | none =>
      match cs with
      | '\n' :: cs => literalLines? fuel ('\n' :: done) cs
      | '\r' :: '\n' :: cs => literalLines? fuel ('\n' :: '\r' :: done) cs
      | c :: cs => if isPlain c then literalLines? fuel (c :: done) cs else none
      | [] => none

/-- Reads a string that may have any of the four forms, from its opening quote. -/
def string? (cs : List Char) : Option (String × List Char) :=
  let fuel := cs.length + 1
  let text := match cs with
    | '"' :: '"' :: '"' :: cs => basicLines? fuel [] (dropNewline cs)
    | '"' :: cs => basic? fuel [] cs
    | '\'' :: '\'' :: '\'' :: cs => literalLines? fuel [] (dropNewline cs)
    | '\'' :: cs => literal? [] cs
    | _ => none
  text.map fun (text, rest) => (String.ofList text, rest)

/-! ## Keys -/

/-- Whether a character may stand in a key without quotes. -/
def isBare (c : Char) : Bool := c.isAlphanum || c == '_' || c == '-'

/-- Reads one part of a key. -/
def keyPart? (cs : List Char) : Option (String × List Char) :=
  match cs with
  | '"' :: cs => (basic? (cs.length + 1) [] cs).map fun (text, rest) => (String.ofList text, rest)
  | '\'' :: cs => (literal? [] cs).map fun (text, rest) => (String.ofList text, rest)
  | cs =>
    let bare := cs.takeWhile isBare
    if bare.isEmpty then none else some (String.ofList bare, cs.drop bare.length)

/-- How deep a document may nest: in how many arrays and inline tables a value may stand, and how many
parts a key may have. -/
def nestingLimit : Nat := 80

/-- Reads the parts of a key, which have points between them, and the blanks around each. The fuel is
how many parts there may be. -/
def keyParts? : Nat → List Char → Option (List String × List Char)
  | 0, _ => none
  | fuel + 1, cs =>
    match keyPart? (skipBlank cs) with
    | none => none
    | some (part, rest) =>
      match skipBlank rest with
      | '.' :: rest => (keyParts? fuel rest).map fun (parts, rest) => (part :: parts, rest)
      | rest => some ([part], rest)

/-- Reads a key. -/
def key? (cs : List Char) : Option (List String × List Char) := keyParts? nestingLimit cs

end Caret.Toml
