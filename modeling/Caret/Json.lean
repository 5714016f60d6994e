import Caret.Data

/-!
# Reading JSON

`Json.read?` reads a whole text as one JSON value. A number that is written without point and
exponent, and that fits 64 bits with or without a sign, is an integer; every other number, `-0`
included, is a float. A float is the double of its first digits, as many as 64 bits hold, times or by the
double of a power of ten, so it need not be the double nearest to what is written. The entries of an object are sorted by key, and the last of equal keys counts.

The nesting of values is bounded by the length of the text, which is the fuel of the reader.
-/

namespace Caret.Json

open Decimal (Double)

/-- Drops blanks. -/
def skipBlank (cs : List Char) : List Char :=
  cs.dropWhile fun c => c == ' ' || c == '\t' || c == '\n' || c == '\r'

/-! ## Numbers -/

/-- Appends digits to a number as long as it fits 64 bits: the number, and how many digits are left. -/
def appendDigits (n : Nat) : List Char → Nat × Nat
  | [] => (n, 0)
  | c :: cs =>
    let longer := Decimal.ofDigits 10 [c] + n * 10
    if longer < Decimal.sizeLimit then appendDigits longer cs else (n, cs.length + 1)

/-- The largest power of ten that a float is scaled by in one step. -/
def scaleLimit : Nat := 308

/-- A double times a power of ten, in steps; `none` if it gets too large. A double is zero after two steps
downwards at most, so a few steps are enough. -/
def scale? : Nat → Double → Int → Option Double
  | 0, _, _ => none
  | fuel + 1, x, exponent =>
    if exponent.natAbs ≤ scaleLimit then
      if exponent < 0 then some (x.overTenTo exponent.natAbs)
      else match x.timesTenTo exponent.natAbs with
        | .infinite _ => none
        | y => some y
    else if x.isZero then some x
    else if exponent < 0 then scale? fuel (x.overTenTo scaleLimit) (exponent + scaleLimit)
    else none

/-- A float with a whole part, a fraction and an exponent. -/
def float? (negative : Bool) (whole fraction : List Char) (exponent : Int) : Option Double :=
  let (n, more) := appendDigits 0 whole
  let (n, ignored) := appendDigits n fraction
  scale? 4 (Double.ofRatio negative n 1) (exponent + more - (fraction.length - ignored : Nat))

/-- A number with a whole part, a fraction and an exponent, as written; `none` if it is too large. -/
def ofParts? (negative : Bool) (whole fraction : List Char) (exponent : Option Int) : Option Data :=
  let n := Decimal.ofDigits 10 whole
  let signed : Int := if negative then -n else n
  let isInteger := fraction.isEmpty && exponent.isNone && !(negative && n == 0)
  if isInteger && Decimal.fits64 signed then some (.integer signed)
  else (float? negative whole fraction (exponent.getD 0)).map .float

/-- Reads the exponent of a number, if it has one. -/
def exponent? : List Char → Option (Option Int × List Char)
  | c :: cs =>
    if c == 'e' || c == 'E' then
      let (negative, cs) := match cs with
        | '-' :: r => (true, r)
        | '+' :: r => (false, r)
        | r => (false, r)
      let (digits, rest) := cs.span Char.isDigit
      if digits.isEmpty then none
      else
        let n : Int := Decimal.ofDigits 10 digits
        some (some (if negative then -n else n), rest)
    else some (none, c :: cs)
  | [] => some (none, [])

/-- Reads a number. -/
def number? (cs : List Char) : Option (Data × List Char) := do
  let (negative, cs) := match cs with
    | '-' :: r => (true, r)
    | r => (false, r)
  let (whole, cs) := cs.span Char.isDigit
  if whole.isEmpty || (whole.length > 1 && whole.head? == some '0') then none
  else
    let (fraction, cs) ← match cs with
      | '.' :: r =>
        let (ds, r) := r.span Char.isDigit
        if ds.isEmpty then none else some (ds, r)
      | r => some ([], r)
    let (exponent, rest) ← exponent? cs
    return (← ofParts? negative whole fraction exponent, rest)

/-! ## Strings -/

/-- The character that a letter after a backslash stands for. -/
def escape? : Char → Option Char
  | '"' => some '"'
  | '\\' => some '\\'
  | '/' => some '/'
  | 'b' => some '\x08'
  | 'f' => some '\x0c'
  | 'n' => some '\n'
  | 'r' => some '\r'
  | 't' => some '\t'
  | _ => none

/-- Reads the rest of a string after its opening quote. `high` is the first half of a character that
is written as two 16-bit units; `done` holds the characters read, the last one first. -/
def string? (high : Option Nat) (done : List Char) : List Char → Option (String × List Char)
  | [] => none
  | '"' :: rest => if high.isSome then none else some (String.ofList done.reverse, rest)
  | '\\' :: 'u' :: a :: b :: c :: d :: rest =>
    match Decimal.ofDigits? 16 [a, b, c, d], high with
    | none, _ => none
    | some n, some h =>
      if 0xDC00 ≤ n && n < 0xE000 then
        string? none (Char.ofNat (0x10000 + (h - 0xD800) * 0x400 + (n - 0xDC00)) :: done) rest
      else none
    | some n, none =>
      if 0xD800 ≤ n && n < 0xDC00 then string? (some n) done rest
      else if 0xDC00 ≤ n && n < 0xE000 then none
      else string? none (Char.ofNat n :: done) rest
  | '\\' :: c :: rest =>
    match escape? c, high with
    | some c, none => string? none (c :: done) rest
    | _, _ => none
  | c :: rest =>
    if high.isSome || c == '\\' || c.toNat < 0x20 then none else string? none (c :: done) rest

/-! ## Values -/

mutual

/-- Reads one value. -/
def value? : Nat → List Char → Option (Data × List Char)
  | 0, _ => none
  | fuel + 1, cs =>
    match skipBlank cs with
    | '{' :: r =>
      match skipBlank r with
      | '}' :: r => some (.table [], r)
      | _ => members? fuel [] r
    | '[' :: r =>
      match skipBlank r with
      | ']' :: r => some (.array [], r)
      | _ => items? fuel [] r
    | '"' :: r => (string? none [] r).map fun (s, r) => (.string s, r)
    | 'n' :: 'u' :: 'l' :: 'l' :: r => some (.null, r)
    | 't' :: 'r' :: 'u' :: 'e' :: r => some (.bool true, r)
    | 'f' :: 'a' :: 'l' :: 's' :: 'e' :: r => some (.bool false, r)
    | r => number? r

/-- Reads the items of an array up to its end; `done` holds those read, the last one first. -/
def items? : Nat → List Data → List Char → Option (Data × List Char)
  | 0, _, _ => none
  | fuel + 1, done, cs =>
    match value? fuel cs with
    | none => none
    | some (v, r) =>
      match skipBlank r with
      | ',' :: r => items? fuel (v :: done) r
      | ']' :: r => some (.array (v :: done).reverse, r)
      | _ => none

/-- Reads the members of an object up to its end; `done` holds those read, the last one first. -/
def members? : Nat → List (String × Data) → List Char → Option (Data × List Char)
  | 0, _, _ => none
  | fuel + 1, done, cs =>
    match skipBlank cs with
    | '"' :: r =>
      match string? none [] r with
      | none => none
      | some (key, r) =>
        match skipBlank r with
        | ':' :: r =>
          match value? fuel r with
          | none => none
          | some (v, r) =>
            match skipBlank r with
            | ',' :: r => members? fuel ((key, v) :: done) r
            | '}' :: r => some (.table (Data.sortEntries ((key, v) :: done).reverse), r)
            | _ => none
        | _ => none
    | _ => none

end

/-- The value that a text spells, if it is JSON. -/
def read? (text : String) : Option Data :=
  let cs := text.toList
  match value? (2 * cs.length + 2) cs with
  | some (v, r) => if (skipBlank r).isEmpty then some v else none
  | none => none

end Caret.Json
