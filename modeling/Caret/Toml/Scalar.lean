import Caret.Data
import Caret.Toml.Filler

/-!
# TOML scalars

Numbers, truth values and dates: the values that are written without quotes or brackets. Each is read
from a whole token.
-/

namespace Caret.Toml

open Decimal (Double isDigitOf ofDigits)

/-! ## Numbers -/

/-- Digits of a base, where an underscore may stand between two of them: the digits alone. -/
def digits? (base : Nat) : List Char → Option (List Char)
  | [] => none
  | [c] => if isDigitOf base c then some [c] else none
  | c :: '_' :: cs => if isDigitOf base c then (digits? base cs).map (c :: ·) else none
  | c :: cs => if isDigitOf base c then (digits? base cs).map (c :: ·) else none

/-- Decimal digits that do not start with a zero that could be left out. -/
def wholeDigits? (cs : List Char) : Option (List Char) :=
  (digits? 10 cs).filter fun ds => ds.length == 1 || ds.head? != some '0'

/-- Splits off a sign: whether it is a minus, and the rest. -/
def splitSign : List Char → Bool × List Char
  | '-' :: cs => (true, cs)
  | '+' :: cs => (false, cs)
  | cs => (false, cs)

/-- An integer, as long as 128 bits hold it with or without a sign. -/
def integer (n : Int) : Data :=
  if Decimal.fits128 n then .integer n else .unreadable .integer

/-- The exponent of a float, without its letter. -/
def exponent? (cs : List Char) : Option Int := do
  let (negative, cs) := splitSign cs
  let n : Int := ofDigits 10 (← digits? 10 cs)
  return if negative then -n else n

/-- A number in base ten. A point or an exponent makes it a float. -/
def decimal? (negative : Bool) (cs : List Char) : Option Data := do
  let isMark (c : Char) := c == 'e' || c == 'E'
  let mantissa := cs.takeWhile (!isMark ·)
  let exponentPart := cs.drop mantissa.length
  let whole := mantissa.takeWhile (· != '.')
  let fractionPart := mantissa.drop whole.length
  let wholeDigits ← wholeDigits? whole
  if fractionPart.isEmpty && exponentPart.isEmpty then
    let n : Int := ofDigits 10 wholeDigits
    return integer (if negative then -n else n)
  else
    let fraction ← if fractionPart.isEmpty then some [] else digits? 10 (fractionPart.drop 1)
    let exponent ← if exponentPart.isEmpty then some 0 else exponent? (exponentPart.drop 1)
    match Double.ofDecimal negative (ofDigits 10 (wholeDigits ++ fraction))
        (exponent - fraction.length) with
    | .infinite _ => return .unreadable .float
    | x => return .float x

/-- Whether underscores stand one by one between characters that they may join; `joined` tells of the
character before. -/
def underscoresJoin (joins : Char → Bool) (joined : Bool) : List Char → Bool
  | [] => true
  | '_' :: c :: cs => joined && joins c && underscoresJoin joins true cs
  | '_' :: [] => false
  | c :: cs => underscoresJoin joins (joins c) cs

/-- A number in base ten that has its first underscore right after its first digits, and no mark of a
float. It only has to put its underscores between digits of any base; with other characters than
decimal digits, but for a space, it is an integer that cannot be read. -/
def grouped? (negative : Bool) (cs : List Char) : Option Data :=
  let first := cs.takeWhile Char.isDigit
  let more := cs.drop first.length
  if first.isEmpty || first.head? == some '0' || more.head? != some '_' then none
  else if more.any ['.', 'e', 'E', ' '].contains then none
  else if underscoresJoin (isDigitOf 16) true more then
    match Decimal.ofDigits? 10 (cs.filter (· != '_')) with
    | some n => some (integer (if negative then -n else n))
    | none => some (.unreadable .integer)
  else none

/-- An integer in another base than ten, without its mark. One without digits cannot be read. -/
def based? (base : Nat) (cs : List Char) : Option Data :=
  if cs.isEmpty then some (.unreadable .integer)
  else (digits? base cs).map fun ds => integer (ofDigits base ds)

/-- A number: one in base ten may have a sign, one in another base has a mark instead. -/
def number? : List Char → Option Data
  | '0' :: 'x' :: cs => based? 16 cs
  | '0' :: 'o' :: cs => based? 8 cs
  | '0' :: 'b' :: cs => based? 2 cs
  | cs =>
    let (negative, cs) := splitSign cs
    match cs with
    | ['i', 'n', 'f'] => some (.float (.infinite negative))
    | ['n', 'a', 'n'] => some (.float .nan)
    | _ => (grouped? negative cs).or (decimal? negative cs)

/-! ## Dates and times -/

/-- The number of a given count of digits. -/
def fixed? (count : Nat) (cs : List Char) : Option Nat :=
  if cs.length == count then Decimal.ofDigits? 10 cs else none

/-- The days of a month. -/
def daysOfMonth (year month : Nat) : Nat :=
  let leap := year % 4 == 0 && (year % 100 != 0 || year % 400 == 0)
  if month == 2 then (if leap then 29 else 28)
  else if [4, 6, 9, 11].contains month then 30
  else 31

/-- Whether ten characters are a date. -/
def isDate (cs : List Char) : Bool :=
  match cs with
  | [y1, y2, y3, y4, '-', m1, m2, '-', d1, d2] =>
    match fixed? 4 [y1, y2, y3, y4], fixed? 2 [m1, m2], fixed? 2 [d1, d2] with
    | some y, some m, some d => 1 ≤ m && m ≤ 12 && 1 ≤ d && d ≤ daysOfMonth y m
    | _, _, _ => false
  | _ => false

/-- Whether five characters are an hour and a minute. -/
def isHourMinute (cs : List Char) : Bool :=
  match cs with
  | [h1, h2, ':', m1, m2] =>
    match fixed? 2 [h1, h2], fixed? 2 [m1, m2] with
    | some h, some m => h ≤ 23 && m ≤ 59
    | _, _ => false
  | _ => false

/-- Whether characters are seconds with their colon, perhaps with a fraction, or nothing. -/
def isSeconds (cs : List Char) : Bool :=
  match cs with
  | [] => true
  | ':' :: s1 :: s2 :: fraction =>
    (fixed? 2 [s1, s2]).any (· ≤ 60) &&
      (fraction.isEmpty ||
        (fraction.head? == some '.' && 1 < fraction.length && (fraction.drop 1).all Char.isDigit))
  | _ => false

/-- Whether characters are a time of day. -/
def isTime (cs : List Char) : Bool := isHourMinute (cs.take 5) && isSeconds (cs.drop 5)

/-- Whether characters are the distance from universal time, or nothing. -/
def isOffset (cs : List Char) : Bool :=
  match cs with
  | [] => true
  | [c] => c == 'Z' || c == 'z'
  | c :: cs => (c == '+' || c == '-') && isHourMinute cs

/-- Whether a token is a date, a time, or both with one mark between them. -/
def isDatetime (cs : List Char) : Bool :=
  isTime cs ||
    (isDate (cs.take 10) &&
      match cs.drop 10 with
      | [] => true
      | c :: cs =>
        let isZone (c : Char) := ['Z', 'z', '+', '-'].contains c
        let time := cs.takeWhile (!isZone ·)
        ['T', 't', ' '].contains c && isTime time && isOffset (cs.drop time.length))

/-! ## Tokens -/

/-- Whether a character ends a word of a token. -/
def endsToken (c : Char) : Bool :=
  [' ', '\t', '\n', '\r', ',', '[', ']', '\x7b', '\x7d', '#', '='].contains c

/-- The value of a token. -/
def scalar? (token : List Char) : Option Data :=
  if token = "true".toList then some (.bool true)
  else if token = "false".toList then some (.bool false)
  else if isDatetime token then some (.datetime (String.ofList token))
  else number? token

/-- Splits off a token. Blanks belong to it if a character follows them that may start a token: so a
date may have a time after it. -/
def splitToken : Nat → List Char → List Char × List Char
  | 0, cs => ([], cs)
  | fuel + 1, cs =>
    let word := cs.takeWhile (!endsToken ·)
    let rest := cs.drop word.length
    let blanks := rest.takeWhile isBlank
    match rest.drop blanks.length with
    | c :: more =>
      if blanks.isEmpty || endsToken c || ['"', '\'', '.'].contains c then (word, rest)
      else
        let (token, rest) := splitToken fuel (c :: more)
        (word ++ blanks ++ token, rest)
    | [] => (word, rest)

end Caret.Toml
