import Caret.Decimal.Double

/-!
# The shortest decimal of a double

The reals that round to a finite double form an interval. `shortest` finds the decimal in it that has
the fewest digits, and of those the one nearest to the double. `Double.text` lays it out; what is left
open (which of two equally near ones, when to write an exponent) is a `FloatStyle`.
-/

namespace Caret.Decimal

/-- The decimal `digits * 10 ^ scale`. -/
structure Dec where
  digits : Nat
  scale : Int
deriving DecidableEq

/-- Compares `a * 10 ^ i` with `n * 2 ^ j`. -/
def compareScaled (a : Nat) (i : Int) (n : Nat) (j : Int) : Ordering :=
  compare (a * tenTo i.toNat * twoTo (-j).toNat) (n * twoTo j.toNat * tenTo (-i).toNat)

/-- Whether a decimal lies among the reals that round to `m * 2 ^ q`. The ends of that interval
belong to it when `m` is even; below a power of two it is half as wide. -/
def readsBack (m : Nat) (q : Int) (d : Dec) : Bool :=
  let narrow := m == twoTo 52 && Double.leastExponent < q
  let lower := compareScaled d.digits d.scale (if narrow then 4 * m - 1 else 4 * m - 2) (q - 2)
  let upper := compareScaled d.digits d.scale (4 * m + 2) (q - 2)
  let closed := m % 2 == 0
  (lower == .gt || (closed && lower == .eq)) && (upper == .lt || (closed && upper == .eq))

/-- The least `k` with `num / den < 10 ^ k`, for a positive quotient. -/
def decade (num den : Nat) : Int :=
  if den ≤ num then digitCount (num / den)
  else
    let ratio := (den + num - 1) / num
    1 - digitCount (ratio - 1)

/-- What a format decides about the text of floats. -/
structure FloatStyle where
  /-- For which exponents of the leading digit no exponent is written. -/
  plain : Int → Bool
  /-- Whether the even one of two equally near decimals is taken, and not the larger one. -/
  tieToEven : Bool

/-- Of the two neighbours of `m * 2 ^ q` on the grid of `10 ^ scale`, the nearest that reads back. -/
def onGrid (style : FloatStyle) (m : Nat) (q : Int) (scale : Int) : Option Dec :=
  let num := m * twoTo q.toNat * tenTo (-scale).toNat
  let den := twoTo (-q).toNat * tenTo scale.toNat
  let below := num / den
  let half := 2 * (num % den)
  let near :=
    if half < den || (half == den && style.tieToEven && below % 2 == 0) then [below, below + 1]
    else [below + 1, below]
  (near.map (Dec.mk · scale)).find? (readsBack m q)

/-- Moves zeros at the end of the digits into the scale. -/
def trim : Nat → Dec → Dec
  | 0, d => d
  | fuel + 1, d =>
    if d.digits ≠ 0 && d.digits % 10 == 0 then trim fuel ⟨d.digits / 10, d.scale + 1⟩ else d

/-- The shortest decimal that rounds to `m * 2 ^ q`, for a positive `m`. -/
def shortest (style : FloatStyle) (m : Nat) (q : Int) : Dec :=
  let top := decade (m * twoTo q.toNat) (twoTo (-q).toNat)
  let found := (List.range 17).findSome? fun n => onGrid style m q (top - (n + 1 : Nat))
  let exact : Dec := if 0 ≤ q then ⟨m * twoTo q.toNat, 0⟩ else ⟨m * Nat.pow 5 (-q).toNat, q⟩
  let d := found.getD exact
  trim (digitCount d.digits) d

/-- A decimal without exponent, with a point that has a digit on each side. -/
def Dec.positional (d : Dec) : String :=
  let ds := (toString d.digits).toList
  let zeros (n : Nat) := List.replicate n '0'
  if 0 ≤ d.scale then String.ofList (ds ++ zeros d.scale.toNat ++ ".0".toList)
  else
    let places := (-d.scale).toNat
    let whole := ds.length - places
    let left := if whole = 0 then ['0'] else ds.take whole
    let right := zeros (places - ds.length) ++ ds.drop whole
    String.ofList (left ++ '.' :: right)

/-- A decimal with an exponent, which has a sign: one digit before the point, and no point without a digit
after it. -/
def Dec.scientific (d : Dec) : String :=
  let ds := (toString d.digits).toList
  let exponent := d.scale + ds.length - 1
  let fraction := ds.drop 1
  let point := if fraction.isEmpty then [] else '.' :: fraction
  let sign := if exponent < 0 then "-" else "+"
  String.ofList (ds.take 1 ++ point) ++ "e" ++ sign ++ toString exponent.natAbs

/-- The text of a double. -/
def Double.text (style : FloatStyle) : Double → String
  | .nan => "NaN"
  | .infinite negative => if negative then "-inf" else "inf"
  | .finite negative mantissa exponent =>
    let magnitude :=
      if mantissa = 0 then "0.0"
      else
        let d := shortest style mantissa exponent
        if style.plain (d.scale + digitCount d.digits - 1) then d.positional else d.scientific
    if negative then "-" ++ magnitude else magnitude

end Caret.Decimal
