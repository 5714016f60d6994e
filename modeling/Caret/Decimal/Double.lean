import Caret.Decimal.Digits

/-!
# Double-precision numbers

A number with 53 significant bits, kept as an integer times a power of two, and the rounding of a
quotient to the nearest such number. All arithmetic before a rounding is exact.
-/

namespace Caret.Decimal

/-- A double-precision number. A finite one is `mantissa * 2 ^ exponent` with its sign; a zero keeps
its sign too. -/
inductive Double
  | nan
  | infinite (negative : Bool)
  | finite (negative : Bool) (mantissa : Nat) (exponent : Int)
deriving DecidableEq

namespace Double

/-- The least power of two that a double counts in. -/
def leastExponent : Int := -1074

/-- The largest power of two that a double with 53 bits counts in. -/
def greatestExponent : Int := 971

/-- The quotient rounded to the nearest integer, a half to the even one. -/
def roundQuotient (num den : Nat) : Nat :=
  let q := num / den
  let r := num % den
  if 2 * r < den || (2 * r == den && q % 2 == 0) then q else q + 1

/-- The double nearest to a positive quotient: its mantissa and exponent. -/
def ofQuotient (num den : Nat) : Nat × Int :=
  let guess := max ((num.log2 : Int) - den.log2 - 53) leastExponent
  let up (q : Int) := num * twoTo (-q).toNat
  let down (q : Int) := den * twoTo q.toNat
  let exponent := if up guess / down guess < twoTo 53 then guess else guess + 1
  let mantissa := roundQuotient (up exponent) (down exponent)
  if mantissa = twoTo 53 then (twoTo 52, exponent + 1) else (mantissa, exponent)

/-- The double nearest to a quotient with a sign. -/
def ofRatio (negative : Bool) (num den : Nat) : Double :=
  if num = 0 then .finite negative 0 leastExponent
  else
    let (mantissa, exponent) := ofQuotient num den
    if greatestExponent < exponent then .infinite negative else .finite negative mantissa exponent

/-- The double nearest to `digits * 10 ^ scale` with a sign. Magnitudes that are out of reach by
their number of digits alone are settled without computing the power. -/
def ofDecimal (negative : Bool) (digits : Nat) (scale : Int) : Double :=
  let magnitude := digitCount digits + scale
  if digits = 0 || magnitude < -330 then .finite negative 0 leastExponent
  else if 310 < magnitude then .infinite negative
  else ofRatio negative (digits * tenTo scale.toNat) (tenTo (-scale).toNat)

/-- Whether the double is a zero. -/
def isZero : Double → Bool
  | finite _ mantissa _ => mantissa == 0
  | _ => false

/-- The product with the double nearest to a power of ten, rounded. -/
def timesTenTo (x : Double) (n : Nat) : Double :=
  match x with
  | finite negative mantissa exponent =>
    let (m, e) := ofQuotient (tenTo n) 1
    let e := exponent + e
    ofRatio negative (mantissa * m * twoTo e.toNat) (twoTo (-e).toNat)
  | x => x

/-- The quotient by the double nearest to a power of ten, rounded. -/
def overTenTo (x : Double) (n : Nat) : Double :=
  match x with
  | finite negative mantissa exponent =>
    let (m, e) := ofQuotient (tenTo n) 1
    let e := exponent - e
    ofRatio negative (mantissa * twoTo e.toNat) (m * twoTo (-e).toNat)
  | x => x

end Double

end Caret.Decimal
