/-!
# Numerals

Reading a run of digits in a base, the count of decimal digits of a number, and the numbers that words of
64 and 128 bits hold.
-/

namespace Caret.Decimal

/-- The value of a digit up to `f`, in either case. -/
def digitValue (c : Char) : Option Nat :=
  if '0' ≤ c && c ≤ '9' then some (c.toNat - '0'.toNat)
  else if 'a' ≤ c && c ≤ 'f' then some (c.toNat - 'a'.toNat + 10)
  else if 'A' ≤ c && c ≤ 'F' then some (c.toNat - 'A'.toNat + 10)
  else none

/-- Whether a character is a digit of a base. -/
def isDigitOf (base : Nat) (c : Char) : Bool := (digitValue c).any (· < base)

/-- The number that digits of a base spell; characters that are no digits count as zero. -/
def ofDigits (base : Nat) (cs : List Char) : Nat :=
  cs.foldl (fun n c => n * base + (digitValue c).getD 0) 0

/-- The number that the digits of a base spell; `none` for other characters or for no digit. -/
def ofDigits? (base : Nat) (cs : List Char) : Option Nat :=
  if cs.isEmpty || !cs.all (isDigitOf base) then none else some (ofDigits base cs)

/-- A power of ten. -/
def tenTo (n : Nat) : Nat := Nat.pow 10 n

/-- A power of two. -/
def twoTo (n : Nat) : Nat := Nat.pow 2 n

/-- The number of sizes: a size is an unsigned number of 64 bits. -/
def sizeLimit : Nat := 0x10000000000000000

/-- Whether an integer fits 64 bits, with a sign or without. -/
def fits64 (n : Int) : Bool := -0x8000000000000000 ≤ n && n < 0x10000000000000000

/-- Whether an integer fits 128 bits with a sign. -/
def fits128Signed (n : Int) : Bool :=
  -0x80000000000000000000000000000000 ≤ n && n < 0x80000000000000000000000000000000

/-- Whether an integer fits 128 bits, with a sign or without. -/
def fits128 (n : Int) : Bool :=
  -0x80000000000000000000000000000000 ≤ n && n < 0x100000000000000000000000000000000

/-- How many decimal digits a number has. -/
def digitCount (n : Nat) : Nat := (toString n).length

end Caret.Decimal
