/-!
# Text as UTF-8 bytes

All offsets of the library count bytes of UTF-8. This file gives the bytes of a text, the character
boundaries among them, and the reading of bytes that need not be valid UTF-8.

A boundary is found in two ways: `floorBoundary` walks back over continuation bytes, `dropBytes`
walks forward over whole characters. `decode` is a one-byte-at-a-time machine (`step`): each part of
the input that cannot be continued to a character becomes one replacement character.
-/

namespace Caret.Text

/-! ## Bytes of a text -/

/-- The UTF-8 bytes of a list of characters. -/
def encode (cs : List Char) : List UInt8 := cs.flatMap String.utf8EncodeChar

/-- The UTF-8 bytes of a text. -/
def bytes (s : String) : List UInt8 := encode s.toList

@[simp] theorem encode_nil : encode [] = [] := rfl

@[simp] theorem encode_cons (c : Char) (cs : List Char) :
    encode (c :: cs) = String.utf8EncodeChar c ++ encode cs := rfl

@[simp] theorem encode_append (cs ds : List Char) : encode (cs ++ ds) = encode cs ++ encode ds := by
  simp [encode]

@[simp] theorem bytes_ofList (cs : List Char) : bytes (String.ofList cs) = encode cs := by
  rw [bytes, String.toList_ofList]

theorem bytes_append (s t : String) : bytes (s ++ t) = bytes s ++ bytes t := by
  rw [bytes, String.toList_append, encode_append]
  rfl

/-- The number of bytes of a text. -/
def size (s : String) : Nat := (bytes s).length

theorem size_append (s t : String) : size (s ++ t) = size s + size t := by
  rw [size, bytes_append, List.length_append]
  rfl

/-! ## Character boundaries -/

/-- Whether a byte continues a character that began before it. -/
def isContinuation (b : UInt8) : Bool := 0x80 ≤ b && b ≤ 0xBF

/-- Whether offset `i` of valid UTF-8 stands between two characters, or at either end. -/
def isBoundary (bs : List UInt8) (i : Nat) : Bool :=
  match bs.drop i with
  | [] => i == bs.length
  | b :: _ => !isContinuation b

/-- The last character boundary at or before an offset. -/
def floorBoundary (bs : List UInt8) : Nat → Nat
  | 0 => 0
  | n + 1 => if isBoundary bs (n + 1) then n + 1 else floorBoundary bs n

theorem floorBoundary_le (bs : List UInt8) (n : Nat) : floorBoundary bs n ≤ n := by
  induction n with
  | zero => exact Nat.le_refl 0
  | succ n ih => unfold floorBoundary; split <;> omega

/-- Drops the characters that end at or before byte `n`. -/
def dropBytes : Nat → List Char → List Char
  | _, [] => []
  | n, c :: cs => if c.utf8Size ≤ n then dropBytes (n - c.utf8Size) cs else c :: cs

/-! ## Reading bytes that need not be valid -/

/-- The character that stands for bytes that are no text. -/
def replacement : Char := '\uFFFD'

/-- A character whose first bytes have been read. `need + 1` more are wanted, and the next of them
must lie in `lo` to `hi`, which is narrower than the continuation range where a wider one would
allow an overlong form, a surrogate or a value past the last character. -/
structure Pending where
  value : Nat
  need : Nat
  lo : UInt8
  hi : UInt8
deriving DecidableEq

/-- Reads one byte where a character may start: the characters it completes, and the one it begins. -/
def begin (b : UInt8) : List Char × Option Pending :=
  if b ≤ 0x7F then ([Char.ofNat b.toNat], none)
  else if 0xC2 ≤ b && b ≤ 0xDF then ([], some ⟨b.toNat - 0xC0, 0, 0x80, 0xBF⟩)
  else if 0xE0 ≤ b && b ≤ 0xEF then
    ([], some ⟨b.toNat - 0xE0, 1, if b = 0xE0 then 0xA0 else 0x80, if b = 0xED then 0x9F else 0xBF⟩)
  else if 0xF0 ≤ b && b ≤ 0xF4 then
    ([], some ⟨b.toNat - 0xF0, 2, if b = 0xF0 then 0x90 else 0x80, if b = 0xF4 then 0x8F else 0xBF⟩)
  else ([replacement], none)

/-- Reads one byte: the characters it completes, and the one that is left pending. -/
def step : Option Pending → UInt8 → List Char × Option Pending
  | none, b => begin b
  | some p, b =>
    if p.lo ≤ b && b ≤ p.hi then
      let value := p.value * 64 + (b.toNat - 0x80)
      match p.need with
      | 0 => ([Char.ofNat value], none)
      | n + 1 => ([], some ⟨value, n, 0x80, 0xBF⟩)
    else
      (replacement :: (begin b).1, (begin b).2)

/-- Reads bytes, with a character perhaps pending. A character that the end cuts off becomes one
replacement. -/
def decodeFrom : Option Pending → List UInt8 → List Char
  | none, [] => []
  | some _, [] => [replacement]
  | p, b :: bs => (step p b).1 ++ decodeFrom (step p b).2 bs

/-- Reads bytes as text. Each longest part that begins a character and cannot be continued becomes
one replacement character, and so does each byte that begins none. -/
def decode (bs : List UInt8) : List Char := decodeFrom none bs

/-- The text that the bytes spell, if they are valid UTF-8. -/
def ofBytes? (bs : List UInt8) : Option String := String.fromUTF8? ⟨bs.toArray⟩

end Caret.Text
