import Caret.Text.Utf8

/-!
# Text without control sequences

What is left of a text that is written where no control sequence is wanted. The bytes are read one by one
as a terminal would: `next` follows the sequence that a byte is part of, and `plain` keeps the bytes that
stand outside of all sequences, apart from control characters that are no blanks.

A sequence starts with the escape character. Inside a sequence of the short kinds a blank control
character still counts, and from it on bytes are kept again until the next control character.
-/

namespace Caret.Text

/-- The part of a control sequence that a byte may stand in. -/
inductive SequencePart
  /-- Outside of all sequences. -/
  | outside
  /-- Right after the escape character. -/
  | escape
  /-- After an escape character and marks that one more character ends. -/
  | designation
  /-- A control sequence proper, which a letter or a similar sign ends. -/
  | control
  /-- A command of the operating system, which the bell ends. -/
  | command
  /-- A string that is for nobody. -/
  | message
  /-- The start of a string for a device. -/
  | deviceStart
  /-- The numbers at the start of a string for a device. -/
  | deviceNumbers
  /-- The marks before the content of a string for a device. -/
  | deviceMarks
  /-- The content of a string for a device. -/
  | deviceContent
  /-- A string for a device that does not start as it should. -/
  | deviceInvalid
deriving DecidableEq

/-- The byte that starts a sequence. -/
def escapeByte : UInt8 := 0x1B

/-- Whether a byte breaks off any sequence. -/
def isCancel (b : UInt8) : Bool := b = 0x18 || b = 0x1A

/-- The byte that ends a string, where a byte past ASCII may. -/
def stringEnd : UInt8 := 0x9C

/-- Whether a byte lies between two others, or is one of them. -/
def isBetween (lo hi b : UInt8) : Bool := lo ≤ b && b ≤ hi

namespace SequencePart

/-- The part after a byte that neither starts nor breaks off a sequence. -/
def advance (part : SequencePart) (b : UInt8) : SequencePart :=
  match part with
  | outside => outside
  | escape =>
    if isBetween 0x20 0x2F b then designation
    else if b = 0x5B then control
    else if b = 0x5D then command
    else if b = 0x50 then deviceStart
    else if b = 0x58 || b = 0x5E || b = 0x5F then message
    else if isBetween 0x30 0x7E b then outside
    else escape
  | designation => if isBetween 0x30 0x7E b then outside else designation
  | control => if isBetween 0x40 0x7E b then outside else control
  | command => if b = 0x07 then outside else command
  | message => if b = stringEnd then outside else message
  | deviceStart =>
    if isBetween 0x20 0x2F b then deviceMarks
    else if b = 0x3A then deviceInvalid
    else if isBetween 0x30 0x3F b then deviceNumbers
    else if isBetween 0x40 0x7E b then deviceContent
    else deviceStart
  | deviceNumbers =>
    if isBetween 0x20 0x2F b then deviceMarks
    else if b = 0x3A || isBetween 0x3C 0x3F b then deviceInvalid
    else if isBetween 0x40 0x7E b then deviceContent
    else deviceNumbers
  | deviceMarks =>
    if isBetween 0x30 0x3F b then deviceInvalid
    else if isBetween 0x40 0x7E b then deviceContent
    else deviceMarks
  | deviceContent => if b = stringEnd then outside else deviceContent
  | deviceInvalid => deviceInvalid

/-- The part after a byte. -/
def next (part : SequencePart) (b : UInt8) : SequencePart :=
  if b = escapeByte then escape
  else if isCancel b then outside
  else part.advance b

end SequencePart

/-- Whether a byte is a control character that makes a blank. -/
def isBlankControl (b : UInt8) : Bool := b = 0x09 || b = 0x0A || b = 0x0C || b = 0x0D

/-- Whether a byte of ASCII is kept outside of sequences. -/
def isKept (b : UInt8) : Bool := isBlankControl b || isBetween 0x20 0x7E b

/-- Whether a byte makes the reading of a part turn to bytes that are kept. -/
def SequencePart.resumes (part : SequencePart) (b : UInt8) : Bool :=
  match part with
  | outside => isKept b || isBetween 0xC2 0xF4 b
  | escape | designation | control => isBlankControl b
  | _ => false

/-- The bytes that are kept. `keeping` says whether the byte before was; while it is, bytes past ASCII
belong to whole characters. -/
def plainBytes (keeping : Bool) (part : SequencePart) : List UInt8 → List UInt8
  | [] => []
  | b :: bs =>
    if keeping then
      if 0x80 ≤ b then b :: plainBytes true .outside bs
      else if isKept b then b :: plainBytes true part bs
      else plainBytes false (if b = escapeByte || isCancel b then part.next b else part) bs
    else if part.resumes b then b :: plainBytes true (part.next b) bs
    else plainBytes false (part.next b) bs

/-- A text without its control sequences. -/
def plain (s : String) : String := String.ofList (decode (plainBytes false .outside (bytes s)))

end Caret.Text
