import Caret.Log
import Caret.Text.Utf8

/-!
# Ways a parse can fail

A parser stops at an offset where it expected something else (`PositionedError`), or it ends before
its input does (`TrailingInput`). Of several positioned errors the one that got furthest is kept.

A failure describes itself in one line of text (`message`), and it can be printed behind other text
(`print`); printed alone it is its `toString`.
-/

namespace Caret

/-- A parser stopped at a byte offset. The offset is not checked against any text. -/
structure PositionedError where
  pos : Nat
  expected : String
deriving DecidableEq

namespace PositionedError

/-- The one-line text of the error. -/
def message (e : PositionedError) : String :=
  "offset " ++ toString e.pos ++ ": expected " ++ e.expected

/-- Prints the error behind the text `out`, one part after the other. -/
def print (e : PositionedError) (out : String) : String :=
  out ++ "offset " ++ toString e.pos ++ ": expected " ++ e.expected

instance : ToString PositionedError := ⟨fun e => e.print ""⟩

/-- The error with the larger offset; `e` where they are equal. -/
def furthest (e other : PositionedError) : PositionedError :=
  if e.pos < other.pos then other else e

end PositionedError

/-- A parser ended before its input did, and left this text. -/
structure TrailingInput where
  remaining : String
deriving DecidableEq

namespace TrailingInput

/-- The one-line text of the error: the remaining text as it is, neither cut nor escaped. -/
def message (e : TrailingInput) : String := "left unparsed: " ++ e.remaining

/-- Prints the error behind the text `out`, one part after the other. -/
def print (e : TrailingInput) (out : String) : String := out ++ "left unparsed: " ++ e.remaining

instance : ToString TrailingInput := ⟨fun e => e.print ""⟩

/-- What is left of `input` once `consumed` bytes are taken. An offset inside a character counts
as the start of that character, so what is left is text. `none` when nothing is left. -/
def fromConsumed (input : String) (consumed : Nat) : Logged (Option TrailingInput) := do
  let total := Text.size input
  if total ≤ consumed then
    return none
  else
    let remaining := String.ofList (Text.dropBytes consumed input.toList)
    Logged.note .debug "Input left unparsed"
      [("consumed", toString consumed),
       ("boundary", toString (total - Text.size remaining)),
       ("total", toString total)]
    return some ⟨remaining⟩

end TrailingInput

/-- Either way a parse can fail. -/
inductive Failure
  | positioned (e : PositionedError)
  | trailing (e : TrailingInput)
deriving DecidableEq

namespace Failure

/-- The one-line text of the failure: that of the error it holds. -/
def message : Failure → String
  | positioned e => e.message
  | trailing e => e.message

/-- Prints the failure behind the text `out`: the error it holds, and nothing else. -/
def print : Failure → String → String
  | positioned e => e.print
  | trailing e => e.print

instance : ToString Failure := ⟨fun f => f.print ""⟩

/-- The positioned error, if the failure is one. -/
def positioned? : Failure → Option PositionedError
  | positioned e => some e
  | trailing _ => none

/-- The trailing input, if the failure is one. -/
def trailing? : Failure → Option TrailingInput
  | positioned _ => none
  | trailing e => some e

end Failure

end Caret
