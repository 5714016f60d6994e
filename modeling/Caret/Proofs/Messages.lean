import Caret.Proofs.Reading

/-!
# What a message tells

A reader of the text alone (`Failure.read`) takes a failure back from its message (`read_message`), so two
failures have one message only if they are one failure.  The first letter tells the two kinds apart; what the
expected or the remaining text brings along stands behind the part that is read, and is not looked at.

A printed failure is its message, behind the text printed before it (`print_eq`), so all that holds of messages
holds of what is printed.
-/

namespace Caret

open Diagnostic

/-! ## Printing -/

namespace PositionedError

theorem print_eq (e : PositionedError) (out : String) : e.print out = out ++ e.message := by
  unfold print message
  simp only [String.append_assoc]

theorem toString_eq (e : PositionedError) : toString e = e.message := by
  show e.print "" = e.message
  rw [print_eq, String.empty_append]

theorem message_inj (e e' : PositionedError) :
    e.message = e'.message ↔ e.pos = e'.pos ∧ e.expected = e'.expected := by
  constructor
  · intro h
    have hread := congrArg (fun text => readMessage text.toList) h
    simp only [readMessage_message] at hread
    rw [hread]
    exact ⟨rfl, rfl⟩
  · rintro ⟨hpos, hexpected⟩
    rw [message, message, hpos, hexpected]

end PositionedError

namespace TrailingInput

theorem print_eq (e : TrailingInput) (out : String) : e.print out = out ++ e.message := by
  unfold print message
  rw [String.append_assoc]

theorem toString_eq (e : TrailingInput) : toString e = e.message := by
  show e.print "" = e.message
  rw [print_eq, String.empty_append]

theorem message_inj (e e' : TrailingInput) : e.message = e'.message ↔ e.remaining = e'.remaining := by
  unfold message
  exact String.append_right_inj _

theorem toList_message (e : TrailingInput) :
    e.message.toList = "left unparsed: ".toList ++ e.remaining.toList := by
  unfold message
  rw [String.toList_append]

theorem head?_message (e : TrailingInput) : e.message.toList.head? = some 'l' := by
  rw [toList_message, List.head?_append]
  rfl

end TrailingInput

namespace Failure

/-- What is printed is the message, and it leaves what was printed before as it is. -/
theorem print_eq (f : Failure) (out : String) : f.print out = out ++ f.message := by
  cases f with
  | positioned e => exact e.print_eq out
  | trailing e => exact e.print_eq out

theorem toString_eq (f : Failure) : toString f = f.message := by
  show f.print "" = f.message
  rw [print_eq, String.empty_append]

/-! ## Reader -/

/-- Reads the message of a failure. That of a positioned error begins with the word `offset`, and no other one
with its first letter. -/
def read (text : String) : Failure :=
  if text.toList.head? = some 'o' then positioned (readMessage text.toList)
  else trailing ⟨String.ofList (skip "left unparsed: " text.toList)⟩

theorem read_message (f : Failure) : read f.message = f := by
  cases f with
  | positioned e =>
    show read e.message = positioned e
    rw [read, if_pos (head?_message e), readMessage_message]
  | trailing e =>
    show read e.message = trailing e
    rw [read, if_neg (by rw [e.head?_message]; decide), e.toList_message, skip_append, String.ofList_toList]

theorem message_injective : Function.Injective message := Function.LeftInverse.injective read_message

theorem toString_injective : Function.Injective (toString : Failure → String) := by
  intro a b h
  rw [toString_eq, toString_eq] at h
  exact message_injective h

/-! ## Top theorem -/

/-- **A message tells its failure**, and so does the failure printed, which is the same text. -/
theorem message_eq_iff :
    (∀ a b : Failure, a.message = b.message ↔ a = b) ∧
    (∀ a b : Failure, toString a = toString b ↔ a = b) ∧
    (∀ a : Failure, toString a = a.message) ∧
    (∀ (e : PositionedError) (t : TrailingInput),
      (positioned e).message ≠ (trailing t).message ∧
      toString (positioned e) ≠ toString (trailing t)) ∧
    (∀ e e' : PositionedError,
      (e.message = e'.message ↔ e.pos = e'.pos ∧ e.expected = e'.expected) ∧
      (toString e = toString e' ↔ e.pos = e'.pos ∧ e.expected = e'.expected)) ∧
    ∀ t t' : TrailingInput,
      (t.message = t'.message ↔ t.remaining = t'.remaining) ∧
      (toString t = toString t' ↔ t.remaining = t'.remaining) := by
  have hkinds (e : PositionedError) (t : TrailingInput) : positioned e ≠ trailing t := by
    intro h
    cases h
  refine ⟨fun a b => message_injective.eq_iff, fun a b => toString_injective.eq_iff, toString_eq, ?_, ?_, ?_⟩
  · intro e t
    exact ⟨message_injective.ne (hkinds e t), toString_injective.ne (hkinds e t)⟩
  · intro e e'
    refine ⟨e.message_inj e', ?_⟩
    rw [e.toString_eq, e'.toString_eq]
    exact e.message_inj e'
  · intro t t'
    refine ⟨t.message_inj t', ?_⟩
    rw [t.toString_eq, t'.toString_eq]
    exact t.message_inj t'

/-- The expected text may go on as the message of another failure does. -/
example : (positioned ⟨1, "2: expected x"⟩).message ≠ (positioned ⟨12, "x"⟩).message := by decide

end Failure

end Caret
