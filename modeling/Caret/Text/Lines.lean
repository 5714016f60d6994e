/-!
# Lines of a byte sequence

A newline ends a line and belongs to none; a newline at the very end adds no empty line. `rawLines`
cuts at newlines only, `scanLines` also drops one carriage return at the end of each line. `nextLine?`
is one step of a reader that keeps the bytes it has not read yet.
-/

namespace Caret.Text

/-- The byte that ends a line. -/
def newline : UInt8 := 0x0A

/-- The byte that may stand before a newline as part of the line's end. -/
def carriageReturn : UInt8 := 0x0D

/-- The byte that keeps its width unknown. -/
def tab : UInt8 := 0x09

/-- The lines between newlines. -/
def rawLines : List UInt8 → List (List UInt8)
  | [] => []
  | b :: bs =>
    if b = newline then [] :: rawLines bs
    else match rawLines bs with
      | [] => [[b]]
      | l :: ls => (b :: l) :: ls

/-- Drops one carriage return at the end. -/
def stripReturn (line : List UInt8) : List UInt8 :=
  if line.getLast? = some carriageReturn then line.dropLast else line

/-- The lines of a byte sequence, without the bytes that end them. -/
def scanLines (bs : List UInt8) : List (List UInt8) := (rawLines bs).map stripReturn

/-- Takes one line off the bytes that are left: the line, without the bytes that end it, and what is left
after it. `none` once nothing is left. -/
def nextLine? (left : List UInt8) : Option (List UInt8 × List UInt8) :=
  if left = [] then none
  else match left.findIdx? (· == newline) with
    | some n => some (stripReturn (left.take n), left.drop (n + 1))
    | none => some (stripReturn left, [])

/-- The pieces of a text between newline characters: one more than it has of them. -/
def pieces : List Char → List (List Char)
  | [] => [[]]
  | c :: cs =>
    match pieces cs with
    | [] => [[c]]
    | p :: ps => if c = '\n' then [] :: p :: ps else (c :: p) :: ps

/-! ## Lemmas -/

theorem rawLines_eq_nil_iff {bs : List UInt8} : rawLines bs = [] ↔ bs = [] := by
  cases bs with
  | nil => simp [rawLines]
  | cons b bs =>
    unfold rawLines
    split
    · simp
    · split <;> simp

/-- No line holds a newline. -/
theorem newline_notMem_of_mem_rawLines {bs l : List UInt8} (h : l ∈ rawLines bs) :
    newline ∉ l := by
  induction bs generalizing l with
  | nil => simp [rawLines] at h
  | cons b bs ih =>
    unfold rawLines at h
    split at h
    · rcases List.mem_cons.1 h with rfl | h
      · exact List.not_mem_nil
      · exact ih h
    · next hb =>
      split at h
      · rcases List.mem_singleton.1 h with rfl
        simpa using Ne.symm hb
      · next l' ls hr =>
        rcases List.mem_cons.1 h with rfl | h
        · have := ih (l := l') (by simp [hr])
          simpa [this] using Ne.symm hb
        · exact ih (by simp [hr, h])

theorem length_stripReturn_le (line : List UInt8) : (stripReturn line).length ≤ line.length := by
  unfold stripReturn
  split <;> simp

end Caret.Text
