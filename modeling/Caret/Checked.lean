import Caret.Diagnostic
import Caret.Except
import Caret.Report

/-!
# Every step checked

The computations of the library on machine words and slices, where a sum can leave the word, a difference
can fall below zero, a slice can lie outside its list, and a text can be cut inside a character.  Each such
step is checked here and stops at a `Fault`.  The loop that looks for a line reads one line at a time
(`nextLine`), the one that rounds an offset down may take three steps (`roundDown`).
-/

namespace Caret

open Text

namespace Checked

/-- Why a step cannot be taken. -/
inductive Fault
  | overflow
  | underflow
  | outOfBounds
  | insideCharacter
  | tooManySteps
deriving DecidableEq

/-! ## Steps -/

/-- A sum, as long as it fits a word of 64 bits. -/
def add (a b : Nat) : Except Fault Nat :=
  if a + b < 0x10000000000000000 then .ok (a + b) else .error .overflow

/-- A difference, as long as it is not below zero. -/
def sub (a b : Nat) : Except Fault Nat := if b ≤ a then .ok (a - b) else .error .underflow

/-- The first `n` bytes, as long as there are so many. -/
def take (n : Nat) (bs : List UInt8) : Except Fault (List UInt8) :=
  if n ≤ bs.length then .ok (bs.take n) else .error .outOfBounds

/-- The bytes from index `n` on, as long as it is not past the end. -/
def drop (n : Nat) (bs : List UInt8) : Except Fault (List UInt8) :=
  if n ≤ bs.length then .ok (bs.drop n) else .error .outOfBounds

/-- Writes dots from index `n` to the end, as long as it is not past the end. -/
def fill (n : Nat) (bs : List UInt8) : Except Fault (List UInt8) :=
  if n ≤ bs.length then .ok (bs.take n ++ List.replicate (bs.length - n) dot) else .error .outOfBounds

/-- The text from an offset on, as long as a character starts there or the text ends. -/
def suffix (source : String) (n : Nat) : Except Fault String :=
  if isBoundary (bytes source) n then .ok (String.ofList (decode ((bytes source).drop n)))
  else .error .insideCharacter

/-! ## The line of an offset -/

/-- Takes one line off the bytes that are left, and what is left then. -/
def nextLine (left : List UInt8) : Except Fault (List UInt8 × List UInt8) :=
  match left.findIdx? (· == newline) with
  | some n => do
    let line ← take n left
    let left ← drop (← add n 1) left
    return (stripReturn line, left)
  | none => .ok (stripReturn left, [])

/-- A line that is taken off leaves fewer bytes. -/
theorem length_of_nextLine {left line after : List UInt8} (hne : left ≠ [])
    (h : nextLine left = .ok (line, after)) : after.length < left.length := by
  have hpos := List.length_pos_iff.2 hne
  unfold nextLine at h
  split at h
  · simp only [add, drop, bind_eq_ok, ite_eq_ok_iff] at h
    obtain ⟨_, -, _, ⟨-, rfl⟩, _, ⟨-, rfl⟩, hresult⟩ := h
    obtain ⟨-, rfl⟩ := Prod.mk.inj (Except.ok.inj hresult)
    rw [List.length_drop]
    omega
  · obtain ⟨-, rfl⟩ := Prod.mk.inj (Except.ok.inj h)
    exact hpos

/-- Looks for the line of an offset in the bytes that are left, after `line`, the last one read, and
`stop`, the end of all lines read. -/
def search (pos : Nat) (left : List UInt8) (line : Line) (stop : Nat) : Except Fault Line :=
  if hne : left = [] then .ok line
  else
    match hnext : nextLine left with
    | .error f => .error f
    | .ok (text, after) => do
      have := length_of_nextLine hne hnext
      let number ← add line.number 1
      let next ← add stop (← add text.length 1)
      if stop ≤ pos && pos ≤ next then return ⟨number, stop, text⟩
      else search pos after ⟨number, stop, text⟩ next
termination_by left.length

/-- The line and column of an offset; none past the end of the text. -/
def find? (source : String) (pos : Nat) : Except Fault (Option Location) :=
  if size source < pos then .ok none
  else do
    let line ← search pos (bytes source) ⟨0, 0, []⟩ 0
    let column ← sub pos line.start
    return some ⟨⟨max line.number 1, line.start, line.text⟩, column⟩

/-- The offset just past a line's end. -/
def stop (l : Line) : Except Fault Nat := do add (← add l.start l.text.length) 1

/-! ## The window -/

/-- Leaves out the start of the line and of the indentation, if the column is past the right margin. -/
def cutStart (s : Settings) (l : Location) : Except Fault Window :=
  let indent := (List.range l.column).map fun i => if l.line.text[i]? = some tab then tab else 0x20
  if s.rightMargin < l.column then do
    let cut := l.column - s.window
    let indent ← drop cut indent
    let line ← drop (min cut l.line.text.length) l.line.text
    return ⟨dotLeft line, indent⟩
  else .ok ⟨l.line.text, indent⟩

/-- Leaves out the end of the line, if it is longer than the width. -/
def cutEnd (s : Settings) (w : Window) : Except Fault Window :=
  if s.maxWidth < w.line.length then do
    let line ← fill (s.maxWidth - dotCount) (w.line.take s.maxWidth)
    return ⟨line, w.indent⟩
  else .ok w

/-- The window on a located line. -/
def window (s : Settings) (l : Location) : Except Fault Window := do cutEnd s (← cutStart s l)

/-! ## Rounding down -/

/-- Walks back from an offset to a character boundary, by no more than so many steps. -/
def roundDown (bs : List UInt8) (steps n : Nat) : Except Fault Nat :=
  if isBoundary bs n then .ok n
  else
    match steps with
    | 0 => .error .tooManySteps
    | steps + 1 => do roundDown bs steps (← sub n 1)

/-- What is left of `input` once `consumed` bytes are taken. -/
def fromConsumed (input : String) (consumed : Nat) : Except Fault (Logged (Option TrailingInput)) :=
  if size input ≤ consumed then .ok (pure none)
  else do
    let boundary ← roundDown (bytes input) 3 consumed
    let remaining ← suffix input boundary
    return do
      Logged.note .debug "Input left unparsed"
        [("consumed", toString consumed), ("boundary", toString boundary),
         ("total", toString (size input))]
      return some ⟨remaining⟩

/-- The place of a positioned error in a text. -/
def place? (e : PositionedError) (source : String) : Except Fault (Option Nat) :=
  if size source < e.pos then .ok none
  else do
    let boundary ← roundDown (bytes source) 3 e.pos
    return some boundary

/-! ## The diagnostic -/

/-- The diagnostic of an error in a text, with the record of where it was found. -/
def locate (s : Settings) (e : PositionedError) (source : String) : Except Fault (Logged String) := do
  match ← find? source e.pos with
  | none => return ⟨e.message, [Diagnostic.record e source none]⟩
  | some l =>
    let w ← window s l
    return ⟨"Parsing error in line " ++ toString l.line.number ++ ":\n" ++ w.render ++ e.message ++ "\n",
      [Diagnostic.record e source (some l)]⟩

end Checked

end Caret
