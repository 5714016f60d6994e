import Caret.Proofs.Truncation
import Mathlib.Data.List.Basic

/-!
# The bytes of a window

A byte of the line shown is the byte of the located line at its index past the cut, unless a dot is written over
it (`getElem?_line_of_not_isDotted`).  A byte of the indentation is a tab where that line has one at the same
index, and a space elsewhere, past the end of the line too (`getElem?_indent`).

`Shows` collects this with the lengths of both.  It determines a window (`Shows.unique`), so it says all there is
to a window, in numbers and bytes (`eq_ofLocation_iff`).
-/

namespace Caret

open Text

theorem Settings.cut_le (s : Settings) (column : Nat) : s.cut column ≤ column := by
  unfold Settings.cut
  split <;> omega

namespace Window

section
variable (s : Settings) (l : Location)

/-- A dot is written at this index of the line shown, if it has one. -/
def IsDotted (j : Nat) : Prop :=
  IsCutLeft s l ∧ j < dotCount ∨ IsCutRight s l ∧ s.maxWidth ≤ j + dotCount

theorem getElem?_line_of_not_isDotted (j : Nat) (hj : j < (ofLocation s l).line.length)
    (hd : ¬ IsDotted s l j) : (ofLocation s l).line[j]? = l.line.text[s.cut l.column + j]? := by
  rw [length_line] at hj
  rw [getElem?_line s l j hj]
  exact if_neg hd

theorem getElem?_line_of_isDotted (j : Nat) (hj : j < (ofLocation s l).line.length)
    (hd : IsDotted s l j) : (ofLocation s l).line[j]? = some dot := by
  rw [length_line] at hj
  rw [getElem?_line s l j hj]
  exact if_pos hd

/-! ## Indentation -/

/-- Byte for byte, an indentation is a tab where the line has one and a space elsewhere. -/
theorem indentation_eq_map (text : List UInt8) (column : Nat) :
    indentation text column =
      (List.range column).map fun i => if text[i]? = some tab then tab else 0x20 := by
  apply List.ext_getElem?
  intro i
  rw [List.getElem?_map, indentation, List.getElem?_append, List.length_map, List.length_take]
  by_cases hc : i < column
  · rw [List.getElem?_range hc, Option.map_some]
    by_cases ht : i < text.length
    · rw [if_pos (by omega), List.getElem?_map, List.getElem?_take, if_pos hc,
        List.getElem?_eq_getElem ht, Option.map_some]
      simp only [Option.some.injEq]
    · have hnone : text[i]? = none := List.getElem?_eq_none (Nat.le_of_not_lt ht)
      rw [if_neg (by omega), List.getElem?_replicate, if_pos (by omega), hnone]
      rfl
  · have hnone : (List.range column)[i]? = none :=
      List.getElem?_eq_none (by rw [List.length_range]; omega)
    rw [hnone, if_neg (by omega), List.getElem?_replicate, if_neg (by omega)]
    rfl

theorem length_indentation (text : List UInt8) (column : Nat) :
    (indentation text column).length = column := by
  rw [indentation_eq_map, List.length_map, List.length_range]

theorem length_indent : (ofLocation s l).indent.length = l.column - s.cut l.column := by
  show ((indentation l.line.text l.column).drop (s.cut l.column)).length = _
  rw [List.length_drop, length_indentation]

/-- The indentation repeats the tabs of the line, those under a dot included. -/
theorem getElem?_indent (j : Nat) (hj : j < (ofLocation s l).indent.length) :
    (ofLocation s l).indent[j]? =
      some (if l.line.text[s.cut l.column + j]? = some tab then tab else 0x20) := by
  rw [length_indent] at hj
  show ((indentation l.line.text l.column).drop (s.cut l.column))[j]? = _
  rw [List.getElem?_drop, indentation_eq_map, List.getElem?_map, List.getElem?_range (by omega)]
  rfl

/-! ## A window by its bytes -/

instance (j : Nat) : Decidable (IsDotted s l j) := inferInstanceAs (Decidable (_ ∨ _))

/-- What a window on a located line holds, byte by byte. -/
structure Shows (w : Window) : Prop where
  length_line : w.line.length = min (rest s l).length s.maxWidth
  line : ∀ j, j < min (rest s l).length s.maxWidth →
    w.line[j]? = if IsDotted s l j then some dot else l.line.text[s.cut l.column + j]?
  length_indent : w.indent.length = l.column - s.cut l.column
  indent : ∀ j, j < l.column - s.cut l.column →
    w.indent[j]? = some (if l.line.text[s.cut l.column + j]? = some tab then tab else 0x20)

theorem shows_ofLocation : Shows s l (ofLocation s l) where
  length_line := length_line s l
  line := getElem?_line s l
  length_indent := length_indent s l
  indent := by
    intro j hj
    rw [← length_indent] at hj
    exact getElem?_indent s l j hj

variable {s l}

/-- The bytes leave no choice. -/
theorem Shows.unique {w w' : Window} (h : Shows s l w) (h' : Shows s l w') : w = w' := by
  obtain ⟨line, indent⟩ := w
  obtain ⟨line', indent'⟩ := w'
  have hline : line = line' := by
    apply List.ext_getElem?'
    intro j hj
    rw [h.length_line, h'.length_line, Nat.max_self] at hj
    rw [h.line j hj, h'.line j hj]
  have hindent : indent = indent' := by
    apply List.ext_getElem?'
    intro j hj
    rw [h.length_indent, h'.length_indent, Nat.max_self] at hj
    rw [h.indent j hj, h'.indent j hj]
  rw [hline, hindent]

theorem shows_iff {w : Window} : Shows s l w ↔ w = ofLocation s l := by
  constructor
  · intro h
    exact h.unique (shows_ofLocation s l)
  · rintro rfl
    exact shows_ofLocation s l

end

/-! ## Top theorem -/

/-- **A window in numbers and bytes**, whatever the column and the settings. -/
theorem eq_ofLocation_iff (s : Settings) (l : Location) (w : Window) :
    let text := l.line.text
    let c := l.column
    let m := s.rightMargin
    let x := s.maxWidth
    let cut := if m < c then c - s.window else 0
    let behind := text.drop (min cut text.length)
    (w = ofLocation s l ↔
      w.line.length = min behind.length x ∧
      (∀ j, j < min behind.length x → w.line[j]? =
        if m < c ∧ j < 3 ∨ x < behind.length ∧ x ≤ j + 3 then some 0x2E else text[cut + j]?) ∧
      w.indent.length = c - cut ∧
      ∀ j, j < c - cut →
        w.indent[j]? = some (if text[cut + j]? = some 0x09 then 0x09 else 0x20)) ∧
    (c ≤ m → c - cut = c) ∧ (m < c → c - cut = min c s.window) ∧ c - cut ≤ max m s.window := by
  intro text c m x cut behind
  have hbehind : behind = rest s l := drop_min_eq_rest s l
  refine ⟨?_, ?_, ?_, ?_⟩
  · rw [← shows_iff, hbehind]
    constructor
    · rintro ⟨h1, h2, h3, h4⟩
      exact ⟨h1, h2, h3, h4⟩
    · rintro ⟨h1, h2, h3, h4⟩
      exact ⟨h1, h2, h3, h4⟩
  · intro hle
    rw [show cut = 0 from if_neg (Nat.not_lt.2 hle), Nat.sub_zero]
  · intro hlt
    rw [show cut = c - s.window from if_pos hlt]
    omega
  · show c - (if m < c then c - s.window else 0) ≤ _
    split <;> omega

/-- A column past the end of the line and a window wider than the margin: the tab under a dot stays in the
indentation, which goes on with spaces where the line ends. -/
theorem eq_ofLocation_iff_past_end :
    let s : Settings := ⟨5, 9, 7⟩
    let l : Location := ⟨⟨1, 0, bytes "abcdef\tghi"⟩, 14⟩
    let w := ofLocation s l
    w.line.length = 5 ∧ w.line[1]? = some dot ∧ w.line[3]? = some 0x68 ∧
      s.rightMargin < l.column ∧ w.indent.length = 9 ∧ w.indent[1]? = some tab ∧
      w.indent[8]? = some 0x20 := by
  intro s l w
  obtain ⟨hbytes, -, hlength, -⟩ := eq_ofLocation_iff s l w
  obtain ⟨hline, hlineByte, hindent, hindentByte⟩ := hbytes.1 rfl
  have hcut : s.rightMargin < l.column := by decide
  refine ⟨hline.trans (by decide), ?_, ?_, hcut, hindent.trans (hlength hcut), ?_, ?_⟩
  · exact (hlineByte 1 (by decide)).trans (by decide)
  · exact (hlineByte 3 (by decide)).trans (by decide)
  · exact (hindentByte 1 (by decide)).trans (by decide)
  · exact (hindentByte 8 (by decide)).trans (by decide)

end Window

end Caret
