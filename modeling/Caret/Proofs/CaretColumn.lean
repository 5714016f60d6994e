import Caret.Proofs.Reading
import Caret.Proofs.WindowBytes

/-!
# The byte above the caret

A byte of the window where no dot is written is a byte of the line, and this one stands in the text at its
index past the true start of the line (`getElem?_line_source`).  Where the settings leave room for the caret (`Settings.Roomy`) no dot reaches its column, so the byte
above it is the one at the offset (`caret_under_byte`).

The indentation repeats the tabs of the line as they were before the dots (`getElem?_indent`).  So the two
lines have their tabs at the same places unless a dot was written over one (`tabs_agree_iff`), which a cut
at the start can do (`standard_tabs_agree_iff`).
-/

namespace Caret

open Text

/-- The settings keep enough of the line on both sides of the column for the dots to miss it: the dots at
the start fit in the window, and those at the end begin past the right margin. -/
structure Settings.Roomy (s : Settings) : Prop where
  window : dotCount ≤ s.window
  margin : s.window ≤ s.rightMargin
  width : s.rightMargin + dotCount < s.maxWidth

theorem Settings.roomy_standard : standard.Roomy := by
  constructor <;> decide

namespace Window

section
variable (s : Settings) (l : Location)

/-! ## Tabs -/

theorem tab_indent_iff (j : Nat) (hj : j < (ofLocation s l).indent.length) :
    (ofLocation s l).indent[j]? = some tab ↔ l.line.text[s.cut l.column + j]? = some tab := by
  rw [getElem?_indent s l j hj, Option.some.injEq]
  split
  · next h => simp [h]
  · next h =>
    constructor
    · intro he
      exact absurd he (by decide)
    · intro he
      exact absurd he h

/-- The two lines differ in a tab exactly where a dot was written over one. -/
theorem tabs_agree_iff (j : Nat) (hi : j < (ofLocation s l).indent.length)
    (hj : j < (ofLocation s l).line.length) :
    ((ofLocation s l).indent[j]? = some tab ↔ (ofLocation s l).line[j]? = some tab) ↔
      ¬ (IsDotted s l j ∧ l.line.text[s.cut l.column + j]? = some tab) := by
  rw [tab_indent_iff s l j hi]
  by_cases hd : IsDotted s l j
  · have hdot : ¬ (some dot = some tab) := by decide
    rw [getElem?_line_of_isDotted s l j hj hd]
    simp only [hd, hdot, iff_false, true_and]
  · rw [getElem?_line_of_not_isDotted s l j hj hd]
    simp only [hd, false_and, not_false_eq_true]

theorem mem_take_drop_iff (bs : List UInt8) (n m : Nat) (b : UInt8) :
    b ∈ (bs.drop n).take m ↔ ∃ j, j < m ∧ bs[n + j]? = some b := by
  rw [List.mem_iff_getElem?]
  constructor
  · rintro ⟨j, hj⟩
    rw [List.getElem?_take] at hj
    split at hj
    · next hm => exact ⟨j, hm, by rw [← List.getElem?_drop]; exact hj⟩
    · cases hj
  · rintro ⟨j, hm, hj⟩
    refine ⟨j, ?_⟩
    rw [List.getElem?_take, if_pos hm, List.getElem?_drop, hj]

/-! ## The window in the text -/

section
variable {l} {source : String} {pos : Nat} (h : Location.find? source pos = some l)
include h

theorem length_indent_le_add_drift : (ofLocation s l).indent.length ≤ pos + l.drift source := by
  have hpos := Location.start_add_column h
  rw [length_indent]
  omega

/-- The bytes shown stand in the text side by side, the one above the caret at the offset and the carriage
returns dropped before it. -/
theorem getElem?_line_source (j : Nat) (hj : j < (ofLocation s l).line.length) (hd : ¬ IsDotted s l j) :
    (ofLocation s l).line[j]? =
      (bytes source)[pos + l.drift source - (ofLocation s l).indent.length + j]? := by
  have hpos := Location.start_add_column h
  have hdrift := Location.start_add_drift h
  have hcut := s.cut_le l.column
  have hindent := length_indent s l
  have hline := length_line s l
  have hrest := length_rest s l
  rw [getElem?_line_of_not_isDotted s l j hj hd, Location.getElem?_text h _ (by omega)]
  congr 1
  omega

end

/-! ## Room for the caret -/

section
variable {s} (hs : s.Roomy)
include hs

theorem length_indent_le : (ofLocation s l).indent.length ≤ s.rightMargin := by
  have := hs.margin
  rw [length_indent, Settings.cut]
  split <;> omega

theorem length_indent_lt (hc : l.column < l.line.text.length) :
    (ofLocation s l).indent.length < (ofLocation s l).line.length := by
  have hle := length_indent_le l hs
  have hw := hs.width
  have hcut := s.cut_le l.column
  rw [length_line, length_rest]
  rw [length_indent] at hle ⊢
  omega

/-- The caret stands past the dots at the start and before those at the end. -/
theorem not_isDotted_caret : ¬ IsDotted s l (ofLocation s l).indent.length := by
  have hle := length_indent_le l hs
  have hw := hs.width
  have hm := hs.margin
  have hwin := hs.window
  rintro (⟨hl, hj⟩ | ⟨-, hj⟩)
  · have hl : s.rightMargin < l.column := hl
    rw [length_indent, Settings.cut, if_pos hl] at hj
    omega
  · omega

end

end

/-! ## Top theorems -/

/-- **The caret stands under the byte at the offset**, and the bytes shown beside that one are its
neighbours in the text, up to the dots. -/
theorem caret_under_byte :
    Settings.standard.Roomy ∧
    ∀ s : Settings, s.Roomy → ∀ (source : String) (pos : Nat), pos ≤ size source →
      ∃ l, Location.find? source pos = some l ∧ (l.column < l.line.text.length →
        let bs := bytes source
        let w := ofLocation s l
        let caret := w.indent.length
        let d := l.drift source
        caret < w.line.length ∧ w.line[caret]? = bs[pos + d]? ∧ ¬ IsDotted s l caret ∧
        (d = 0 → w.line[caret]? = bs[pos]?) ∧ caret ≤ pos + d ∧
        ∀ j, j < w.line.length →
          (IsDotted s l j → w.line[j]? = some dot) ∧
          (¬ IsDotted s l j → w.line[j]? = bs[pos + d - caret + j]?)) := by
  refine ⟨Settings.roomy_standard, ?_⟩
  intro s hs source pos h
  obtain ⟨l, hl⟩ := Location.exists_find? h
  refine ⟨l, hl, ?_⟩
  intro hc
  have hlt := length_indent_lt l hs hc
  have hdot := not_isDotted_caret l hs
  have hle := length_indent_le_add_drift s hl
  have hcaret : (ofLocation s l).line[(ofLocation s l).indent.length]? =
      (bytes source)[pos + l.drift source]? := by
    rw [getElem?_line_source s hl _ hlt hdot]
    congr 1
    omega
  refine ⟨hlt, hcaret, hdot, ?_, hle, ?_⟩
  · intro h0
    rw [hcaret, h0, Nat.add_zero]
  · intro j hj
    exact ⟨getElem?_line_of_isDotted s l j hj, getElem?_line_source s hl j hj⟩

/-- Both cuts on the second line: offset 8 is column 6 by the account, and byte 9 of the text. -/
theorem caret_under_byte_cut_twice :
    let s : Settings := ⟨4, 3, 9⟩
    let source := "x\r\nabcdef!hijklmnop"
    let l : Location := ⟨⟨2, 2, bytes "abcdef!hijklmnop"⟩, 6⟩
    s.Roomy ∧ 8 ≤ size source ∧ Location.find? source 8 = some l ∧ l.column < l.line.text.length ∧
      (ofLocation s l).line = bytes "...!hi..." ∧ (ofLocation s l).indent.length = 3 ∧
      (ofLocation s l).line[3]? = (bytes source)[9]? := by
  intro s source l
  have hroomy : s.Roomy := by constructor <;> decide
  have hsize : 8 ≤ size source := by decide
  have hfound : Location.find? source 8 = some l := by decide
  have hcolumn : l.column < l.line.text.length := by decide
  obtain ⟨l', hl', hcaret⟩ := caret_under_byte.2 s hroomy source 8 hsize
  obtain rfl := Option.some.inj (hl'.symm.trans hfound)
  obtain ⟨-, hbyte, -⟩ := hcaret hcolumn
  have hindent : (ofLocation s l).indent.length = 3 := by decide
  have hdrift : l.drift source = 1 := by decide
  rw [hindent, hdrift] at hbyte
  exact ⟨hroomy, hsize, hfound, hcolumn, by decide, hindent, hbyte⟩

/-- **The tabs of the caret line and of the line above it**, under the standard settings: they stand at
the same places unless the dots at the start were written over a tab. -/
theorem standard_tabs_agree_iff (source : String) (e : PositionedError) (h : e.pos ≤ size source) :
    ∃ l, Location.find? source e.pos = some l ∧
      Diagnostic.render Settings.standard e source = Diagnostic.atLocation Settings.standard e l ∧
      let w := ofLocation Settings.standard l
      ((∀ j, j < w.indent.length → j < w.line.length →
          (w.indent[j]? = some tab ↔ w.line[j]? = some tab)) ↔
        ¬ (40 < l.column ∧ tab ∈ (l.line.text.drop (l.column - 30)).take 3)) := by
  obtain ⟨l, hl⟩ := Location.exists_find? h
  refine ⟨l, hl, by rw [Diagnostic.render_eq, hl, Option.elim_some], ?_⟩
  have hindent := length_indent Settings.standard l
  have hline := length_line Settings.standard l
  have hrest := length_rest Settings.standard l
  constructor
  · rintro hall ⟨hcol, hmem⟩
    obtain ⟨j, hj, htab⟩ := (mem_take_drop_iff _ _ _ _).1 hmem
    have hcut : Settings.standard.cut l.column = l.column - 30 := if_pos hcol
    have hlen : l.column - 30 + j < l.line.text.length := (List.getElem?_eq_some_iff.1 htab).1
    have hmax : Settings.standard.maxWidth = 70 := rfl
    have hi : j < (ofLocation Settings.standard l).indent.length := by omega
    have hj' : j < (ofLocation Settings.standard l).line.length := by omega
    apply (tabs_agree_iff Settings.standard l j hi hj').1 (hall j hi hj')
    rw [hcut]
    exact ⟨Or.inl ⟨hcol, hj⟩, htab⟩
  · intro hn j hi hj
    rw [tabs_agree_iff Settings.standard l j hi hj]
    rintro ⟨⟨hcol, hdot⟩ | ⟨-, hdot⟩, htab⟩
    · apply hn
      have hcut : Settings.standard.cut l.column = l.column - 30 := if_pos hcol
      rw [hcut] at htab
      exact ⟨hcol, (mem_take_drop_iff _ _ _ _).2 ⟨j, hdot, htab⟩⟩
    · -- the indentation ends before the dots on the right begin
      have hle := length_indent_le l Settings.roomy_standard
      have hmargin : Settings.standard.rightMargin = 40 := rfl
      have hmax : Settings.standard.maxWidth = 70 := rfl
      have hthree : dotCount = 3 := rfl
      omega

/-- A tab in the middle of the window: the caret line and the line above it both keep it. -/
theorem standard_tabs_agree_inside :
    let cs := List.replicate 45 'z' ++ '\t' :: List.replicate 10 'z'
    let w := ofLocation Settings.standard ⟨⟨1, 0, encode cs⟩, 50⟩
    50 ≤ size (String.ofList cs) ∧
      Location.find? (String.ofList cs) 50 = some ⟨⟨1, 0, encode cs⟩, 50⟩ ∧ w.line[25]? = some tab ∧
      ∀ j, j < w.indent.length → j < w.line.length →
        (w.indent[j]? = some tab ↔ w.line[j]? = some tab) := by
  intro cs w
  have hfound : Location.find? (String.ofList cs) 50 = some ⟨⟨1, 0, encode cs⟩, 50⟩ :=
    Location.find?_one_line cs 50 (by decide) (by decide) (by decide)
  have hsize := Location.le_size_of_find? hfound
  obtain ⟨l, hl, -, hagree⟩ := standard_tabs_agree_iff (String.ofList cs) ⟨50, "thing"⟩ hsize
  obtain rfl := Option.some.inj (hl.symm.trans hfound)
  exact ⟨hsize, hfound, by decide, hagree.2 (by decide)⟩

/-- A tab under the first dot: the caret line keeps it and the line above does not. -/
theorem tabs_disagree_under_dot :
    ¬ ∀ (source : String) (e : PositionedError), e.pos ≤ size source →
      ∃ l, Location.find? source e.pos = some l ∧
        let w := ofLocation Settings.standard l
        ∀ j, j < w.indent.length → j < w.line.length →
          (w.indent[j]? = some tab ↔ w.line[j]? = some tab) := by
  intro hall
  let cs := List.replicate 11 'z' ++ '\t' :: List.replicate 30 'z'
  have hfound : Location.find? (String.ofList cs) 41 = some ⟨⟨1, 0, encode cs⟩, 41⟩ :=
    Location.find?_one_line cs 41 (by decide) (by decide) (by decide)
  obtain ⟨l, hl, hw⟩ := hall (String.ofList cs) ⟨41, "thing"⟩ (Location.le_size_of_find? hfound)
  obtain rfl := Option.some.inj (hl.symm.trans hfound)
  have htab : (ofLocation Settings.standard ⟨⟨1, 0, encode cs⟩, 41⟩).line[0]? = some tab :=
    (hw 0 (by decide) (by decide)).1 (by decide)
  exact absurd htab (by decide)

end Window

end Caret
