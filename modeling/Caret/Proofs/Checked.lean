import Caret.Checked
import Caret.Proofs.CaretColumn
import Caret.Proofs.OffsetPlaces
import Mathlib.Algebra.Group.Nat.Defs

/-!
# No check fails

On a text shorter than `2 ^ 63` bytes no check fails, whatever the offset and the settings, and each
computation with checks gives what its unchecked form does (`checked_eq`):

* `search_eq`: the search for a line keeps the account of what it has read within the text;
* `window_eq`: the cut never passes the column, nor the last dots the end of the line;
* `roundDown_eq`: a boundary comes within three bytes, and there is one at the start.
-/

namespace Caret

open Text

namespace Checked

/-! ## Steps -/

theorem add_eq {a b : Nat} (h : a + b < 0x10000000000000000) : add a b = .ok (a + b) := if_pos h

theorem sub_eq {a b : Nat} (h : b ≤ a) : sub a b = .ok (a - b) := if_pos h

theorem take_eq {n : Nat} {bs : List UInt8} (h : n ≤ bs.length) : take n bs = .ok (bs.take n) := if_pos h

theorem drop_eq {n : Nat} {bs : List UInt8} (h : n ≤ bs.length) : drop n bs = .ok (bs.drop n) := if_pos h

theorem fill_eq {n : Nat} {bs : List UInt8} (h : n ≤ bs.length) :
    fill n bs = .ok (bs.take n ++ List.replicate (bs.length - n) dot) := if_pos h

/-! ## The line of an offset -/

/-- No check fails on the first line, and it is the one taken off without checks; the bytes of the line and
those left after it are among those there were, the newline between them included. -/
theorem nextLine_eq (left : List UInt8) (h : left ≠ []) (hlen : left.length < 2 ^ 63) :
    ∃ line after, nextLine left = .ok (line, after) ∧ nextLine? left = some (line, after) ∧
      (after = [] ∧ line.length ≤ left.length ∨ line.length + 1 + after.length ≤ left.length) := by
  induction left using lines_induction with
  | last r hr =>
    refine ⟨stripReturn r, [], ?_, nextLine?_last r hr h, Or.inl ⟨rfl, length_stripReturn_le r⟩⟩
    rw [nextLine, findIdx?_last r hr]
  | line r rest hr =>
    rw [List.length_append, List.length_cons] at hlen
    refine ⟨stripReturn r, rest, ?_, nextLine?_line r rest hr, Or.inr ?_⟩
    · rw [nextLine, findIdx?_line r rest hr]
      simp only []
      rw [take_eq (by rw [List.length_append]; omega), ok_bind, add_eq (by omega), ok_bind,
        drop_eq (by rw [List.length_append, List.length_cons]; omega), ok_bind, List.take_left,
        List.drop_length_add_append]
      rfl
    · have := length_stripReturn_le r
      rw [List.length_append, List.length_cons]
      omega

/-- The search finds the first line that reaches the offset, or ends with the last one. -/
theorem search_eq (pos : Nat) (left : List UInt8) (line : Line) (stop : Nat)
    (hnumber : line.number ≤ stop) (hstop : left ≠ [] → stop + left.length < 2 ^ 63) :
    search pos left line stop =
      let ls := Line.place (line.number + 1) stop (scanLines left)
      .ok ((ls.find? (·.covers pos)).getD (ls.getLast?.getD line)) := by
  unfold search
  by_cases hne : left = []
  · subst hne
    rfl
  · have hbound := hstop hne
    obtain ⟨text, after, hnext, hfirst, hlength⟩ := nextLine_eq left hne (by omega)
    have hlines := scanLines_of_nextLine? hfirst
    have hless := length_of_nextLine hne hnext
    rw [dif_neg hne]
    split
    · next f hf =>
      rw [hnext] at hf
      cases hf
    · next text' after' hf =>
      rw [hnext] at hf
      obtain ⟨rfl, rfl⟩ := Prod.mk.inj (Except.ok.inj hf)
      simp only []
      rw [add_eq (by omega), ok_bind, add_eq (by omega), ok_bind, add_eq (by omega), ok_bind,
        ← Nat.add_assoc stop, hlines, Line.place, List.find?_cons, List.getLast?_cons, Line.covers,
        Line.stop]
      simp only []
      split
      · next hcovers =>
        rw [hcovers]
        rfl
      · next hcovers =>
        have hnumber' : line.number + 1 ≤ stop + text.length + 1 := by omega
        have hstop' : after ≠ [] → stop + text.length + 1 + after.length < 2 ^ 63 := by
          intro hafter
          rcases hlength with ⟨hnil, -⟩ | hlength
          · exact absurd hnil hafter
          · omega
        rw [search_eq pos after ⟨line.number + 1, stop, text⟩ _ hnumber' hstop',
          Bool.eq_false_iff.2 hcovers]
        rfl
termination_by left.length

theorem number_of_mem_place {number start : Nat} {ls : List (List UInt8)} {l : Line}
    (h : l ∈ Line.place number start ls) : number ≤ l.number := by
  induction ls generalizing number start with
  | nil => cases h
  | cons text ls ih =>
    rcases List.mem_cons.1 h with rfl | h
    · exact Nat.le_refl number
    · have := ih h
      omega

/-- The line that the search ends with, numbered from 1, owns the offset; a text without lines has its
empty one. -/
theorem owner_eq_max (ls : List Line) (pos : Nat) (h : ∀ l ∈ ls, 1 ≤ l.number) :
    let line := (ls.find? (·.covers pos)).getD (ls.getLast?.getD ⟨0, 0, []⟩)
    (⟨max line.number 1, line.start, line.text⟩ : Line) = Line.owner ls pos := by
  unfold Line.owner
  cases hfind : ls.find? (·.covers pos) with
  | some l =>
    have hnumber := h l (List.mem_of_find?_eq_some hfind)
    simp only [Option.getD_some]
    rw [Nat.max_eq_left hnumber]
  | none =>
    cases hlast : ls.getLast? with
    | some l =>
      have hnumber := h l (List.mem_of_getLast? hlast)
      simp only [Option.getD_none, Option.getD_some]
      rw [Nat.max_eq_left hnumber]
    | none => rfl

theorem search_owner (source : String) (pos : Nat) (h : size source < 2 ^ 63) :
    ∃ line, search pos (bytes source) ⟨0, 0, []⟩ 0 = .ok line ∧
      (⟨max line.number 1, line.start, line.text⟩ : Line) = Line.owner (Line.ofText source) pos := by
  have hstop : bytes source ≠ [] → 0 + (bytes source).length < 2 ^ 63 := by
    intro _
    rwa [Nat.zero_add]
  refine ⟨_, search_eq pos (bytes source) ⟨0, 0, []⟩ 0 (Nat.le_refl 0) hstop, ?_⟩
  apply owner_eq_max (Line.ofText source) pos
  intro l hl
  exact number_of_mem_place hl

theorem find?_eq (source : String) (pos : Nat) (h : size source < 2 ^ 63) :
    find? source pos = .ok (Location.find? source pos) := by
  unfold find?
  split
  · next hpos => rw [(Location.find?_eq_none_iff source pos).2 hpos]
  · next hpos =>
    obtain ⟨line, hsearch, howner⟩ := search_owner source pos h
    have hfound : Location.find? source pos =
        some ⟨⟨max line.number 1, line.start, line.text⟩, pos - line.start⟩ := by
      rw [Location.find?, if_neg hpos, ← howner]
    have hstart := Location.start_add_column hfound
    rw [hsearch, ok_bind, sub_eq (by simp only [] at hstart; omega), ok_bind, hfound]
    rfl

/-- A located line starts in the text and is a part of it. -/
theorem stop_eq {source : String} {pos : Nat} {l : Location} (h : size source < 2 ^ 63)
    (hl : Location.find? source pos = some l) : stop l.line = .ok l.line.stop := by
  have hcolumn := Location.start_add_column hl
  have hpos := Location.le_size_of_find? hl
  obtain ⟨after, htext⟩ := Location.text_append hl
  have hlength := congrArg List.length htext
  rw [List.length_drop, List.length_append] at hlength
  have hsize : (bytes source).length = size source := rfl
  rw [stop, add_eq (by omega), ok_bind, add_eq (by omega)]
  rfl

/-! ## The window -/

theorem cutStart_eq (s : Settings) (l : Location) :
    cutStart s l = .ok ⟨if s.rightMargin < l.column then dotLeft (Window.rest s l) else Window.rest s l,
      (Window.ofLocation s l).indent⟩ := by
  have hindent : (Window.ofLocation s l).indent =
      (indentation l.line.text l.column).drop (s.cut l.column) := rfl
  unfold cutStart
  rw [hindent, Window.rest, ← Window.indentation_eq_map, Settings.cut]
  split
  · have hlength := Window.length_indentation l.line.text l.column
    dsimp only
    rw [drop_eq (by omega), ok_bind, drop_eq (Nat.min_le_right _ _), ok_bind]
    have hdrop : l.line.text.drop (min (l.column - s.window) l.line.text.length) =
        l.line.text.drop (l.column - s.window) := by
      rw [Nat.min_def]
      split
      · rfl
      · rw [List.drop_length, List.drop_of_length_le (by omega)]
    rw [hdrop]
    rfl
  · rw [List.drop_zero, List.drop_zero]

theorem cutEnd_eq (s : Settings) (w : Window) :
    cutEnd s w = .ok ⟨dotRight s.maxWidth w.line, w.indent⟩ := by
  unfold cutEnd dotRight
  split
  · next h =>
    have hlength : (w.line.take s.maxWidth).length = s.maxWidth := by
      rw [List.length_take]
      omega
    have hdots : s.maxWidth - (s.maxWidth - dotCount) = min dotCount s.maxWidth := by omega
    rw [fill_eq (by omega), ok_bind, List.take_take, hlength, hdots, Nat.min_eq_left (Nat.sub_le _ _)]
    rfl
  · rfl

theorem window_eq (s : Settings) (l : Location) : window s l = .ok (Window.ofLocation s l) := by
  rw [window, cutStart_eq, ok_bind, cutEnd_eq]
  rfl

/-! ## Rounding down -/

theorem roundDown_eq (bs : List UInt8) (steps n : Nat) (h0 : isBoundary bs 0 = true)
    (h : n ≤ floorBoundary bs n + steps) : roundDown bs steps n = .ok (floorBoundary bs n) := by
  induction steps generalizing n with
  | zero =>
    have hn : floorBoundary bs n = n := Nat.le_antisymm (floorBoundary_le bs n) h
    have hb : isBoundary bs n = true := by
      rw [← hn]
      exact isBoundary_floorBoundary bs n h0
    rw [roundDown, if_pos hb, hn]
  | succ steps ih =>
    cases n with
    | zero =>
      rw [roundDown, if_pos h0]
      rfl
    | succ n =>
      unfold roundDown floorBoundary
      split
      · rfl
      · next hb =>
        rw [floorBoundary, if_neg hb] at h
        show (sub (n + 1) 1 >>= roundDown bs steps) = _
        rw [sub_eq (Nat.le_add_left 1 n), ok_bind, Nat.add_sub_cancel]
        exact ih n (by omega)

/-- In a text three steps are enough. -/
theorem roundDown_bytes (source : String) (n : Nat) (h : n ≤ size source) :
    roundDown (bytes source) 3 n = .ok (floorBoundary (bytes source) n) := by
  apply roundDown_eq
  · exact isBoundary_append [] source.toList
  · exact le_floorBoundary_add_three h

theorem suffix_eq (before rest : String) : suffix (before ++ rest) (size before) = .ok rest := by
  unfold suffix
  rw [size, bytes_append, List.drop_left, bytes, bytes, decode_encode, String.ofList_toList, ← encode_append,
    if_pos (isBoundary_append before.toList rest.toList)]

theorem fromConsumed_eq (input : String) (consumed : Nat) :
    fromConsumed input consumed = .ok (TrailingInput.fromConsumed input consumed) := by
  unfold fromConsumed
  split
  · next h =>
    rw [TrailingInput.fromConsumed_of_le h]
    rfl
  · next h =>
    obtain ⟨before, rest, hinput, hbefore, hleft⟩ := TrailingInput.fromConsumed_of_lt (Nat.lt_of_not_le h)
    have hsuffix : suffix input (floorBoundary (bytes input) consumed) = .ok rest := by
      rw [← hbefore, hinput, suffix_eq]
    rw [hleft, roundDown_bytes input consumed (by omega), ok_bind, hsuffix, ok_bind]
    rfl

theorem place?_eq (e : PositionedError) (source : String) :
    place? e source = .ok (Report.place? e source) := by
  unfold place? Report.place?
  split
  · rfl
  · next h =>
    rw [roundDown_bytes source e.pos (by omega), ok_bind]
    rfl

/-! ## The diagnostic -/

theorem locate_eq (s : Settings) (e : PositionedError) (source : String) (h : size source < 2 ^ 63) :
    locate s e source = .ok (Diagnostic.locate s e source) := by
  rw [locate, find?_eq source e.pos h, ok_bind, Diagnostic.locate]
  cases Location.find? source e.pos with
  | none => rfl
  | some l =>
    dsimp only
    rw [window_eq, ok_bind]
    rfl

/-! ## Top theorem -/

/-- **No check fails**: on a text shorter than `2 ^ 63` bytes every computation ends, with each step
checked, and gives what it gives unchecked. -/
theorem checked_eq (source : String) (h : size source < 2 ^ 63) :
    (∀ pos, find? source pos = .ok (Location.find? source pos)) ∧
    (∀ pos l, Location.find? source pos = some l → stop l.line = .ok l.line.stop) ∧
    (∀ s e, locate s e source = .ok (Diagnostic.locate s e source)) ∧
    (∀ consumed, fromConsumed source consumed = .ok (TrailingInput.fromConsumed source consumed)) ∧
    (∀ e, place? e source = .ok (Report.place? e source)) := by
  refine ⟨?_, ?_, ?_, ?_, ?_⟩
  · intro pos
    exact find?_eq source pos h
  · intro pos l hl
    exact stop_eq h hl
  · intro s e
    exact locate_eq s e source h
  · intro consumed
    exact fromConsumed_eq source consumed
  · intro e
    exact place?_eq e source

/-- A column past the end of the last line, a window wider than the column and a width of one byte. -/
theorem checked_eq_degenerate :
    size "a\r\né\r\n" < 2 ^ 63 ∧
      locate ⟨0, 2 ^ 64 - 1, 1⟩ ⟨7, "x"⟩ "a\r\né\r\n" =
        .ok ⟨"Parsing error in line 2:\n.\n     ^\noffset 7: expected x\n",
          [⟨.trace, "Located error line", [("line_number", "2"), ("line_start", "2"), ("column", "5")]⟩]⟩ ∧
      place? ⟨4, "x"⟩ "a\r\né\r\n" = .ok (some 3) := by
  have h : size "a\r\né\r\n" < 2 ^ 63 := by decide
  obtain ⟨-, -, hlocate, -, hplace⟩ := checked_eq "a\r\né\r\n" h
  refine ⟨h, ?_, ?_⟩
  · rw [hlocate]
    rfl
  · rw [hplace]
    rfl

end Checked

end Caret
