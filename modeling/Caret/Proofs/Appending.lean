import Caret.Proofs.LineEnds
import Caret.Proofs.Sweep

/-!
# Text written after a text

A text that ends in a newline keeps its lines whatever is written after it: the lines of the whole are its own,
and below them those of what was added (`scanLines_append`, by `ended_induction`).

So the accounted end of the first text parts the offsets of the whole.  Up to it an offset belongs to the line
it belonged to before (`Owns.append_left`); past it the offset belongs to a line of the second text, found at the
offset that is left, with the lines and the bytes of the first counted in (`Owns.append_right`).  For the
locations these are `find?_append_left` and `find?_append_right`, and `find?_append` has both.
-/

namespace Caret

open Text

namespace Text

/-! ## Lines of both texts -/

/-- Bytes that end in a newline are one line with its newline, or such a line and bytes that end in one again. -/
@[elab_as_elim]
theorem ended_induction {P : (bs : List UInt8) → bs.getLast? = some newline → Prop}
    (one : ∀ r, newline ∉ r → P (r ++ [newline]) List.getLast?_concat)
    (more : ∀ r rest (h : rest.getLast? = some newline), newline ∉ r → P rest h →
      P (r ++ newline :: rest) (by simp [List.getLast?_cons, h]))
    (bs : List UInt8) (h : bs.getLast? = some newline) : P bs h := by
  induction bs using lines_induction with
  | last r hr => exact absurd (List.mem_of_getLast? h) hr
  | line r rest hr ih =>
    cases hlast : rest.getLast? with
    | none =>
      obtain rfl := List.getLast?_eq_none_iff.1 hlast
      exact one r hr
    | some b =>
      have hb : b = newline := by
        have hwhole := h
        rw [List.getLast?_append, List.getLast?_cons, hlast] at hwhole
        exact Option.some.inj hwhole
      rw [hb] at hlast
      exact more r rest hlast hr (ih hlast)

section
variable {bs : List UInt8} (h : bs.getLast? = some newline)
include h

/-- The lines of a text that ends in a newline, and below them the lines of what stands after it. -/
theorem scanLines_append (rest : List UInt8) : scanLines (bs ++ rest) = scanLines bs ++ scanLines rest := by
  induction bs, h using ended_induction with
  | one r hr =>
    rw [List.append_assoc, List.singleton_append, scanLines_line r rest hr, scanLines_line r [] hr]
    rfl
  | more r tail _ hr ih =>
    rw [List.append_assoc, List.cons_append, scanLines_line r _ hr, scanLines_line r tail hr, ih,
      List.cons_append]

/-- Where each line is ended, no more bytes are accounted than there are. -/
theorem extent_scanLines_le : extent (scanLines bs) ≤ bs.length := by
  induction bs, h using ended_induction with
  | one r hr =>
    have hstrip := length_stripReturn_le r
    rw [scanLines_line r [] hr, extent_cons, List.length_append, List.length_singleton]
    show _ + 1 + 0 ≤ _
    omega
  | more r tail _ hr ih =>
    have hstrip := length_stripReturn_le r
    rw [scanLines_line r tail hr, extent_cons, List.length_append, List.length_cons]
    omega

end

/-- The bytes that a text accounts for, by its lines. -/
def accounted (s : String) : Nat := extent (scanLines (bytes s))

theorem getLast?_bytes {s : String} (h : s.toList.getLast? = some '\n') :
    (bytes s).getLast? = some newline := by
  obtain ⟨cs, hcs⟩ := List.getLast?_eq_some_iff.1 h
  rw [bytes, hcs, encode_append]
  exact List.getLast?_concat

end Text

namespace Line

/-! ## Lines placed below others -/

/-- The line with this many lines and this many bytes before it. -/
def shift (l : Line) (lines bytes : Nat) : Line := ⟨l.number + lines, l.start + bytes, l.text⟩

section
variable (ls ms : List (List UInt8)) {i pos : Nat}

theorem nth_append_left (hi : i < ls.length) : nth (ls ++ ms) i = nth ls i := by
  rw [nth, nth, List.take_append_of_le_length (Nat.le_of_lt hi), List.getElem?_append_left hi]

theorem nth_append_right : nth (ls ++ ms) (ls.length + i) = (nth ms i).shift ls.length (extent ls) := by
  have hget : (ls ++ ms)[ls.length + i]? = ms[i]? := by
    rw [List.getElem?_append_right (Nat.le_add_right _ _), Nat.add_sub_cancel_left]
  rw [nth, nth, shift, List.take_length_add_append, extent_append, hget, Nat.add_comm (extent ls),
    Nat.add_assoc, Nat.add_comm ls.length]

variable {ls ms}

/-- An offset that the lines reach belongs to the same one of them whatever is placed below. -/
theorem Owns.append_left (h : Owns ls i pos) (hne : ls ≠ []) (hpos : pos ≤ extent ls) :
    Owns (ls ++ ms) i pos := by
  have hlen := List.length_pos_iff.2 hne
  have hi : i < ls.length := by
    have := h.lt
    omega
  have htake (j : Nat) (hj : j ≤ ls.length) : (ls ++ ms).take j = ls.take j :=
    List.take_append_of_le_length hj
  refine ⟨?_, ?_, ?_⟩
  · rw [List.length_append]; omega
  · rw [htake i (Nat.le_of_lt hi)]
    exact h.start
  · left
    rw [htake (i + 1) hi]
    rcases h.stop with hstop | hlast
    · exact hstop
    · rw [List.take_of_length_le (by omega)]
      exact hpos

/-- An offset past the start of some lines belongs to the same one of them whatever is placed above. -/
theorem Owns.append_right (h : Owns ms i pos) (hne : ms ≠ []) (hpos : 0 < pos) :
    Owns (ls ++ ms) (ls.length + i) (extent ls + pos) := by
  have hlen := List.length_pos_iff.2 hne
  have hlt := h.lt
  refine ⟨?_, ?_, ?_⟩
  · rw [List.length_append]; omega
  · right
    rw [List.take_length_add_append, extent_append]
    rcases h.start with rfl | hstart
    · rw [List.take_zero, extent_nil]; omega
    · omega
  · rw [Nat.add_assoc, List.take_length_add_append, extent_append, List.length_append]
    have hstop := h.stop
    omega

end

end Line

namespace Location

/-! ## Offsets of both texts -/

section
variable {s t : String} {pos : Nat} (h : (bytes s).getLast? = some newline)
include h

/-- Up to its accounted end the first text owns the offsets of both. -/
theorem find?_append_left (hpos : pos ≤ accounted s) : find? (s ++ t) pos = find? s pos := by
  have hle : accounted s ≤ size s := extent_scanLines_le h
  have hsize := size_append s t
  have hlines : scanLines (bytes (s ++ t)) = scanLines (bytes s) ++ scanLines (bytes t) := by
    rw [bytes_append, scanLines_append h]
  have hne : scanLines (bytes s) ≠ [] := by
    rw [Ne, scanLines_eq_nil_iff]
    intro hnil
    rw [hnil] at h
    cases h
  obtain ⟨i, hi, -⟩ := Line.exists_owns (scanLines (bytes s)) pos
  have hlt : i < (scanLines (bytes s)).length := by
    have hi := hi.lt
    have hpos := List.length_pos_iff.2 hne
    omega
  have hin : pos ≤ size s := by omega
  rw [find?_eq_of_owns hin hi, find?_eq_of_owns (by omega) (hlines ▸ hi.append_left hne hpos), hlines,
    Line.nth_append_left _ _ hlt, List.take_append_of_le_length (Nat.le_of_lt hlt)]

/-- Past it they are offsets of the second text, whose lines are shifted. -/
theorem find?_append_right (h0 : 0 < pos) (hpos : pos ≤ size t) :
    ∃ l, find? t pos = some l ∧ find? (s ++ t) (accounted s + pos) =
      some ⟨l.line.shift (scanLines (bytes s)).length (accounted s), l.column⟩ := by
  have hle : accounted s ≤ size s := extent_scanLines_le h
  have hsize := size_append s t
  have hlines : scanLines (bytes (s ++ t)) = scanLines (bytes s) ++ scanLines (bytes t) := by
    rw [bytes_append, scanLines_append h]
  -- there is a byte in `t`, hence a line
  have hne : scanLines (bytes t) ≠ [] := by
    rw [Ne, scanLines_eq_nil_iff, ← List.length_eq_zero_iff]
    show ¬ size t = 0
    omega
  obtain ⟨i, hi, -⟩ := Line.exists_owns (scanLines (bytes t)) pos
  refine ⟨_, find?_eq_of_owns hpos hi, ?_⟩
  rw [find?_eq_of_owns (by omega) (hlines ▸ hi.append_right hne h0), hlines, Line.nth_append_right,
    List.take_length_add_append, extent_append, accounted, Nat.add_sub_add_left]

end

/-! ## Top theorem -/

/-- **Writing on after a newline** leaves every offset accounted so far where it was, with the same diagnostics;
the offsets past them are those of the added text, with the lines and bytes before it counted in. -/
theorem find?_append (s t : String) (h : s.toList.getLast? = some '\n') :
    (∀ pos, pos ≤ accounted s →
      (∃ l, find? s pos = some l ∧ find? (s ++ t) pos = some l) ∧
      ∀ (settings : Settings) (expected : String),
        Diagnostic.render settings ⟨pos, expected⟩ (s ++ t) =
          Diagnostic.render settings ⟨pos, expected⟩ s) ∧
    ∀ pos, accounted s < pos → pos ≤ accounted s + size t →
      ∃ l, find? t (pos - accounted s) = some l ∧
        find? (s ++ t) pos =
          some ⟨l.line.shift (scanLines (bytes s)).length (accounted s), l.column⟩ := by
  have hend := getLast?_bytes h
  have hle : accounted s ≤ size s := extent_scanLines_le hend
  refine ⟨?_, ?_⟩
  · intro pos hpos
    have hsame : find? (s ++ t) pos = find? s pos := find?_append_left hend hpos
    obtain ⟨l, hl⟩ := exists_find? (Nat.le_trans hpos hle)
    refine ⟨⟨l, hl, hsame.trans hl⟩, ?_⟩
    intro settings expected
    exact Diagnostic.render_congr settings hsame
  · intro pos hlt hpos
    obtain ⟨q, rfl⟩ : ∃ q, pos = accounted s + q := ⟨pos - accounted s, by omega⟩
    rw [Nat.add_sub_cancel_left]
    exact find?_append_right hend (by omega) (by omega)

/-- The first text drops a carriage return, so it accounts for one byte less than it has: offset 2 is the
last of its account, and offset 5 of the whole is offset 3 of the second. -/
theorem find?_append_after_return :
    let s := "a\r\n"
    let t := "b\nc"
    s.toList.getLast? = some '\n' ∧ accounted s = 2 ∧
      (∃ l, find? s 2 = some l ∧ find? (s ++ t) 2 = some l) ∧ 5 ≤ 2 + size t ∧
      find? t 3 = some ⟨⟨2, 2, [0x63]⟩, 1⟩ ∧ find? (s ++ t) 5 = some ⟨⟨3, 4, [0x63]⟩, 1⟩ := by
  intro s t
  have hend : s.toList.getLast? = some '\n' := by decide
  have haccounted : accounted s = 2 := by decide
  have hlines : (scanLines (bytes s)).length = 1 := by decide
  have hsize : 5 ≤ 2 + size t := by decide
  have ht : find? t 3 = some ⟨⟨2, 2, [0x63]⟩, 1⟩ := by decide
  obtain ⟨hfirst, hsecond⟩ := find?_append s t hend
  rw [haccounted] at hfirst hsecond
  obtain ⟨l, hl, hst⟩ := hsecond 5 (by decide) hsize
  obtain rfl := Option.some.inj (hl.symm.trans ht)
  rw [hlines] at hst
  exact ⟨hend, haccounted, (hfirst 2 (Nat.le_refl 2)).1, hsize, ht, hst⟩

end Location

end Caret
