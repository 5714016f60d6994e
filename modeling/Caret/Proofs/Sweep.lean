import Caret.Proofs.Locating

/-!
# Sweeping an offset through a text

`Line.Owns ls i pos` tells by the accounted starts alone that the offset `pos` belongs to the line with
index `i`.  There is one such line for each offset (`Owns.unique`), and the search finds it (`owner_eq`).

One byte further the offset stays in its line, or it comes to the first column of the next one
(`Owns.step`, and `Location.find?_succ` for the locations).  Two facts about a whole sweep follow by
induction on the offset:

* `Owns.visited`: the sweep comes through every line up to the one it has reached.
* `Location.find?_mono`: the numbers of the lines and their starts never go down.

The last offset of a text belongs to its last line (`owns_length`), so a sweep to the end visits all of
them, once and in order (`Location.find?_sweep`).
-/

namespace Caret

open Text

namespace Line

/-! ## The line that owns an offset -/

/-- The offset belongs to the line with index `i`: it lies past the line's start, unless no line stands
before, and not past its end, unless no line stands behind. -/
structure Owns (ls : List (List UInt8)) (i pos : Nat) : Prop where
  lt : i < max 1 ls.length
  start : i = 0 ∨ extent (ls.take i) < pos
  stop : pos ≤ extent (ls.take (i + 1)) ∨ i + 1 = max 1 ls.length

theorem owns_zero (ls : List (List UInt8)) : Owns ls 0 0 := by
  refine ⟨?_, Or.inl rfl, Or.inl (Nat.zero_le _)⟩
  omega

theorem exists_owns (ls : List (List UInt8)) (pos : Nat) :
    ∃ i, Owns ls i pos ∧ owner (place 1 0 ls) pos = nth ls i := by
  obtain ⟨i, hi, ho, h1, h2⟩ := owner_place ls pos
  exact ⟨i, ⟨hi, h1, h2⟩, ho⟩

section
variable {ls : List (List UInt8)} {i j p q pos : Nat}

theorem Owns.extent_le (h : Owns ls i pos) : extent (ls.take i) ≤ pos := by
  rcases h.start with rfl | hlt
  · rw [List.take_zero, extent_nil]
    exact Nat.zero_le pos
  · omega

/-- Offsets belong to lines in order. -/
theorem Owns.le_of_le (hi : Owns ls i p) (hj : Owns ls j q) (hpq : p ≤ q) : i ≤ j := by
  rcases Nat.lt_or_ge j i with hlt | hge
  · -- the end of line `j` is at or before the start of line `i`
    have hlen := hi.lt
    have hends := extent_take_add_le ls (j + 1) i hlt (by omega)
    have hstart := hi.start
    have hstop := hj.stop
    omega
  · exact hge

theorem Owns.unique (hi : Owns ls i pos) (hj : Owns ls j pos) : i = j :=
  Nat.le_antisymm (hi.le_of_le hj (Nat.le_refl pos)) (hj.le_of_le hi (Nat.le_refl pos))

theorem owner_eq (h : Owns ls i pos) : owner (place 1 0 ls) pos = nth ls i := by
  obtain ⟨j, hj, ho⟩ := exists_owns ls pos
  rw [ho, hj.unique h]

/-! ## One byte further -/

/-- The next offset belongs to the same line; or this one is the end of the line, and the next offset
belongs to the line below. -/
theorem Owns.step (h : Owns ls i pos) :
    Owns ls i (pos + 1) ∨ Owns ls (i + 1) (pos + 1) ∧ pos = extent (ls.take (i + 1)) := by
  have hle := h.extent_le
  by_cases hstay : pos + 1 ≤ extent (ls.take (i + 1)) ∨ i + 1 = max 1 ls.length
  · left
    exact ⟨h.lt, Or.inr (by omega), hstay⟩
  · have hlt := h.lt
    have hstop := h.stop
    have hbelow : i + 1 < ls.length := by omega
    have hnext := extent_take_add_le ls (i + 1) (i + 1 + 1) (by omega) hbelow
    right
    refine ⟨⟨?_, ?_, ?_⟩, ?_⟩
    · omega
    · omega
    · left; omega
    · omega

/-- A sweep comes through every line up to that of the offset it has reached. -/
theorem Owns.visited (h : Owns ls i pos) (hj : j ≤ i) : ∃ p, p ≤ pos ∧ Owns ls j p := by
  induction pos generalizing i with
  | zero =>
    obtain rfl := h.unique (owns_zero ls)
    obtain rfl : j = 0 := Nat.le_zero.1 hj
    exact ⟨0, Nat.le_refl 0, h⟩
  | succ pos ih =>
    obtain ⟨i', hi', -⟩ := exists_owns ls pos
    by_cases hle : j ≤ i'
    · obtain ⟨p, hp, ho⟩ := ih hi' hle
      exact ⟨p, Nat.le_succ_of_le hp, ho⟩
    · -- the line has just been reached
      rcases hi'.step with hs | ⟨hs, -⟩
      · obtain rfl := h.unique hs
        exact absurd hj hle
      · obtain rfl := h.unique hs
        obtain rfl : j = i' + 1 := by omega
        exact ⟨pos + 1, Nat.le_refl _, h⟩

/-- The last line owns all that comes after an offset of its own. -/
theorem Owns.of_last (h : Owns ls i p) (hpq : p ≤ q) (hi : i + 1 = max 1 ls.length) : Owns ls i q := by
  refine ⟨h.lt, ?_, Or.inr hi⟩
  rcases h.start with h0 | hlt
  · exact Or.inl h0
  · right; omega

end

/-- The end of a text belongs to its last line. -/
theorem owns_length (bs : List UInt8) :
    Owns (scanLines bs) (max 1 (scanLines bs).length - 1) bs.length := by
  refine ⟨?_, ?_, ?_⟩
  · omega
  · by_cases hk : 1 < (scanLines bs).length
    · right
      exact extent_take_lt_length _ bs (by omega)
    · left; omega
  · right; omega

end Line

namespace Location

open Line (Owns)

/-! ## Locations, one after the other -/

theorem find?_eq_of_owns {source : String} {pos i : Nat} (h : pos ≤ size source)
    (hi : Owns (scanLines (bytes source)) i pos) :
    find? source pos =
      some ⟨Line.nth (scanLines (bytes source)) i, pos - extent ((scanLines (bytes source)).take i)⟩ := by
  rw [find?, if_neg (by omega), Line.ofText, Line.owner_eq hi]
  rfl

/-- What one byte further means for a location: it goes on by one column in its line, or to the first
column of the line below, which starts where its own stops. -/
inductive Follows : Location → Location → Prop
  | stays (line : Line) (column : Nat) : Follows ⟨line, column⟩ ⟨line, column + 1⟩
  | advances (line below : Line) (column : Nat) :
      below.number = line.number + 1 → below.start = line.stop → Follows ⟨line, column⟩ ⟨below, 1⟩

theorem Follows.number_le {l l' : Location} (h : Follows l l') : l.line.number ≤ l'.line.number := by
  cases h with
  | stays => exact Nat.le_refl _
  | advances line below column hn hs => show line.number ≤ below.number; omega

theorem Follows.start_le {l l' : Location} (h : Follows l l') : l.line.start ≤ l'.line.start := by
  cases h with
  | stays => exact Nat.le_refl _
  | advances line below column hn hs =>
    show line.start ≤ below.start
    unfold Line.stop at hs
    omega

theorem find?_succ {source : String} {pos : Nat} (h : pos < size source) :
    ∃ l l', find? source pos = some l ∧ find? source (pos + 1) = some l' ∧ Follows l l' := by
  obtain ⟨i, hi, -⟩ := Line.exists_owns (scanLines (bytes source)) pos
  have hl := find?_eq_of_owns (Nat.le_of_lt h) hi
  rcases hi.step with hs | ⟨hs, he⟩
  · refine ⟨_, _, hl, find?_eq_of_owns h hs, ?_⟩
    rw [Nat.sub_add_comm hi.extent_le]
    exact Follows.stays _ _
  · have hlt := hs.lt
    refine ⟨_, _, hl, find?_eq_of_owns h hs, ?_⟩
    rw [← he, Nat.add_sub_cancel_left]
    apply Follows.advances
    · rfl
    · rw [Line.stop_nth _ i (by omega)]
      rfl

/-- Along a sweep the lines never go back. -/
theorem find?_mono {source : String} {p q : Nat} {l l' : Location} (hpq : p ≤ q)
    (hl : find? source p = some l) (hl' : find? source q = some l') :
    l.line.number ≤ l'.line.number ∧ l.line.start ≤ l'.line.start := by
  induction q, hpq using Nat.le_induction generalizing l' with
  | base =>
    obtain rfl := Option.some.inj (hl.symm.trans hl')
    exact ⟨Nat.le_refl _, Nat.le_refl _⟩
  | succ q hpq ih =>
    obtain ⟨m, m', hm, hm', hf⟩ := find?_succ (le_size_of_find? hl')
    obtain rfl := Option.some.inj (hl'.symm.trans hm')
    obtain ⟨hn, hs⟩ := ih hm
    exact ⟨Nat.le_trans hn hf.number_le, Nat.le_trans hs hf.start_le⟩

/-! ## Top theorem -/

/-- **A sweep visits every line, once and in order.** -/
theorem find?_sweep (source : String) :
    (∃ l, find? source 0 = some l ∧ l.line.number = 1) ∧
    (∃ l, find? source (size source) = some l ∧
      l.line.number = max (scanLines (bytes source)).length 1) ∧
    (∀ pos, pos < size source →
      ∃ l l', find? source pos = some l ∧ find? source (pos + 1) = some l' ∧
        (l'.line.number = l.line.number ∧ l'.line.start = l.line.start ∧ l'.line.text = l.line.text ∧
            l'.column = l.column + 1 ∨
          l'.line.number = l.line.number + 1 ∧ l'.line.start = l.line.stop ∧ l'.column = 1)) ∧
    (∀ p q l l', p ≤ q → find? source p = some l → find? source q = some l' →
      l.line.number ≤ l'.line.number ∧ l.line.start ≤ l'.line.start) ∧
    ∀ i text, (scanLines (bytes source))[i]? = some text →
      ∃ pos l, pos ≤ size source ∧ find? source pos = some l ∧
        l.line = ⟨i + 1, extent ((scanLines (bytes source)).take i), text⟩ := by
  have hend := Line.owns_length (bytes source)
  refine ⟨?_, ?_, ?_, ?_, ?_⟩
  · exact ⟨_, find?_eq_of_owns (Nat.zero_le _) (Line.owns_zero _), rfl⟩
  · refine ⟨_, find?_eq_of_owns (Nat.le_refl _) hend, ?_⟩
    show max 1 _ - 1 + 1 = _
    omega
  · intro pos h
    obtain ⟨l, l', hl, hl', hf⟩ := find?_succ h
    refine ⟨l, l', hl, hl', ?_⟩
    cases hf with
    | stays => exact Or.inl ⟨rfl, rfl, rfl, rfl⟩
    | advances line below column hn hs => exact Or.inr ⟨hn, hs, rfl⟩
  · intro p q l l' hpq hl hl'
    exact find?_mono hpq hl hl'
  · intro i text hi
    obtain ⟨hlt, -⟩ := List.getElem?_eq_some_iff.1 hi
    obtain ⟨pos, hpos, ho⟩ := hend.visited (j := i) (by omega)
    refine ⟨pos, _, hpos, find?_eq_of_owns hpos ho, ?_⟩
    rw [Line.nth, hi]
    rfl

/-- From the end of an empty line the sweep goes on to the first column of the line below, and so it comes to
the last line; a carriage return was dropped before both. -/
theorem find?_sweep_empty_line :
    let source := "a\r\n\nb"
    3 < size source ∧
      (∃ l l', find? source 3 = some l ∧ find? source 4 = some l' ∧
        l'.line.number = l.line.number + 1 ∧ l'.line.start = l.line.stop ∧ l'.column = 1) ∧
      (scanLines (bytes source))[2]? = some [0x62] ∧
      ∃ pos l, pos ≤ size source ∧ find? source pos = some l ∧ l.line = ⟨3, 3, [0x62]⟩ := by
  intro source
  obtain ⟨-, -, hstep, -, hvisit⟩ := find?_sweep source
  have h3 : 3 < size source := by decide
  have hlast : (scanLines (bytes source))[2]? = some [0x62] := by decide
  refine ⟨h3, ?_, hlast, ?_⟩
  · obtain ⟨l, l', hl, hl', hstay | hgo⟩ := hstep 3 h3
    · have h2 : find? source 3 = some ⟨⟨2, 2, []⟩, 1⟩ := by decide
      have h4 : find? source 4 = some ⟨⟨3, 3, [0x62]⟩, 1⟩ := by decide
      obtain rfl := Option.some.inj (hl.symm.trans h2)
      obtain rfl := Option.some.inj (hl'.symm.trans h4)
      exact absurd hstay.1 (by decide)
    · exact ⟨l, l', hl, hl', hgo⟩
  · obtain ⟨pos, l, hpos, hl, hline⟩ := hvisit 2 _ hlast
    refine ⟨pos, l, hpos, hl, ?_⟩
    rw [hline]
    decide

end Location

end Caret
