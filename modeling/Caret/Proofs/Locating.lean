import Caret.Proofs.LineStarts
import Caret.Proofs.Utf8

/-!
# The line an offset belongs to

`owner_place` says what the search for a line finds: the line whose accounted start lies before the offset
and whose end does not, or the last line.  `find?_eq` says it of an offset in a text.  With the
accounts of `LineStarts` it bounds the number of the line found (`find?_number`) and ties its four
fields to the bytes of the text (`find?_account`).  A byte of the line stands in the text at its own index
past the line's true start (`getElem?_text`).
-/

namespace Caret

open Text

namespace Line

/-! ## The search -/

/-- The line with index `i`, placed after those before it; an empty line where there is none. -/
def nth (ls : List (List UInt8)) (i : Nat) : Line := ⟨i + 1, extent (ls.take i), ls[i]?.getD []⟩

theorem getElem?_place (number start : Nat) (ls : List (List UInt8)) (i : Nat) :
    (place number start ls)[i]? =
      ls[i]?.map fun l => ⟨number + i, start + extent (ls.take i), l⟩ := by
  induction ls generalizing number start i with
  | nil => rfl
  | cons l ls ih =>
    cases i with
    | zero => simp [place]
    | succ i =>
      rw [place, List.getElem?_cons_succ, List.getElem?_cons_succ, ih, List.take_succ_cons, extent_cons]
      simp only [Nat.add_assoc, Nat.add_comm 1]

theorem length_place (number start : Nat) (ls : List (List UInt8)) :
    (place number start ls).length = ls.length := by
  induction ls generalizing number start with
  | nil => rfl
  | cons l ls ih => rw [place, List.length_cons, List.length_cons, ih]

section
variable (ls : List (List UInt8)) (pos i : Nat)

theorem getElem?_place_one (hi : i < ls.length) : (place 1 0 ls)[i]? = some (nth ls i) := by
  rw [getElem?_place, nth, List.getElem?_eq_getElem hi, Nat.add_comm 1, Nat.zero_add]
  rfl

theorem stop_nth (hi : i < ls.length) : (nth ls i).stop = extent (ls.take (i + 1)) := by
  rw [List.take_add_one, extent_append, stop, nth, List.getElem?_eq_getElem hi]
  simp only [Option.getD_some, Option.toList_some, extent_cons, extent_nil]
  omega

theorem covers_nth_iff (hi : i < ls.length) :
    (nth ls i).covers pos = true ↔ extent (ls.take i) ≤ pos ∧ pos ≤ extent (ls.take (i + 1)) := by
  rw [← stop_nth ls i hi, covers, Bool.and_eq_true, decide_eq_true_eq, decide_eq_true_eq]
  rfl

/-- Where no line before `i` reaches the offset, all of them end before it. -/
theorem extent_take_lt (hi : i ≤ ls.length) (h : ∀ j, j < i → ¬ (nth ls j).covers pos = true) :
    i = 0 ∨ extent (ls.take i) < pos := by
  induction i with
  | zero => exact Or.inl rfl
  | succ i ih =>
    have hs : extent (ls.take i) ≤ pos := by
      rcases ih (by omega) fun j hj => h j (by omega) with rfl | hlt
      · exact Nat.zero_le pos
      · omega
    have hn := h i (Nat.lt_succ_self i)
    rw [covers_nth_iff ls pos i hi] at hn
    right
    omega

/-- What the search finds among the placed lines. -/
theorem owner_place :
    ∃ i, i < max 1 ls.length ∧ owner (place 1 0 ls) pos = nth ls i ∧
      (i = 0 ∨ extent (ls.take i) < pos) ∧
      (pos ≤ extent (ls.take (i + 1)) ∨ i + 1 = max 1 ls.length) := by
  cases hf : (place 1 0 ls).find? (·.covers pos) with
  | some l =>
    obtain ⟨hc, i, hi, he, hb⟩ := List.find?_eq_some_iff_getElem.1 hf
    have hnth {j : Nat} (hj : j < (place 1 0 ls).length) : (place 1 0 ls)[j] = nth ls j := by
      apply Option.some.inj
      rw [← List.getElem?_eq_getElem, getElem?_place_one ls j (by rwa [length_place] at hj)]
    obtain rfl : nth ls i = l := by rw [← he, hnth hi]
    rw [length_place] at hi
    refine ⟨i, by omega, by rw [owner, hf], ?_, ?_⟩
    · apply extent_take_lt ls pos i (by omega)
      intro j hj
      have := hb j hj
      rw [hnth (by rw [length_place]; omega)] at this
      simpa using this
    · exact Or.inl ((covers_nth_iff ls pos i hi).1 hc).2
  | none =>
    -- no line reaches the offset: the last one is taken
    have hn (j : Nat) (hj : j < ls.length) : ¬ (nth ls j).covers pos = true :=
      List.find?_eq_none.1 hf _ (List.mem_of_getElem? (getElem?_place_one ls j hj))
    rcases Nat.eq_zero_or_pos ls.length with h0 | h0
    · obtain rfl := List.eq_nil_of_length_eq_zero h0
      exact ⟨0, by decide, rfl, Or.inl rfl, Or.inr rfl⟩
    · refine ⟨ls.length - 1, by omega, ?_, ?_, Or.inr (by omega)⟩
      · rw [owner, hf]
        simp only []
        rw [List.getLast?_eq_getElem?, length_place, getElem?_place_one ls _ (by omega)]
        rfl
      · apply extent_take_lt ls pos _ (by omega)
        intro j hj
        exact hn j (by omega)

end

end Line

namespace Location

/-! ## An offset in a text -/

theorem find?_eq_none_iff (source : String) (pos : Nat) :
    find? source pos = none ↔ size source < pos := by
  unfold find?
  split <;> simp [*]

theorem le_size_of_find? {source : String} {pos : Nat} {l : Location} (h : find? source pos = some l) :
    pos ≤ size source := by
  have := mt (find?_eq_none_iff source pos).2 (by rw [h]; exact Option.some_ne_none l)
  omega

/-- What is found at an offset in a text. -/
theorem find?_eq (source : String) (pos : Nat) (h : pos ≤ size source) :
    let ls := scanLines (bytes source)
    ∃ i, i < max 1 ls.length ∧
      find? source pos = some ⟨Line.nth ls i, pos - extent (ls.take i)⟩ ∧
      (i = 0 ∨ extent (ls.take i) < pos) ∧
      (pos ≤ extent (ls.take (i + 1)) ∨ i + 1 = max 1 ls.length) := by
  obtain ⟨i, hi, ho, h1, h2⟩ := Line.owner_place (scanLines (bytes source)) pos
  refine ⟨i, hi, ?_, h1, h2⟩
  rw [find?, if_neg (by omega), Line.ofText, ho]
  rfl

end Location

namespace Text

/-! ## The line before an offset -/

/-- The number of the line that holds the byte before an offset; 1 at the start of the text. -/
def lineBefore (bs : List UInt8) (pos : Nat) : Nat := 1 + (bs.take (max pos 1 - 1)).count newline

theorem lineBefore_start (bs : List UInt8) (pos : Nat) (h0 : 0 < pos) (h : pos ≤ bs.length) :
    lineStart (lineBefore bs pos - 1) bs < pos ∧ pos ≤ lineStart (lineBefore bs pos) bs := by
  have h1 : max pos 1 - 1 = pos - 1 := by omega
  have hle := (lineStart_le_iff (lineBefore bs pos - 1) (pos - 1) bs (by omega)).2
    (by rw [lineBefore, h1, Nat.add_sub_cancel_left])
  have hlt := mt (lineStart_le_iff (lineBefore bs pos) (pos - 1) bs (by omega)).1
    (by rw [lineBefore, h1]; omega)
  omega

theorem lineBefore_le (bs : List UInt8) (pos n : Nat) (h : pos ≤ bs.length)
    (hn : pos ≤ lineStart (n + 1) bs) : lineBefore bs pos ≤ n + 1 := by
  rcases Nat.eq_zero_or_pos pos with rfl | h0
  · simp [lineBefore]
  · have := mt (lineStart_le_iff (n + 1) (pos - 1) bs (by omega)).2 (by omega)
    rw [lineBefore, show max pos 1 - 1 = pos - 1 by omega]
    omega

/-- An offset lies at or before the true end of a line whose accounted end it does not pass. -/
theorem le_lineStart_succ (bs : List UInt8) (pos i : Nat) (h : pos ≤ bs.length)
    (hi : pos ≤ extent ((scanLines bs).take (i + 1)) ∨ i + 1 = max 1 (scanLines bs).length) :
    pos ≤ lineStart (i + 1) bs := by
  by_cases hk : (scanLines bs).length ≤ i + 1
  · rw [lineStart_eq_length (i + 1) bs hk]
    exact h
  · have := length_scanLines_le bs
    have := extent_add_returnPairs (i + 1) bs (by omega)
    omega

/-- A line found late is late by no more than the pairs up to the end of the true line: each of them
moved the accounted starts by one byte, and a line takes one byte at least. -/
theorem succ_le_lineBefore_add (bs : List UInt8) (pos i : Nat) (h : pos ≤ bs.length)
    (hi : i < max 1 (scanLines bs).length)
    (hlt : i = 0 ∨ extent ((scanLines bs).take i) < pos) :
    i + 1 ≤ lineBefore bs pos + returnPairs (bs.take (lineStart (lineBefore bs pos) bs)) := by
  have h1 : 1 ≤ lineBefore bs pos := Nat.le_add_right 1 _
  by_cases hL : i + 1 ≤ lineBefore bs pos
  · omega
  · rcases hlt with rfl | hlt
    · omega
    · have hk := length_scanLines_le bs
      have hend := (lineBefore_start bs pos (by omega) h).2
      have hacc := extent_add_returnPairs (lineBefore bs pos) bs (by omega)
      have hone := extent_take_add_le (scanLines bs) (lineBefore bs pos) i (by omega) (by omega)
      omega

/-- A scanned line, with no line at all read as an empty one. -/
theorem getD_scanLines (bs : List UInt8) (i : Nat) (hi : i < max 1 (scanLines bs).length) :
    (scanLines bs)[i]?.getD [] =
      stripReturn ((bs.drop (lineStart i bs)).takeWhile (· != newline)) := by
  by_cases hk : i < (scanLines bs).length
  · rw [getElem?_scanLines i bs hk, Option.getD_some]
  · have hb : rawLines bs = [] := by
      rw [length_scanLines] at hi hk
      exact List.eq_nil_of_length_eq_zero (by omega)
    rw [rawLines_eq_nil_iff] at hb
    obtain rfl : i = 0 := by omega
    rw [hb]
    rfl

/-! ## Scanned lines -/

/-- At most one carriage return is dropped, and none is left behind unless there were two. -/
theorem eq_stripReturn_or (r : List UInt8) :
    r = stripReturn r ++ [carriageReturn] ∨ r = stripReturn r ∧ r.getLast? ≠ some carriageReturn := by
  unfold stripReturn
  split
  · next h =>
    obtain ⟨s, rfl⟩ := List.getLast?_eq_some_iff.1 h
    left
    rw [List.dropLast_concat]
  · next h => exact Or.inr ⟨rfl, h⟩

theorem newline_notMem_stripReturn {r : List UInt8} (hr : newline ∉ r) : newline ∉ stripReturn r := by
  unfold stripReturn
  split
  · intro hm
    exact hr (List.dropLast_subset _ hm)
  · exact hr

theorem newline_notMem_of_mem_scanLines {bs l : List UInt8} (h : l ∈ scanLines bs) : newline ∉ l := by
  obtain ⟨r, hr, rfl⟩ := List.mem_map.1 h
  exact newline_notMem_stripReturn (newline_notMem_of_mem_rawLines hr)

theorem isText_of_mem_rawLines {bs l : List UInt8} (hb : IsText bs) (h : l ∈ rawLines bs) : IsText l := by
  induction bs using lines_induction with
  | last r hr =>
    rw [rawLines_last r hr] at h
    split at h
    · cases h
    · rw [List.mem_singleton.1 h]; exact hb
  | line r rest hr ih =>
    obtain ⟨h1, h2⟩ := hb.of_append_cons (by decide)
    rw [rawLines_line r rest hr] at h
    rcases List.mem_cons.1 h with rfl | h
    · exact h1
    · exact ih h2 h

/-- The scanned lines of a text are texts. -/
theorem isText_of_mem_scanLines {bs l : List UInt8} (hb : IsText bs) (h : l ∈ scanLines bs) :
    IsText l := by
  obtain ⟨r, hr, rfl⟩ := List.mem_map.1 h
  have ht := isText_of_mem_rawLines hb hr
  rcases eq_stripReturn_or r with he | ⟨he, -⟩
  · rw [he] at ht
    exact (ht.of_append_cons (by decide)).1
  · rwa [← he]

end Text

namespace Location

/-- The text of a located line is a scanned line, or empty where there is none. -/
theorem text_eq_nil_or_mem {source : String} {pos : Nat} {l : Location} (h : find? source pos = some l) :
    l.line.text = [] ∨ l.line.text ∈ scanLines (bytes source) := by
  obtain ⟨i, -, hf, -⟩ := find?_eq source pos (le_size_of_find? h)
  rw [Option.some.inj (h.symm.trans hf)]
  show (scanLines (bytes source))[i]?.getD [] = [] ∨ _
  cases hs : (scanLines (bytes source))[i]? with
  | none => exact Or.inl rfl
  | some t => exact Or.inr (List.mem_of_getElem? (hs.trans (by rw [Line.nth, hs]; rfl)))

theorem newline_notMem_text {source : String} {pos : Nat} {l : Location}
    (h : find? source pos = some l) : newline ∉ l.line.text := by
  rcases text_eq_nil_or_mem h with he | hm
  · rw [he]; exact List.not_mem_nil
  · exact newline_notMem_of_mem_scanLines hm

theorem isText_text {source : String} {pos : Nat} {l : Location} (h : find? source pos = some l) :
    IsText l.line.text := by
  rcases text_eq_nil_or_mem h with he | hm
  · exact ⟨[], he.symm⟩
  · exact isText_of_mem_scanLines (isText_bytes source) hm

/-! ## A located line in its text -/

theorem exists_find? {source : String} {pos : Nat} (h : pos ≤ size source) :
    ∃ l, find? source pos = some l := by
  apply Option.ne_none_iff_exists'.1
  rw [Ne, find?_eq_none_iff]
  omega

/-- Where the line starts in the text, as newlines tell. -/
def trueStart (source : String) (l : Location) : Nat := lineStart (l.line.number - 1) (bytes source)

/-- The carriage returns that were dropped before the line. -/
def drift (source : String) (l : Location) : Nat :=
  returnPairs ((bytes source).take (l.trueStart source))

section
variable {source : String} {pos : Nat} {l : Location} (h : find? source pos = some l)
include h

theorem start_add_column : l.line.start + l.column = pos := by
  obtain ⟨i, -, hf, hlt, -⟩ := find?_eq source pos (le_size_of_find? h)
  obtain rfl := Option.some.inj (h.symm.trans hf)
  show extent _ + (pos - extent _) = pos
  rcases hlt with rfl | hlt
  · simp
  · omega

theorem start_add_drift : l.line.start + l.drift source = l.trueStart source := by
  obtain ⟨i, hi, hf, -⟩ := find?_eq source pos (le_size_of_find? h)
  obtain rfl := Option.some.inj (h.symm.trans hf)
  have hk := length_scanLines_le (bytes source)
  exact extent_add_returnPairs i (bytes source) (by omega)

/-- The line is the first part of what stands in the text from its true start. -/
theorem text_append : ∃ t, (bytes source).drop (l.trueStart source) = l.line.text ++ t := by
  obtain ⟨i, hi, hf, -⟩ := find?_eq source pos (le_size_of_find? h)
  obtain rfl := Option.some.inj (h.symm.trans hf)
  have htext : (Line.nth (scanLines (bytes source)) i).text = _ := getD_scanLines (bytes source) i hi
  have hsplit := List.takeWhile_append_dropWhile
    (p := (· != newline)) (l := (bytes source).drop (lineStart i (bytes source)))
  generalize List.takeWhile (· != newline) _ = raw at htext hsplit
  generalize List.dropWhile (· != newline) _ = after at hsplit
  show ∃ t, (bytes source).drop (lineStart i (bytes source)) = _ ++ t
  rw [htext, ← hsplit]
  rcases eq_stripReturn_or raw with hr | ⟨hr, -⟩
  · refine ⟨[carriageReturn] ++ after, ?_⟩
    rw [← List.append_assoc, ← hr]
  · refine ⟨after, ?_⟩
    rw [← hr]

theorem getElem?_text (i : Nat) (hi : i < l.line.text.length) :
    l.line.text[i]? = (bytes source)[l.trueStart source + i]? := by
  obtain ⟨t, ht⟩ := text_append h
  rw [← List.getElem?_drop, ht, List.getElem?_append_left hi]

end

/-- In a text of one line every offset is its own column. -/
theorem find?_one_line (cs : List Char) (pos : Nat) (hpos : pos ≤ (encode cs).length)
    (hn : newline ∉ encode cs) (hr : (encode cs).getLast? ≠ some carriageReturn) :
    find? (String.ofList cs) pos = some ⟨⟨1, 0, encode cs⟩, pos⟩ := by
  rw [find?, size, Line.ofText, bytes_ofList, if_neg (Nat.not_lt.2 hpos), scanLines, rawLines_last _ hn]
  by_cases he : encode cs = []
  · rw [if_pos he, he]
    rfl
  · have hcovers : (⟨1, 0, encode cs⟩ : Line).covers pos = true := by
      rw [Line.covers, Line.stop, Bool.and_eq_true, decide_eq_true_eq, decide_eq_true_eq]
      simp only []
      omega
    rw [if_neg he, List.map_singleton, stripReturn, if_neg hr, Line.place, Line.owner, List.find?_cons,
      hcovers]
    rfl

/-! ## Top theorems -/

/-- **The number of the line found** is that of the line before the offset, or larger by no more than
the carriage returns dropped up to the end of that line. -/
theorem find?_number (source : String) (pos : Nat) :
    (find? source pos = none ↔ size source < pos) ∧
    ∀ l, find? source pos = some l →
      let bs := bytes source
      let L := lineBefore bs pos
      let d := returnPairs (bs.take (lineStart L bs))
      L ≤ l.line.number ∧ l.line.number ≤ max 1 (min (scanLines bs).length (L + d)) ∧
      (returnPairs bs = 0 → l.line.number = L) ∧
      (pos = 0 → L = 1) ∧
      (0 < pos → lineStart (L - 1) bs < pos ∧ pos ≤ lineStart L bs) := by
  refine ⟨find?_eq_none_iff source pos, ?_⟩
  intro l hl
  have hpos := le_size_of_find? hl
  obtain ⟨i, hi, hf, h1, h2⟩ := find?_eq source pos hpos
  obtain rfl := Option.some.inj (hl.symm.trans hf)
  have hlow := lineBefore_le (bytes source) pos i hpos (le_lineStart_succ _ pos i hpos h2)
  have hup := succ_le_lineBefore_add (bytes source) pos i hpos hi h1
  refine ⟨hlow, ?_, ?_, ?_, ?_⟩
  · show i + 1 ≤ _
    omega
  · intro h0
    have := returnPairs_take_le (lineStart (lineBefore (bytes source) pos) (bytes source)) (bytes source)
    show i + 1 = _
    omega
  · intro h0
    simp [h0, lineBefore]
  · intro h0
    exact lineBefore_start _ pos h0 hpos

/-- Line 2 holds the byte before offset 5, but two carriage returns are dropped up to its end: the line
found is line 3. -/
theorem find?_number_late :
    find? "a\r\nb\r\nc" 5 = some ⟨⟨3, 4, [0x63]⟩, 1⟩ ∧
      let bs := bytes "a\r\nb\r\nc"
      lineBefore bs 5 = 2 ∧ returnPairs (bs.take (lineStart 2 bs)) = 2 ∧
      lineBefore bs 5 ≤ 3 ∧
      3 ≤ max 1 (min (scanLines bs).length
        (lineBefore bs 5 + returnPairs (bs.take (lineStart (lineBefore bs 5) bs)))) := by
  have h : find? "a\r\nb\r\nc" 5 = some ⟨⟨3, 4, [0x63]⟩, 1⟩ := by decide
  obtain ⟨h1, h2, -⟩ := (find?_number "a\r\nb\r\nc" 5).2 _ h
  exact ⟨h, by decide, by decide, h1, h2⟩

/-- **The fields of a located line**, tied to the bytes of the text. -/
theorem find?_account (source : String) (pos : Nat) (h : pos ≤ size source) :
    ∃ l, find? source pos = some l ∧
      let bs := bytes source
      let n := l.line.number
      let T := lineStart (n - 1) bs
      let raw := (bs.drop T).takeWhile (· != newline)
      (n = 1 ∧ T = 0 ∨ ∃ pre, bs.take T = pre ++ [newline] ∧ pre.count newline + 2 = n) ∧
      l.line.start + returnPairs (bs.take T) = T ∧
      (raw = l.line.text ++ [carriageReturn] ∨
        raw = l.line.text ∧ raw.getLast? ≠ some carriageReturn) ∧
      IsText l.line.text ∧ newline ∉ l.line.text ∧
      l.line.start + l.column = pos ∧
      (pos ≤ l.line.stop ∨ n = (scanLines bs).length) := by
  obtain ⟨i, hi, hf, h1, h2⟩ := find?_eq source pos h
  have hk := length_scanLines_le (bytes source)
  have hacc := extent_add_returnPairs i (bytes source) (by omega)
  have htext := getD_scanLines (bytes source) i hi
  refine ⟨_, hf, ?_, hacc, ?_, isText_text hf, newline_notMem_text hf, ?_, ?_⟩
  · cases i with
    | zero => exact Or.inl ⟨rfl, lineStart_zero _⟩
    | succ i =>
      obtain ⟨pre, h3, h4⟩ := take_lineStart_succ i (bytes source) (by omega)
      exact Or.inr ⟨pre, h3, by rw [h4]; rfl⟩
  · show _ = (scanLines (bytes source))[i]?.getD [] ++ _ ∨ _ = (scanLines (bytes source))[i]?.getD [] ∧ _
    rw [htext]
    exact eq_stripReturn_or _
  · show extent _ + (pos - extent _) = pos
    rcases h1 with rfl | h1
    · simp
    · omega
  · rcases Nat.lt_or_ge i (scanLines (bytes source)).length with hlt | hge
    · show pos ≤ (Line.nth _ i).stop ∨ i + 1 = _
      rw [Line.stop_nth _ i hlt]
      omega
    · -- no line at all: the text is empty
      have hb : bytes source = [] := by
        rw [← rawLines_eq_nil_iff]
        rw [length_scanLines] at hi hge
        exact List.eq_nil_of_length_eq_zero (by omega)
      have : size source = 0 := by rw [size, hb]; rfl
      exact Or.inl (by omega)

/-- An offset past the accounted end of the last line: two dropped carriage returns lie before it. -/
theorem find?_account_exhausted :
    6 ≤ size "a\r\nb\r\n" ∧ ∃ l, find? "a\r\nb\r\n" 6 = some l ∧ l.line = ⟨2, 2, [0x62]⟩ ∧
      l.line.start + returnPairs ((bytes "a\r\nb\r\n").take 3) = 3 ∧ l.line.start + l.column = 6 := by
  have h6 : 6 ≤ size "a\r\nb\r\n" := by decide
  obtain ⟨l, hl, -, h1, -, -, -, h2, -⟩ := find?_account "a\r\nb\r\n" 6 h6
  have hline : l.line = ⟨2, 2, [0x62]⟩ := by
    have : find? "a\r\nb\r\n" 6 = some ⟨⟨2, 2, [0x62]⟩, 4⟩ := by decide
    rw [Option.some.inj (hl.symm.trans this)]
  rw [hline] at h1
  exact ⟨h6, l, hl, hline, by rw [hline]; exact h1, h2⟩

end Location

end Caret
