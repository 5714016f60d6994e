import Caret.Proofs.CutText
import Caret.Proofs.Locating
import Caret.Window

/-!
# The line a window shows

Each byte of the line shown is a dot or the byte of the located line at its place (`getElem?_line`).  So
the bytes of the line from `keptFrom` to `keptTo` are shown as they are, and dots stand for the rest on
each side that was cut (`line_eq`); where nothing is kept there are dots only (`line_eq_dots`).  The bytes
kept read as `CutText` says: a cut damages no character but those it goes through (`decode_line`).
-/

namespace Caret

open Text

namespace Window

section
variable (s : Settings) (l : Location)

/-- What is left of the line once its start is left out. -/
def rest : List UInt8 := l.line.text.drop (s.cut l.column)

/-- Whether the start of the line is left out. -/
def IsCutLeft : Prop := s.rightMargin < l.column

/-- Whether what is left of the line still loses its end. -/
def IsCutRight : Prop := s.maxWidth < (rest s l).length

instance : Decidable (IsCutLeft s l) := inferInstanceAs (Decidable (_ < _))

instance : Decidable (IsCutRight s l) := inferInstanceAs (Decidable (_ < _))

/-- The dots for what is left out at the start. -/
def leftDots : Nat := if IsCutLeft s l then dotCount else 0

/-- The dots for what is left out at the end. -/
def rightDots : Nat := if IsCutRight s l then dotCount else 0

/-- The first byte of the line that is shown as it is. -/
def keptFrom : Nat := if IsCutLeft s l then s.cut l.column + dotCount else 0

/-- The end of the bytes that are shown as they are. -/
def keptTo : Nat :=
  if IsCutRight s l then s.cut l.column + (s.maxWidth - dotCount) else l.line.text.length

/-- The start is left out up to the end of the line at most. -/
theorem drop_min_eq_rest :
    l.line.text.drop (min (if s.rightMargin < l.column then l.column - s.window else 0) l.line.text.length) =
      rest s l :=
  List.drop_eq_drop_min.symm

/-! ## Bytes shown -/

theorem length_rest : (rest s l).length = l.line.text.length - s.cut l.column := List.length_drop

theorem length_dotLeft (bs : List UInt8) : (dotLeft bs).length = bs.length := by
  rw [dotLeft, List.length_append, List.length_replicate, List.length_drop]
  omega

theorem getElem?_dotLeft (bs : List UInt8) (j : Nat) (hj : j < bs.length) :
    (dotLeft bs)[j]? = if j < dotCount then some dot else bs[j]? := by
  rw [dotLeft, List.getElem?_append, List.length_replicate]
  split
  · next h => rw [List.getElem?_replicate, if_pos h, if_pos (by omega)]
  · next h =>
    rw [if_neg (by omega), List.getElem?_drop, show dotCount + (j - min dotCount bs.length) = j by omega]

theorem length_dotRight (width : Nat) (bs : List UInt8) :
    (dotRight width bs).length = min bs.length width := by
  unfold dotRight
  split
  · rw [List.length_append, List.length_replicate, List.length_take]
    omega
  · omega

theorem getElem?_dotRight (width : Nat) (bs : List UInt8) (j : Nat) (hj : j < min bs.length width) :
    (dotRight width bs)[j]? =
      if width < bs.length ∧ width ≤ j + dotCount then some dot else bs[j]? := by
  unfold dotRight
  by_cases hw : width < bs.length
  · rw [if_pos hw, List.getElem?_append, List.length_take]
    split
    · next h => rw [if_neg (by omega), List.getElem?_take, if_pos (by omega)]
    · next h => rw [if_pos ⟨hw, by omega⟩, List.getElem?_replicate, if_pos (by omega)]
  · rw [if_neg hw, if_neg fun h => hw h.1]

theorem line_eq_dotRight : (ofLocation s l).line =
    dotRight s.maxWidth (if IsCutLeft s l then dotLeft (rest s l) else rest s l) := rfl

theorem length_line : (ofLocation s l).line.length = min (rest s l).length s.maxWidth := by
  rw [line_eq_dotRight, length_dotRight]
  split
  · rw [length_dotLeft]
  · rfl

/-- Each byte of the line shown is a dot or the byte of the line at its place. -/
theorem getElem?_line (j : Nat) (hj : j < min (rest s l).length s.maxWidth) :
    (ofLocation s l).line[j]? =
      if IsCutLeft s l ∧ j < dotCount ∨ IsCutRight s l ∧ s.maxWidth ≤ j + dotCount then some dot
      else l.line.text[s.cut l.column + j]? := by
  rw [line_eq_dotRight, ← List.getElem?_drop]
  by_cases hl : IsCutLeft s l
  · rw [if_pos hl, getElem?_dotRight _ _ _ (by rw [length_dotLeft]; exact hj), length_dotLeft,
      getElem?_dotLeft _ _ (by omega)]
    show (if IsCutRight s l ∧ s.maxWidth ≤ j + dotCount then _ else _) = _
    by_cases hr : IsCutRight s l ∧ s.maxWidth ≤ j + dotCount
    · rw [if_pos hr, if_pos (Or.inr hr)]
    · rw [if_neg hr]
      simp only [hl, hr, true_and, or_false]
      rfl
  · rw [if_neg hl, getElem?_dotRight _ _ _ hj]
    simp only [hl, false_and, false_or]
    rfl

/-! ## Dots, and what stands between them -/

theorem keptFrom_eq : keptFrom s l = s.cut l.column + leftDots s l := by
  unfold keptFrom leftDots
  split
  · rfl
  · next h => exact (if_neg h).symm

theorem keptTo_le : keptTo s l ≤ max l.line.text.length (keptFrom s l) := by
  have hlen := length_rest s l
  have hfrom := keptFrom_eq s l
  unfold keptTo
  split
  · next h =>
    have h : s.maxWidth < (rest s l).length := h
    omega
  · omega

/-- The dots and the bytes kept are all that is shown. -/
theorem leftDots_add (h : keptFrom s l < keptTo s l) :
    leftDots s l + (keptTo s l - keptFrom s l) + rightDots s l = min (rest s l).length s.maxWidth := by
  have hlen := length_rest s l
  rw [keptFrom_eq] at h ⊢
  unfold keptTo at h ⊢
  unfold rightDots
  split at h
  · next hr =>
    rw [if_pos hr, if_pos hr]
    have hr : s.maxWidth < (rest s l).length := hr
    omega
  · next hr =>
    rw [if_neg hr, if_neg hr]
    have hr : ¬ s.maxWidth < (rest s l).length := hr
    omega

/-- The dots are the bytes before those kept and after them. -/
theorem isDot_iff (h : keptFrom s l < keptTo s l) (j : Nat)
    (hj : j < min (rest s l).length s.maxWidth) :
    (IsCutLeft s l ∧ j < dotCount ∨ IsCutRight s l ∧ s.maxWidth ≤ j + dotCount) ↔
      j < leftDots s l ∨ leftDots s l + (keptTo s l - keptFrom s l) ≤ j := by
  have hw := leftDots_add s l h
  have hleft : IsCutLeft s l ∧ j < dotCount ↔ j < leftDots s l := by
    unfold leftDots
    split <;> simp [*]
  have hright : IsCutRight s l ∧ s.maxWidth ≤ j + dotCount ↔
      leftDots s l + (keptTo s l - keptFrom s l) ≤ j := by
    unfold rightDots at hw
    by_cases hr : IsCutRight s l
    · rw [if_pos hr] at hw
      have hr' : s.maxWidth < (rest s l).length := hr
      simp only [hr, true_and]
      omega
    · rw [if_neg hr] at hw
      simp only [hr, false_and, false_iff]
      omega
  rw [hleft, hright]

/-- What is kept of the line, with dots for the rest on each side that was cut. -/
theorem line_eq (h : keptFrom s l < keptTo s l) :
    (ofLocation s l).line = List.replicate (leftDots s l) dot ++
      ((l.line.text.take (keptTo s l)).drop (keptFrom s l) ++
        List.replicate (rightDots s l) dot) := by
  have hlen := length_line s l
  have hw := leftDots_add s l h
  have hfrom := keptFrom_eq s l
  have hto := keptTo_le s l
  apply List.ext_getElem?
  intro j
  by_cases hj : j < min (rest s l).length s.maxWidth
  · rw [getElem?_line s l j hj]
    simp only [isDot_iff s l h j hj]
    rw [List.getElem?_append, List.length_replicate]
    by_cases h1 : j < leftDots s l
    · rw [if_pos (Or.inl h1), if_pos h1, List.getElem?_replicate, if_pos h1]
    · rw [if_neg h1, List.getElem?_append, List.length_drop, List.length_take,
        Nat.min_eq_left (by omega)]
      by_cases h2 : leftDots s l + (keptTo s l - keptFrom s l) ≤ j
      · rw [if_pos (Or.inr h2), if_neg (by omega), List.getElem?_replicate, if_pos (by omega)]
      · rw [if_neg (by omega), if_pos (by omega), List.getElem?_drop, List.getElem?_take,
          if_pos (by omega), show keptFrom s l + (j - leftDots s l) = s.cut l.column + j by omega]
  · rw [List.getElem?_eq_none (by omega), List.getElem?_eq_none]
    simp only [List.length_append, List.length_replicate, List.length_drop, List.length_take]
    omega

/-- Where nothing is kept there are dots only. -/
theorem line_eq_dots (h : keptTo s l ≤ keptFrom s l) :
    (ofLocation s l).line = List.replicate (min (rest s l).length s.maxWidth) dot := by
  have hlen := length_line s l
  have hrest := length_rest s l
  have hall (j : Nat) (hj : j < min (rest s l).length s.maxWidth) :
      IsCutLeft s l ∧ j < dotCount ∨ IsCutRight s l ∧ s.maxWidth ≤ j + dotCount := by
    rw [keptFrom_eq] at h
    unfold keptTo leftDots at h
    by_cases hl : IsCutLeft s l <;> by_cases hr : IsCutRight s l
    all_goals
      simp only [hl, hr, if_true, if_false, true_and, false_and, or_false, false_or] at h ⊢
      omega
  apply List.ext_getElem?
  intro j
  by_cases hj : j < min (rest s l).length s.maxWidth
  · rw [getElem?_line s l j hj, List.getElem?_replicate, if_pos hj, if_pos (hall j hj)]
  · rw [List.getElem?_eq_none (by omega), List.getElem?_eq_none (by rw [List.length_replicate]; omega)]

end

/-! ## Text shown -/

theorem decodeFrom_dots (n : Nat) (t : List UInt8) :
    decodeFrom none (List.replicate n dot ++ t) = List.replicate n '.' ++ decodeFrom none t := by
  induction n with
  | zero => rfl
  | succ n ih =>
    rw [List.replicate_succ, List.replicate_succ, List.cons_append, List.cons_append, ← ih]
    exact decodeFrom_char '.' _

theorem decode_dots (n : Nat) : decode (List.replicate n dot) = List.replicate n '.' := by
  have := decodeFrom_dots n []
  rwa [List.append_nil, decodeFrom_nil, List.append_nil] at this

theorem clean_dots (n : Nat) : Clean (List.replicate n dot) := by
  intro b hb
  rw [List.eq_of_mem_replicate (List.mem_of_mem_head? hb)]
  decide

section
variable (s : Settings) (l : Location) (cs : List Char) (hcs : encode cs = l.line.text)
include hcs

theorem decode_line_kept (h : keptFrom s l < keptTo s l) :
    decode (ofLocation s l).line = List.replicate (leftDots s l) '.' ++
      List.replicate (orphanBytes (keptFrom s l) (keptTo s l) (placeChars 0 cs)) replacement ++
      keptChars (keptFrom s l) (keptTo s l) (placeChars 0 cs) ++
      (if splitsAt (keptFrom s l) (keptTo s l) (placeChars 0 cs) then [replacement] else []) ++
      List.replicate (rightDots s l) '.' := by
  have hslice := decodeFrom_slice cs (keptFrom s l) (keptTo s l) 0 (Nat.le_of_lt h)
    (clean_dots (rightDots s l))
  rw [Nat.sub_zero, Nat.sub_zero, hcs] at hslice
  rw [line_eq s l h, decode, decodeFrom_dots, hslice, ← decode, decode_dots]
  simp only [List.append_assoc]

theorem decode_line_uncut (hl : ¬ IsCutLeft s l) (hr : ¬ IsCutRight s l) :
    decode (ofLocation s l).line = cs := by
  have hcut : s.cut l.column = 0 := if_neg hl
  have hright : dotRight s.maxWidth (rest s l) = rest s l := if_neg hr
  rw [line_eq_dotRight, if_neg hl, hright, rest, hcut, List.drop_zero, ← hcs, decode_encode]

end

/-! ## Top theorem -/

/-- **What a window shows of a line.**  Between the dots stand the characters that lie wholly in what is
kept, with one replacement for each byte left of a character cut at the start, and one for a character
cut at the end. -/
theorem decode_line (s : Settings) (source : String) (pos : Nat) (h : pos ≤ size source) :
    ∃ l cs, Location.find? source pos = some l ∧ encode cs = l.line.text ∧
      let text := l.line.text
      let c := l.column
      let m := s.rightMargin
      let x := s.maxWidth
      let cut := if m < c then c - s.window else 0
      let behind := text.drop (min cut text.length)
      let lo := if m < c then cut + 3 else 0
      let hi := if x < behind.length then cut + (x - 3) else text.length
      let ps := placeChars 0 cs
      let shown := decode (ofLocation s l).line
      (lo < hi → shown = List.replicate (if m < c then 3 else 0) '.' ++
        List.replicate (orphanBytes lo hi ps) '\uFFFD' ++ keptChars lo hi ps ++
        (if splitsAt lo hi ps then ['\uFFFD'] else []) ++
        List.replicate (if x < behind.length then 3 else 0) '.') ∧
      orphanBytes lo hi ps ≤ 3 ∧
      (hi ≤ lo → shown = List.replicate (min behind.length x) '.') ∧
      (¬ m < c → ¬ x < behind.length → shown = cs) := by
  obtain ⟨l, hf⟩ : ∃ l, Location.find? source pos = some l := by
    obtain ⟨_, -, hf, -⟩ := Location.find?_eq source pos h
    exact ⟨_, hf⟩
  obtain ⟨cs, hcs⟩ := Location.isText_text hf
  refine ⟨l, cs, hf, hcs, ?_⟩
  intro text c m x cut behind lo hi ps shown
  have hbehind : behind = rest s l := drop_min_eq_rest s l
  have hto : hi = keptTo s l := by
    show (if x < behind.length then _ else _) = _
    rw [hbehind]
    rfl
  rw [hbehind, hto]
  refine ⟨?_, orphanBytes_le _ _ 0 cs, ?_, ?_⟩
  · intro hlt
    exact decode_line_kept s l cs hcs hlt
  · intro hle
    rw [← decode_dots, ← line_eq_dots s l hle]
  · intro hl hr
    exact decode_line_uncut s l cs hcs hl hr

/-- Of ten characters of two bytes each the window keeps one, and one byte of each of its neighbours. -/
theorem decode_line_cut_twice :
    12 ≤ size "éèêëàâîôûù" ∧ ∃ l, Location.find? "éèêëàâîôûù" 12 = some l ∧
      decode (ofLocation ⟨5, 8, 10⟩ l).line =
        ['.', '.', '.', '\uFFFD', 'à', '\uFFFD', '.', '.', '.'] := by
  have h12 : 12 ≤ size "éèêëàâîôûù" := by decide
  obtain ⟨l, cs, hl, hcs, hkept, -⟩ := decode_line ⟨5, 8, 10⟩ "éèêëàâîôûù" 12 h12
  have hfound : Location.find? "éèêëàâîôûù" 12 = some ⟨⟨1, 0, bytes "éèêëàâîôûù"⟩, 12⟩ := by decide
  obtain rfl := Option.some.inj (hl.symm.trans hfound)
  obtain rfl : cs = "éèêëàâîôûù".toList := by
    rw [← decode_encode cs, hcs]
    decide
  exact ⟨h12, _, hl, hkept (by decide)⟩

end Window

end Caret
