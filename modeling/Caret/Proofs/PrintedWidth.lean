import Caret.Proofs.Reading
import Caret.Proofs.Truncation

/-!
# How wide a line is printed

The line shown is cut to `maxWidth` bytes before it is read as text, and a character that a cut goes through
is printed as replacement characters of three bytes each.  A byte left of a character begun before the part
kept gains two bytes; a character that the part keeps one to three bytes of gains what these lack of three
(`gain`, eight bytes at most).  So the line as printed is the cut line and the gain (`length_printed`), and
it keeps within `maxWidth` where nothing is gained or the line was short enough (`printed_within_iff`).
-/

namespace Caret

open Text

namespace Text

/-! ## Lines of a text -/

theorem pieces_ne_nil (cs : List Char) : pieces cs ≠ [] := by
  cases cs with
  | nil => decide
  | cons c cs =>
    unfold pieces
    split
    · simp
    · split <;> simp

theorem pieces_append (xs ys : List Char) (h : '\n' ∉ xs) :
    pieces (xs ++ '\n' :: ys) = xs :: pieces ys := by
  induction xs with
  | nil =>
    obtain ⟨p, ps, hp⟩ := List.exists_cons_of_ne_nil (pieces_ne_nil ys)
    rw [List.nil_append, pieces, hp]
    rfl
  | cons x xs ih =>
    obtain ⟨hx, h⟩ := List.ne_and_not_mem_of_not_mem_cons h
    rw [List.cons_append, pieces, ih h]
    exact if_neg (Ne.symm hx)

/-! ## Bytes gained -/

/-- The bytes from `lo` to `hi` that belong to a character begun there that ends after `hi`. -/
def brokenBytes (lo hi : Nat) : List Placed → Nat
  | [] => 0
  | p :: ps =>
    (if lo ≤ p.start ∧ p.start < hi ∧ hi < p.stop then hi - p.start else 0) + brokenBytes lo hi ps

/-- The bytes that the part from `lo` to `hi` gains when it is read: each replacement character takes
three. -/
def gain (lo hi : Nat) (ps : List Placed) : Nat :=
  if lo < hi then
    2 * orphanBytes lo hi ps + if splitsAt lo hi ps then 3 - brokenBytes lo hi ps else 0
  else 0

theorem brokenBytes_of_le (lo hi o : Nat) (cs : List Char) (h : hi ≤ o) :
    brokenBytes lo hi (placeChars o cs) = 0 := by
  induction cs generalizing o with
  | nil => rfl
  | cons c cs ih =>
    rw [placeChars, brokenBytes, ih _ (by omega)]
    exact if_neg (by simp only []; omega)

/-- At most one character is cut at `hi`, and it keeps one byte at least and three at most. -/
theorem brokenBytes_cases (lo hi o : Nat) (cs : List Char) :
    (splitsAt lo hi (placeChars o cs) = true ∧ 1 ≤ brokenBytes lo hi (placeChars o cs) ∧
      brokenBytes lo hi (placeChars o cs) ≤ 3) ∨
    (splitsAt lo hi (placeChars o cs) = false ∧ brokenBytes lo hi (placeChars o cs) = 0) := by
  induction cs generalizing o with
  | nil => exact Or.inr ⟨rfl, rfl⟩
  | cons c cs ih =>
    have hz := c.utf8Size_le_four
    rw [placeChars, splitsAt_cons, brokenBytes]
    simp only []
    by_cases h : lo ≤ o ∧ o < hi ∧ hi < o + c.utf8Size
    · rw [decide_eq_true h, Bool.true_or, if_pos h, brokenBytes_of_le lo hi _ cs (by omega)]
      left
      refine ⟨rfl, ?_, ?_⟩ <;> omega
    · rw [decide_eq_false h, Bool.false_or, if_neg h, Nat.zero_add]
      exact ih (o + c.utf8Size)

theorem gain_le (lo hi o : Nat) (cs : List Char) : gain lo hi (placeChars o cs) ≤ 8 := by
  have horphan := orphanBytes_le lo hi o cs
  unfold gain
  rcases brokenBytes_cases lo hi o cs with ⟨hs, hb, -⟩ | ⟨hs, -⟩
  · rw [hs, if_pos rfl]
    split <;> omega
  · rw [hs, if_neg Bool.false_ne_true]
    split <;> omega

/-- Characters of one byte are cut nowhere. -/
theorem gain_of_single (lo hi o : Nat) (cs : List Char) (h : ∀ c ∈ cs, c.utf8Size = 1) :
    gain lo hi (placeChars o cs) = 0 := by
  suffices horphan : orphanBytes lo hi (placeChars o cs) = 0 ∧
      splitsAt lo hi (placeChars o cs) = false by
    rw [gain, horphan.1, horphan.2]
    simp
  induction cs generalizing o with
  | nil => exact ⟨rfl, rfl⟩
  | cons c cs ih =>
    have hc := h c List.mem_cons_self
    obtain ⟨ih₁, ih₂⟩ := ih (o + c.utf8Size) fun c hm => h c (List.mem_cons_of_mem _ hm)
    rw [placeChars, orphanBytes, splitsAt_cons, ih₁, ih₂, hc, Bool.or_false, decide_eq_false_iff_not]
    simp only []
    constructor
    · split <;> omega
    · omega

/-- The bytes from `lo` to `hi`: those left of a character begun before them, whole characters, and those
of a character that ends after them. -/
theorem length_slice (cs : List Char) (lo hi o : Nat) (h : lo ≤ hi) :
    (((encode cs).take (hi - o)).drop (lo - o)).length =
      orphanBytes lo hi (placeChars o cs) + (encode (keptChars lo hi (placeChars o cs))).length +
        brokenBytes lo hi (placeChars o cs) := by
  induction cs generalizing o with
  | nil => simp [placeChars, orphanBytes, keptChars, brokenBytes]
  | cons c cs ih =>
    rw [slice_cons, List.length_append, ih, placeChars, orphanBytes, keptChars_cons, brokenBytes,
      encode_append, List.length_append, List.length_drop, List.length_take,
      String.length_utf8EncodeChar]
    simp only []
    -- what the first character adds, by where it stands
    have hfirst : min (hi - o) c.utf8Size - (lo - o) =
        (if o < lo then min hi (o + c.utf8Size) - lo else 0) +
          (encode (if lo ≤ o ∧ o + c.utf8Size ≤ hi then [c] else [])).length +
          (if lo ≤ o ∧ o < hi ∧ hi < o + c.utf8Size then hi - o else 0) := by
      by_cases h₁ : o < lo
      · rw [if_pos h₁, if_neg (by omega), if_neg (by omega), encode_nil, List.length_nil]
        omega
      · rw [if_neg h₁]
        by_cases h₂ : o + c.utf8Size ≤ hi
        · rw [if_pos (by omega), if_neg (by omega), encode_cons, encode_nil, List.append_nil,
            String.length_utf8EncodeChar]
          omega
        · rw [if_neg (by omega), encode_nil, List.length_nil]
          split <;> omega
    omega

theorem length_encode_replicate (n : Nat) (c : Char) :
    (encode (List.replicate n c)).length = n * c.utf8Size := by
  rw [encode, List.length_flatMap, List.map_replicate, List.sum_replicate_nat,
    String.length_utf8EncodeChar]

end Text

namespace Window

/-! ## The line as printed -/

theorem length_printed (s : Settings) (l : Location) (cs : List Char) (hcs : encode cs = l.line.text) :
    (encode (decode (ofLocation s l).line)).length =
      min (rest s l).length s.maxWidth + gain (keptFrom s l) (keptTo s l) (placeChars 0 cs) := by
  have hdot : ('.' : Char).utf8Size = 1 := rfl
  have hrep : replacement.utf8Size = 3 := rfl
  by_cases h : keptFrom s l < keptTo s l
  · have hto := keptTo_le s l
    have hadd := leftDots_add s l h
    have hslice := length_slice cs (keptFrom s l) (keptTo s l) 0 (Nat.le_of_lt h)
    rw [Nat.sub_zero, Nat.sub_zero, hcs, List.length_drop, List.length_take,
      Nat.min_eq_left (by omega)] at hslice
    rw [decode_line_kept s l cs hcs h, gain, if_pos h]
    simp only [encode_append, List.length_append, length_encode_replicate, hdot, hrep]
    rcases brokenBytes_cases (keptFrom s l) (keptTo s l) 0 cs with ⟨hs, -, hb⟩ | ⟨hs, hb⟩
    · have hone : (encode [replacement]).length = 3 := rfl
      rw [hs, if_pos rfl, if_pos rfl, hone]
      omega
    · rw [hs, if_neg Bool.false_ne_true, if_neg Bool.false_ne_true, encode_nil, List.length_nil]
      omega
  · rw [line_eq_dots s l (Nat.le_of_not_lt h), decode_dots, length_encode_replicate, hdot, gain, if_neg h]
    omega

theorem printed_within_iff (s : Settings) (l : Location) (cs : List Char)
    (hcs : encode cs = l.line.text) :
    (encode (decode (ofLocation s l).line)).length ≤ s.maxWidth ↔
      gain (keptFrom s l) (keptTo s l) (placeChars 0 cs) = 0 ∨
        (rest s l).length + gain (keptFrom s l) (keptTo s l) (placeChars 0 cs) ≤ s.maxWidth := by
  rw [length_printed s l cs hcs]
  omega

end Window

namespace Diagnostic

/-- The second line of a diagnostic in range is the line shown. -/
theorem second_piece (s : Settings) (e : PositionedError) (l : Location) (h : newline ∉ l.line.text) :
    (pieces (atLocation s e l).toList)[1]? = some (decode (Window.ofLocation s l).line) := by
  obtain ⟨hheader, hline, -⟩ := newline_notMem_shown s l h
  have htext : (atLocation s e l).toList = (Shown.ofLocation s l).header.toList ++
      '\n' :: ((Shown.ofLocation s l).line.toList ++
        '\n' :: ((Shown.ofLocation s l).caret ++ "\n" ++ e.message ++ "\n").toList) := by
    rw [atLocation_eq]
    simp
  rw [htext, pieces_append _ _ hheader, pieces_append _ _ hline, Shown.ofLocation, String.toList_ofList]
  rfl

/-! ## Top theorem -/

/-- **The printed width of a diagnostic's second line**: the bytes of the line as cut, and what the
replacement characters gain, which is eight bytes at most and nothing where all characters are of one byte. -/
theorem length_second_line (s : Settings) (e : PositionedError) (source : String)
    (h : e.pos ≤ size source) :
    ∃ l cs line, Location.find? source e.pos = some l ∧ encode cs = l.line.text ∧
      (pieces (render s e source).toList)[1]? = some line ∧
      let text := l.line.text
      let m := s.rightMargin
      let x := s.maxWidth
      let cut := if m < l.column then l.column - s.window else 0
      let behind := text.drop (min cut text.length)
      let lo := if m < l.column then cut + 3 else 0
      let hi := if x < behind.length then cut + (x - 3) else text.length
      let more := gain lo hi (placeChars 0 cs)
      (encode line).length = min behind.length x + more ∧ more ≤ 8 ∧
      ((∀ c ∈ cs, c.utf8Size = 1) → more = 0) ∧
      ((encode line).length ≤ x ↔ more = 0 ∨ behind.length + more ≤ x) := by
  obtain ⟨l, hl⟩ := Location.exists_find? h
  obtain ⟨cs, hcs⟩ := Location.isText_text hl
  have hpiece : (pieces (render s e source).toList)[1]? = some (decode (Window.ofLocation s l).line) := by
    rw [render_eq, hl, Option.elim_some]
    exact second_piece s e l (Location.newline_notMem_text hl)
  refine ⟨l, cs, _, hl, hcs, hpiece, ?_⟩
  intro text m x cut behind lo hi more
  have hbehind : behind = Window.rest s l := Window.drop_min_eq_rest s l
  have hmore : more = gain (Window.keptFrom s l) (Window.keptTo s l) (placeChars 0 cs) := by
    show gain lo (if x < behind.length then _ else _) _ = _
    rw [hbehind]
    rfl
  rw [hbehind, hmore]
  refine ⟨Window.length_printed s l cs hcs, gain_le _ _ 0 cs, ?_, Window.printed_within_iff s l cs hcs⟩
  intro hsingle
  exact gain_of_single _ _ 0 cs hsingle

/-- Forty characters of two bytes: the cut leaves one byte of the last one it keeps. -/
theorem length_second_line_of_two_bytes :
    let cs := List.replicate 40 'é'
    0 ≤ size (String.ofList cs) ∧
      ∃ line, (pieces (render Settings.standard ⟨0, "thing"⟩ (String.ofList cs)).toList)[1]? = some line ∧
        (encode line).length = 72 := by
  intro cs
  have hfound : Location.find? (String.ofList cs) 0 = some ⟨⟨1, 0, encode cs⟩, 0⟩ :=
    Location.find?_one_line cs 0 (Nat.zero_le _) (by decide) (by decide)
  obtain ⟨l, ds, line, hl, hds, hline, hlength, -⟩ :=
    length_second_line Settings.standard ⟨0, "thing"⟩ (String.ofList cs) (Nat.zero_le _)
  obtain rfl := Option.some.inj (hl.symm.trans hfound)
  obtain rfl : ds = cs := by rw [← decode_encode ds, hds, decode_encode]
  exact ⟨Nat.zero_le _, line, hline, hlength.trans (by decide +kernel)⟩

/-- The printed line can be wider than the limit. -/
theorem second_line_exceeds_width :
    ¬ ∀ (s : Settings) (e : PositionedError) (source : String), e.pos ≤ size source →
      ∀ line, (pieces (render s e source).toList)[1]? = some line → (encode line).length ≤ s.maxWidth := by
  intro hall
  let cs := List.replicate 40 'é'
  have hfound : Location.find? (String.ofList cs) 0 = some ⟨⟨1, 0, encode cs⟩, 0⟩ :=
    Location.find?_one_line cs 0 (Nat.zero_le _) (by decide) (by decide)
  have hline : (pieces (render Settings.standard ⟨0, "thing"⟩ (String.ofList cs)).toList)[1]? =
      some (decode (Window.ofLocation Settings.standard ⟨⟨1, 0, encode cs⟩, 0⟩).line) := by
    rw [render_eq, hfound]
    exact second_piece _ _ _ (Location.newline_notMem_text hfound)
  have hle := hall Settings.standard ⟨0, "thing"⟩ (String.ofList cs) (Nat.zero_le _) _ hline
  exact absurd hle (by decide +kernel)

end Diagnostic

end Caret
