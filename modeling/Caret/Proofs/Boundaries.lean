import Caret.Proofs.Utf8
import Mathlib.Order.Bounds.Defs

/-!
# Character boundaries of a text

The bytes of a text fall into characters, and the boundaries are the offsets between two of them
(`isBoundary_append`, `isBoundary_inside`).  So an offset in a text lies three bytes at most behind a
boundary, and both ways to find that boundary agree: `dropBytes` drops the characters before it, and
`floorBoundary` walks back to it (`floorBoundary_encode`).

`IsBoundary` says the same without bytes: the text falls in two texts there (`isBoundary_bytes_iff`).  The walk
back ends at the greatest such offset up to the one it started from (`isGreatest_floorBoundary`).
-/

namespace Caret.Text

/-! ## Where characters meet -/

/-- No character starts with a byte that continues one. -/
theorem isContinuation_head (c : Char) :
    ∃ b bs, String.utf8EncodeChar c = b :: bs ∧ isContinuation b = false := by
  rcases encodeChar_cases c with ⟨b, he, hb, -⟩ | ⟨b, p, bs, he, -, hs, -⟩
  · refine ⟨b, [], he, ?_⟩
    have hlow : ¬ (0x80 : UInt8) ≤ b := by
      rw [UInt8.le_iff_toNat_le]
      show ¬ 0x80 ≤ b.toNat
      omega
    simp only [isContinuation, hlow, decide_false, Bool.false_and]
  · refine ⟨b, bs, he, ?_⟩
    cases hb : isContinuation b with
    | false => rfl
    | true =>
      rw [begin_continuation hb] at hs
      cases hs

theorem isBoundary_append (cs ds : List Char) :
    isBoundary (encode (cs ++ ds)) (encode cs).length = true := by
  rw [isBoundary, encode_append, List.drop_left]
  cases ds with
  | nil => simp
  | cons d ds =>
    obtain ⟨b, bs, he, hb⟩ := isContinuation_head d
    rw [encode_cons, he, List.cons_append]
    simp only [hb, Bool.not_false]

theorem isBoundary_inside (cs : List Char) (c : Char) (ds : List Char) (j : Nat) (h0 : 0 < j)
    (hj : j < c.utf8Size) : isBoundary (encode (cs ++ c :: ds)) ((encode cs).length + j) = false := by
  have hlt : j < (String.utf8EncodeChar c).length := by rwa [String.length_utf8EncodeChar]
  rw [isBoundary, encode_append, List.drop_length_add_append, encode_cons,
    List.drop_append_of_le_length (Nat.le_of_lt hlt), List.drop_eq_getElem_cons hlt, List.cons_append]
  have htail : (String.utf8EncodeChar c)[j] ∈ (String.utf8EncodeChar c).tail := by
    obtain ⟨i, rfl⟩ : ∃ i, j = i + 1 := ⟨j - 1, by omega⟩
    rw [← List.getElem_tail (h := by rw [List.length_tail]; omega)]
    exact List.getElem_mem _
  simp only [isContinuation_of_mem_tail htail, Bool.not_true]

/-! ## The boundary before an offset -/

/-- The characters dropped end at or before the offset, and the next one ends after it. -/
theorem dropBytes_split (n : Nat) (cs : List Char) (h : n ≤ (encode cs).length) :
    ∃ ds, cs = ds ++ dropBytes n cs ∧ (encode ds).length ≤ n ∧
      ∀ c ∈ (dropBytes n cs).head?, n < (encode ds).length + c.utf8Size := by
  induction cs generalizing n with
  | nil =>
    refine ⟨[], rfl, Nat.zero_le n, ?_⟩
    intro c hc
    cases hc
  | cons c cs ih =>
    rw [encode_cons, List.length_append, String.length_utf8EncodeChar] at h
    unfold dropBytes
    split
    · next hc =>
      obtain ⟨ds, hds, hle, hlt⟩ := ih (n - c.utf8Size) (by omega)
      refine ⟨c :: ds, ?_, ?_, ?_⟩
      · rw [List.cons_append, ← hds]
      · rw [encode_cons, List.length_append, String.length_utf8EncodeChar]
        omega
      · intro d hd
        have := hlt d hd
        rw [encode_cons, List.length_append, String.length_utf8EncodeChar]
        omega
    · next hc =>
      refine ⟨[], rfl, Nat.zero_le n, ?_⟩
      intro d hd
      obtain rfl : c = d := Option.some.inj hd
      rw [encode_nil, List.length_nil]
      omega

theorem isBoundary_floorBoundary (bs : List UInt8) (n : Nat) (h0 : isBoundary bs 0 = true) :
    isBoundary bs (floorBoundary bs n) = true := by
  induction n with
  | zero => exact h0
  | succ n ih =>
    unfold floorBoundary
    split
    · next h => exact h
    · exact ih

/-- The walk back stops at the first boundary it meets. -/
theorem floorBoundary_eq (bs : List UInt8) (b n : Nat) (hb : isBoundary bs b = true) (hle : b ≤ n)
    (h : ∀ m, b < m → m ≤ n → isBoundary bs m = false) : floorBoundary bs n = b := by
  induction n with
  | zero =>
    obtain rfl : b = 0 := Nat.le_zero.1 hle
    rfl
  | succ n ih =>
    unfold floorBoundary
    rcases Nat.lt_or_ge n b with hn | hn
    · obtain rfl : b = n + 1 := by omega
      rw [if_pos hb]
    · rw [h (n + 1) (by omega) (Nat.le_refl _), if_neg Bool.false_ne_true]
      apply ih hn
      intro m hm hmn
      exact h m hm (by omega)

/-- **The boundary at or before an offset of a text**: the characters up to it are those that `dropBytes`
drops, and it lies three bytes at most before the offset. -/
theorem floorBoundary_encode (n : Nat) (cs : List Char) (h : n ≤ (encode cs).length) :
    ∃ ds, cs = ds ++ dropBytes n cs ∧ floorBoundary (encode cs) n = (encode ds).length ∧
      (encode ds).length ≤ n ∧ n ≤ (encode ds).length + 3 := by
  obtain ⟨ds, hds, hle, hlt⟩ := dropBytes_split n cs h
  generalize dropBytes n cs = es at hds hlt
  subst hds
  cases es with
  | nil =>
    rw [List.append_nil] at h ⊢
    have hn : n = (encode ds).length := Nat.le_antisymm h hle
    refine ⟨ds, (List.append_nil ds).symm, ?_, hle, by omega⟩
    apply floorBoundary_eq _ _ _ _ hle
    · intro m hm hmn
      omega
    · have := isBoundary_append ds []
      rwa [List.append_nil] at this
  | cons c es =>
    have hc := hlt c rfl
    have hfour := c.utf8Size_le_four
    refine ⟨ds, rfl, ?_, hle, by omega⟩
    apply floorBoundary_eq _ _ _ (isBoundary_append ds (c :: es)) hle
    intro m hm hmn
    -- an offset between the two lies inside the character
    obtain ⟨j, rfl⟩ : ∃ j, m = (encode ds).length + j := ⟨m - (encode ds).length, by omega⟩
    exact isBoundary_inside ds c es j (by omega) (by omega)

/-! ## Texts that fall in two -/

/-- The text falls in two texts at the offset: it stands between two characters, or at either end. -/
def IsBoundary (source : String) (n : Nat) : Prop :=
  ∃ before after, source = before ++ after ∧ size before = n

theorem le_length_of_isBoundary {bs : List UInt8} {n : Nat} (h : isBoundary bs n = true) :
    n ≤ bs.length := by
  rcases Nat.lt_or_ge bs.length n with hlt | hge
  · rw [isBoundary, List.drop_of_length_le (Nat.le_of_lt hlt)] at h
    exact Nat.le_of_eq (beq_iff_eq.1 h)
  · exact hge

/-- The byte at an offset tells whether the text falls in two there. -/
theorem isBoundary_bytes_iff (source : String) (n : Nat) :
    isBoundary (bytes source) n = true ↔ IsBoundary source n := by
  constructor
  · intro h
    obtain ⟨ds, hds, hle, hnext⟩ := dropBytes_split n source.toList (le_length_of_isBoundary h)
    generalize dropBytes n source.toList = es at hds hnext
    refine ⟨String.ofList ds, String.ofList es, ?_, ?_⟩
    · rw [← String.ofList_append, ← hds, String.ofList_toList]
    · rw [size, bytes_ofList]
      rw [bytes, hds] at h
      cases es with
      | nil =>
        have hge := le_length_of_isBoundary h
        rw [List.append_nil] at hge
        exact Nat.le_antisymm hle hge
      | cons c es =>
        have hc := hnext c rfl
        -- an offset past the characters before it lies inside the next one
        rcases Nat.lt_or_eq_of_le hle with hlt | heq
        · have hinside := isBoundary_inside ds c es (n - (encode ds).length) (by omega) (by omega)
          rw [Nat.add_sub_cancel' hle, h] at hinside
          cases hinside
        · exact heq
  · rintro ⟨before, after, rfl, rfl⟩
    rw [bytes, String.toList_append]
    exact isBoundary_append before.toList after.toList

theorem le_floorBoundary {bs : List UInt8} {m n : Nat} (hm : isBoundary bs m = true) (h : m ≤ n) :
    m ≤ floorBoundary bs n := by
  induction n with
  | zero => exact h
  | succ n ih =>
    unfold floorBoundary
    split
    · exact h
    · next hn =>
      apply ih
      rcases Nat.lt_or_eq_of_le h with hlt | rfl
      · omega
      · exact absurd hm hn

/-- The walk back ends at the last boundary at or before the offset. -/
theorem isGreatest_floorBoundary (source : String) (n : Nat) :
    IsGreatest {m | IsBoundary source m ∧ m ≤ n} (floorBoundary (bytes source) n) := by
  constructor
  · refine ⟨?_, floorBoundary_le (bytes source) n⟩
    rw [← isBoundary_bytes_iff]
    exact isBoundary_floorBoundary _ n (isBoundary_append [] source.toList)
  · rintro m ⟨hm, hle⟩
    exact le_floorBoundary ((isBoundary_bytes_iff source m).2 hm) hle

theorem le_floorBoundary_add_three {source : String} {n : Nat} (h : n ≤ size source) :
    n ≤ floorBoundary (bytes source) n + 3 := by
  obtain ⟨ds, -, hfloor, -, hthree⟩ := floorBoundary_encode n source.toList h
  rw [bytes, hfloor]
  exact hthree

theorem floorBoundary_of_isBoundary {source : String} {n : Nat} (h : IsBoundary source n) :
    floorBoundary (bytes source) n = n :=
  Nat.le_antisymm (floorBoundary_le _ n)
    (le_floorBoundary ((isBoundary_bytes_iff source n).2 h) (Nat.le_refl n))

theorem floorBoundary_mono (source : String) {m n : Nat} (h : m ≤ n) :
    floorBoundary (bytes source) m ≤ floorBoundary (bytes source) n := by
  obtain ⟨hm, hle⟩ := (isGreatest_floorBoundary source m).1
  exact (isGreatest_floorBoundary source n).2 ⟨hm, Nat.le_trans hle h⟩

theorem floorBoundary_size (source : String) : floorBoundary (bytes source) (size source) = size source :=
  floorBoundary_of_isBoundary ⟨source, "", String.append_empty.symm, rfl⟩

end Caret.Text
