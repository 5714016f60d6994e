import Caret.Proofs.OffsetPlaces
import Mathlib.Order.Bounds.Basic

/-!
# The input left after an offset

Two ways to take one text apart agree on the text between their places (`exists_between`), so the place of a split
determines both its parts.  With that, all that the input left is follows from where it begins: at the last
boundary that is not past the bytes consumed (`fromConsumed_of_lt`).

* `value_floorBoundary`: the same input is left behind that boundary itself.
* `exists_between_left`: the less is consumed, the more is left, and the end of it is the same.
* `drop_suffix_left`: no byte from the offset on is lost.
-/

namespace Caret

namespace Text

/-! ## Two splits of one text -/

theorem eq_nil_of_length_encode {cs : List Char} (h : (encode cs).length = 0) : cs = [] := by
  cases cs with
  | nil => rfl
  | cons c cs =>
    rw [encode_cons, List.length_append, String.length_utf8EncodeChar] at h
    have := c.utf8Size_pos
    omega

/-- Of two splits of a text, the one further to the left has the text between the two places at the front of its
second part. -/
theorem exists_between {before rest before' rest' : String} (h : before ++ rest = before' ++ rest')
    (hle : size before ≤ size before') : ∃ mid, before' = before ++ mid ∧ rest = mid ++ rest' := by
  have hlist := congrArg String.toList h
  rw [String.toList_append, String.toList_append, List.append_eq_append_iff] at hlist
  rcases hlist with ⟨mid, hbefore, hrest⟩ | ⟨mid, hbefore, hrest⟩
  · refine ⟨String.ofList mid, ?_, ?_⟩
    · rw [← String.toList_inj, String.toList_append, String.toList_ofList, hbefore]
    · rw [← String.toList_inj, String.toList_append, String.toList_ofList, hrest]
  · -- the places are the same, and nothing stands between them
    rw [size, size, bytes, bytes, hbefore, encode_append, List.length_append] at hle
    obtain rfl := eq_nil_of_length_encode (show (encode mid).length = 0 by omega)
    rw [List.append_nil, String.toList_inj] at hbefore
    rw [List.nil_append, String.toList_inj] at hrest
    exact ⟨"", by rw [hbefore, String.append_empty], by rw [hrest, String.empty_append]⟩

theorem rest_unique {before rest before' rest' : String} (h : before ++ rest = before' ++ rest')
    (hsize : size before = size before') : rest = rest' := by
  obtain ⟨mid, rfl, hrest⟩ := exists_between h (Nat.le_of_eq hsize)
  have hmid : size mid = 0 := by
    rw [size_append] at hsize
    omega
  rw [hrest, String.toList_eq_nil_iff.1 (eq_nil_of_length_encode hmid), String.empty_append]

end Text

open Text

namespace TrailingInput

section
variable {input : String} {consumed : Nat}

/-! ## The text left -/

/-- Text is left in the range of the input, and it stands behind the last boundary. -/
theorem exists_left (h : consumed < size input) :
    ∃ before rest, input = before ++ rest ∧ size before = floorBoundary (bytes input) consumed ∧
      (fromConsumed input consumed).value = some ⟨rest⟩ := by
  obtain ⟨before, rest, hinput, hbefore, hleft⟩ := fromConsumed_of_lt h
  exact ⟨before, rest, hinput, hbefore, by rw [hleft]⟩

theorem left_ne_empty {before rest : String} (h : consumed < size input) (hinput : input = before ++ rest)
    (hbefore : size before ≤ consumed) : rest ≠ "" := by
  rintro rfl
  rw [String.append_empty] at hinput
  rw [hinput] at h
  omega

/-- At the boundary itself the same text is left. -/
theorem value_floorBoundary (h : consumed < size input) :
    (fromConsumed input (floorBoundary (bytes input) consumed)).value = (fromConsumed input consumed).value := by
  have hfloor := isGreatest_floorBoundary input consumed
  obtain ⟨before, rest, hinput, hbefore, hleft⟩ := exists_left h
  obtain ⟨before', rest', hinput', hbefore', hleft'⟩ := exists_left (Nat.lt_of_le_of_lt hfloor.1.2 h)
  rw [floorBoundary_of_isBoundary hfloor.1.1] at hbefore'
  rw [hleft, hleft', rest_unique (hinput.symm.trans hinput') (hbefore.trans hbefore'.symm)]

/-- What is left after more bytes ends what is left after fewer. -/
theorem exists_between_left {earlier : Nat} (hle : earlier ≤ consumed) (h : consumed < size input) :
    ∃ mid rest, (fromConsumed input earlier).value = some ⟨mid ++ rest⟩ ∧
      (fromConsumed input consumed).value = some ⟨rest⟩ := by
  obtain ⟨before, rest, hinput, hbefore, hleft⟩ := exists_left (Nat.lt_of_le_of_lt hle h)
  obtain ⟨before', rest', hinput', hbefore', hleft'⟩ := exists_left h
  have hplaces : size before ≤ size before' := by
    rw [hbefore, hbefore']
    exact floorBoundary_mono input hle
  obtain ⟨mid, -, hmid⟩ := exists_between (hinput.symm.trans hinput') hplaces
  exact ⟨mid, rest', by rw [hleft, hmid], hleft'⟩

theorem drop_suffix_left {before rest : String} (hinput : input = before ++ rest)
    (hbefore : size before ≤ consumed) : (bytes input).drop consumed <:+ bytes rest := by
  obtain ⟨more, rfl⟩ := Nat.exists_eq_add_of_le hbefore
  rw [hinput, bytes_append, size, List.drop_length_add_append]
  exact List.drop_suffix more (bytes rest)

end

/-! ## Top theorem -/

/-- **What is left of an input**: nothing once all bytes are consumed, and else the text behind the last boundary
that is not past them. -/
theorem fromConsumed_rest (input : String) (consumed : Nat) :
    let left := fun n => (fromConsumed input n).value
    (left consumed = none ↔ size input ≤ consumed) ∧
    (consumed < size input → ∃ before rest,
      left consumed = some ⟨rest⟩ ∧ input = before ++ rest ∧ rest ≠ "" ∧
      IsGreatest {m | IsBoundary input m ∧ m ≤ consumed} (size before) ∧ consumed ≤ size before + 3 ∧
      (IsBoundary input consumed → size before = consumed) ∧
      left (size before) = left consumed ∧
      (bytes input).drop consumed <:+ bytes rest) ∧
    ∀ earlier ≤ consumed, consumed < size input →
      ∃ mid rest, left earlier = some ⟨mid ++ rest⟩ ∧ left consumed = some ⟨rest⟩ := by
  intro left
  refine ⟨fromConsumed_eq_none_iff input consumed, ?_, ?_⟩
  · intro h
    obtain ⟨before, rest, hinput, hbefore, hleft⟩ := exists_left h
    have hgreatest := isGreatest_floorBoundary input consumed
    have hthree := le_floorBoundary_add_three (Nat.le_of_lt h)
    have hsame := value_floorBoundary h
    rw [← hbefore] at hgreatest hthree hsame
    have hle : size before ≤ consumed := hgreatest.1.2
    refine ⟨before, rest, hleft, hinput, left_ne_empty h hinput hle, hgreatest, hthree, ?_, hsame,
      drop_suffix_left hinput hle⟩
    intro hconsumed
    rw [hbefore, floorBoundary_of_isBoundary hconsumed]
  · intro earlier hle h
    exact exists_between_left hle h

/-- Inside a character of four bytes all of it is left, and behind it nothing of it. -/
theorem fromConsumed_rest_inside :
    let input := "a😀b"
    2 ≤ 4 ∧ 4 < size input ∧ 5 < size input ∧ IsBoundary input 5 ∧
      (∃ before rest, input = before ++ rest ∧ size before = 1 ∧
        (fromConsumed input 4).value = some ⟨rest⟩ ∧ (fromConsumed input 1).value = some ⟨rest⟩) ∧
      (∃ before rest, input = before ++ rest ∧ size before = 5 ∧
        (fromConsumed input 5).value = some ⟨rest⟩) ∧
      ∃ mid rest, (fromConsumed input 2).value = some ⟨mid ++ rest⟩ ∧
        (fromConsumed input 4).value = some ⟨rest⟩ := by
  intro input
  have h4 : 4 < size input := by decide
  have h5 : 5 < size input := by decide
  have hbehind : IsBoundary input 5 := ⟨"a😀", "b", rfl, by decide⟩
  have hfloor : floorBoundary (bytes input) 4 = 1 := by decide
  have hinside := isGreatest_floorBoundary input 4
  rw [hfloor] at hinside
  obtain ⟨-, hrest, hearlier⟩ := fromConsumed_rest input 4
  obtain ⟨before, rest, hleft, hinput, -, hgreatest, -, -, hsame, -⟩ := hrest h4
  rw [hgreatest.unique hinside] at hsame
  obtain ⟨-, hrest', -⟩ := fromConsumed_rest input 5
  obtain ⟨before', rest', hleft', hinput', -, -, -, hexact, -⟩ := hrest' h5
  exact ⟨by decide, h4, h5, hbehind,
    ⟨before, rest, hinput, hgreatest.unique hinside, hleft, hsame.trans hleft⟩,
    ⟨before', rest', hinput', hexact hbehind, hleft'⟩, hearlier 2 (by decide) h4⟩

end TrailingInput

end Caret
