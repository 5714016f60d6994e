import Caret.Proofs.Utf8

/-!
# Part of the bytes of a text

The bytes from `lo` to `hi` of a text need not be text: `lo` and `hi` can each fall inside a character.
With every character placed at its offsets (`placeChars`) the part reads as (`decodeFrom_slice`):

* one replacement for each of its bytes that belong to a character begun before it (`orphanBytes`, three
  at most),
* the characters that lie wholly in it (`keptChars`),
* one replacement if a character begins in it and ends after it (`splitsAt`).
-/

namespace Caret.Text

/-- A character of a text and the offsets where its bytes start and stop. -/
structure Placed where
  char : Char
  start : Nat
  stop : Nat
deriving DecidableEq

/-- Places characters one after the other from an offset. -/
def placeChars (o : Nat) : List Char → List Placed
  | [] => []
  | c :: cs => ⟨c, o, o + c.utf8Size⟩ :: placeChars (o + c.utf8Size) cs

/-- The bytes from `lo` to `hi` that belong to characters begun before `lo`. -/
def orphanBytes (lo hi : Nat) : List Placed → Nat
  | [] => 0
  | p :: ps => (if p.start < lo then min hi p.stop - lo else 0) + orphanBytes lo hi ps

/-- The characters that lie wholly between `lo` and `hi`. -/
def keptChars (lo hi : Nat) (ps : List Placed) : List Char :=
  (ps.filter fun p => lo ≤ p.start && p.stop ≤ hi).map (·.char)

/-- Whether a character begins between `lo` and `hi` and ends after `hi`. -/
def splitsAt (lo hi : Nat) (ps : List Placed) : Bool :=
  ps.any fun p => lo ≤ p.start && p.start < hi && hi < p.stop

/-! ## One character after the other -/

section
variable (lo hi : Nat) (p : Placed) (ps : List Placed)

theorem keptChars_cons : keptChars lo hi (p :: ps) =
    (if lo ≤ p.start ∧ p.stop ≤ hi then [p.char] else []) ++ keptChars lo hi ps := by
  unfold keptChars
  by_cases h : lo ≤ p.start ∧ p.stop ≤ hi
  · simp [h]
  · have : (decide (lo ≤ p.start) && decide (p.stop ≤ hi)) = false := by simpa using h
    simp [this, h]

theorem splitsAt_cons : splitsAt lo hi (p :: ps) =
    (decide (lo ≤ p.start ∧ p.start < hi ∧ hi < p.stop) || splitsAt lo hi ps) := by
  simp [splitsAt, Bool.and_assoc]

end

theorem start_of_mem_placeChars {o : Nat} {cs : List Char} {p : Placed} (h : p ∈ placeChars o cs) :
    o ≤ p.start ∧ p.start < p.stop := by
  induction cs generalizing o with
  | nil => cases h
  | cons c cs ih =>
    have hz := c.utf8Size_pos
    rcases List.mem_cons.1 h with rfl | h
    · exact ⟨Nat.le_refl o, Nat.lt_add_of_pos_right hz⟩
    · have := ih h
      exact ⟨by omega, this.2⟩

/-- Past `lo` no character has begun before it. -/
theorem orphanBytes_of_le (lo hi o : Nat) (cs : List Char) (h : lo ≤ o) :
    orphanBytes lo hi (placeChars o cs) = 0 := by
  induction cs generalizing o with
  | nil => rfl
  | cons c cs ih => rw [placeChars, orphanBytes, if_neg (Nat.not_lt.2 h), ih _ (by omega)]

/-- From `hi` on there is nothing to keep. -/
theorem keptChars_of_le (lo hi o : Nat) (cs : List Char) (h : hi ≤ o) :
    keptChars lo hi (placeChars o cs) = [] := by
  rw [keptChars, List.map_eq_nil_iff, List.filter_eq_nil_iff]
  intro p hp
  have := start_of_mem_placeChars hp
  simp only [Bool.and_eq_true, decide_eq_true_eq]
  omega

theorem splitsAt_of_le (lo hi o : Nat) (cs : List Char) (h : hi ≤ o) :
    splitsAt lo hi (placeChars o cs) = false := by
  rw [splitsAt, List.any_eq_false]
  intro p hp
  have := start_of_mem_placeChars hp
  simp only [Bool.and_eq_true, decide_eq_true_eq]
  omega

/-- At most one character is cut at `lo`, and it keeps its last three bytes at most. -/
theorem orphanBytes_le (lo hi o : Nat) (cs : List Char) : orphanBytes lo hi (placeChars o cs) ≤ 3 := by
  induction cs generalizing o with
  | nil => exact Nat.zero_le 3
  | cons c cs ih =>
    have hz := c.utf8Size_le_four
    rw [placeChars, orphanBytes]
    by_cases h : lo ≤ o + c.utf8Size
    · rw [orphanBytes_of_le lo hi _ cs h]
      simp only []
      split <;> omega
    · have := ih (o + c.utf8Size)
      simp only []
      split <;> omega

/-! ## Reading a part -/

theorem slice_cons (c : Char) (cs : List Char) (lo hi o : Nat) :
    ((encode (c :: cs)).take (hi - o)).drop (lo - o) =
      ((String.utf8EncodeChar c).take (hi - o)).drop (lo - o) ++
        ((encode cs).take (hi - (o + c.utf8Size))).drop (lo - (o + c.utf8Size)) := by
  rw [encode_cons, List.take_append, List.drop_append, List.length_take, String.length_utf8EncodeChar,
    ← Nat.sub_sub, ← Nat.sub_sub]
  by_cases h : c.utf8Size ≤ hi - o
  · rw [Nat.min_eq_right h]
  · -- nothing is taken after the first character
    rw [show hi - o - c.utf8Size = 0 by omega]
    simp

/-- What the bytes from `lo` to `hi` of a text placed at `o` read as. -/
theorem decodeFrom_slice (cs : List Char) (lo hi o : Nat) (h : lo ≤ hi) {t : List UInt8}
    (ht : Clean t) :
    decodeFrom none (((encode cs).take (hi - o)).drop (lo - o) ++ t) =
      List.replicate (orphanBytes lo hi (placeChars o cs)) replacement ++
        keptChars lo hi (placeChars o cs) ++
        (if splitsAt lo hi (placeChars o cs) then [replacement] else []) ++ decodeFrom none t := by
  induction cs generalizing o with
  | nil => simp [placeChars, orphanBytes, keptChars, splitsAt]
  | cons c cs ih =>
    have hz := c.utf8Size_pos
    have ih := ih (o + c.utf8Size)
    rw [slice_cons, List.append_assoc, placeChars, orphanBytes, keptChars_cons, splitsAt_cons]
    simp only []
    by_cases h1 : o < lo
    · -- begun before `lo`: only its bytes from `lo` on are read
      have hm : min (hi - o) c.utf8Size - (lo - o) = min hi (o + c.utf8Size) - lo := by omega
      rw [decodeFrom_tail c (lo - o) (hi - o) (by omega), ih, if_pos h1,
        if_neg (show ¬ (lo ≤ o ∧ o + c.utf8Size ≤ hi) by omega),
        decide_eq_false (show ¬ (lo ≤ o ∧ o < hi ∧ hi < o + c.utf8Size) by omega), Bool.false_or,
        hm, ← List.replicate_append_replicate]
      simp only [List.append_assoc, List.nil_append]
    · rw [show lo - o = 0 by omega, List.drop_zero, if_neg h1, Nat.zero_add,
        orphanBytes_of_le lo hi _ cs (by omega)]
      rw [orphanBytes_of_le lo hi _ cs (by omega)] at ih
      by_cases h2 : o + c.utf8Size ≤ hi
      · -- wholly inside
        rw [List.take_of_length_le (by rw [String.length_utf8EncodeChar]; omega), decodeFrom_char, ih,
          if_pos (show lo ≤ o ∧ o + c.utf8Size ≤ hi by omega),
          decide_eq_false (show ¬ (lo ≤ o ∧ o < hi ∧ hi < o + c.utf8Size) by omega), Bool.false_or]
        simp
      · -- at or across `hi`: nothing after it is read
        rw [show hi - (o + c.utf8Size) = 0 by omega, List.take_zero, List.drop_nil, List.nil_append,
          if_neg (show ¬ (lo ≤ o ∧ o + c.utf8Size ≤ hi) by omega),
          keptChars_of_le lo hi _ cs (by omega), splitsAt_of_le lo hi _ cs (by omega), Bool.or_false]
        by_cases h3 : o < hi
        · rw [decodeFrom_head c (hi - o) (by omega) (by omega) ht,
            decide_eq_true (show lo ≤ o ∧ o < hi ∧ hi < o + c.utf8Size by omega)]
          rfl
        · rw [show hi - o = 0 by omega, List.take_zero, List.nil_append,
            decide_eq_false (show ¬ (lo ≤ o ∧ o < hi ∧ hi < o + c.utf8Size) by omega)]
          rfl

end Caret.Text
