import Caret.Text.Lines
import Caret.Text.Utf8

/-!
# Reading the bytes of a text, whole and cut

A character is written as one byte below 0x80, or as a leading byte and the continuation bytes that
complete it (`Completes`, `encodeChar_cases`).  What the reader makes of a written character follows by
induction on `Completes`:

* `decodeFrom_char`: the whole of it reads back;
* `decodeFrom_head`: a part from its start, not all of it, reads as one replacement character;
* `decodeFrom_tail`: a part that lacks its start reads as one replacement character for each byte.

A text cut at a byte below 0x80 falls into two texts (`IsText.of_append_cons`).
-/

namespace Caret.Text

/-! ## Bytes of a character -/

/-- The next byte is one that the pending character may go on with. -/
def Pending.Takes (p : Pending) (b : UInt8) : Prop := 0x80 ≤ p.lo ∧ p.lo ≤ b ∧ b ≤ p.hi ∧ b ≤ 0xBF

/-- The bytes complete the pending character to `c`, and no fewer of them do. -/
inductive Completes : Pending → List UInt8 → Char → Prop
  | last {p : Pending} {b : UInt8} (hn : p.need = 0) (hb : p.Takes b) :
      Completes p [b] (Char.ofNat (p.value * 64 + (b.toNat - 0x80)))
  | more {p : Pending} {b : UInt8} {n : Nat} {bs : List UInt8} {c : Char} (hn : p.need = n + 1)
      (hb : p.Takes b) (h : Completes ⟨p.value * 64 + (b.toNat - 0x80), n, 0x80, 0xBF⟩ bs c) :
      Completes p (b :: bs) c

theorem toNat_ofNat_of_lt (n : Nat) (h : n < 256) : (UInt8.ofNat n).toNat = n := by
  simp [Nat.mod_eq_of_lt h]

/-- The continuation byte that holds the last six bits of `v`. -/
def lowBits (v : Nat) : UInt8 := UInt8.ofNat (v % 64 + 0x80)

theorem toNat_lowBits (v : Nat) : (lowBits v).toNat = v % 64 + 0x80 :=
  toNat_ofNat_of_lt _ (by omega)

theorem takes_lowBits (v value n : Nat) (lo hi : UInt8) (h : 0x80 ≤ lo.toNat)
    (h1 : lo.toNat ≤ v % 64 + 0x80) (h2 : v % 64 + 0x80 ≤ hi.toNat) :
    Pending.Takes ⟨value, n, lo, hi⟩ (lowBits v) := by
  unfold Pending.Takes
  simp only [UInt8.le_iff_toNat_le, toNat_lowBits]
  refine ⟨h, h1, h2, ?_⟩
  show v % 64 + 0x80 ≤ 0xBF
  omega

theorem completes_last (v : Nat) :
    Completes ⟨v / 64, 0, 0x80, 0xBF⟩ [lowBits v] (Char.ofNat v) := by
  have h : v / 64 * 64 + ((lowBits v).toNat - 0x80) = v := by rw [toNat_lowBits]; omega
  have := Completes.last (p := ⟨v / 64, 0, 0x80, 0xBF⟩) rfl
    (takes_lowBits v (v / 64) 0 0x80 0xBF (by decide) (by show 0x80 ≤ _; omega) (by show _ ≤ 0xBF; omega))
  rwa [h] at this

theorem completes_more (v n : Nat) (lo hi : UInt8) (bs : List UInt8) (c : Char) (h : 0x80 ≤ lo.toNat)
    (h1 : lo.toNat ≤ v % 64 + 0x80) (h2 : v % 64 + 0x80 ≤ hi.toNat)
    (hc : Completes ⟨v, n, 0x80, 0xBF⟩ bs c) :
    Completes ⟨v / 64, n + 1, lo, hi⟩ (lowBits v :: bs) c := by
  refine Completes.more rfl (takes_lowBits v (v / 64) (n + 1) lo hi h h1 h2) ?_
  have : v / 64 * 64 + ((lowBits v).toNat - 0x80) = v := by rw [toNat_lowBits]; omega
  rw [this]
  exact hc

theorem begin_two (b : UInt8) (h1 : 0xC2 ≤ b.toNat) (h2 : b.toNat ≤ 0xDF) :
    begin b = ([], some ⟨b.toNat - 0xC0, 0, 0x80, 0xBF⟩) := by
  have h3 : ¬ b.toNat ≤ 127 := by omega
  simp [begin, UInt8.le_iff_toNat_le, h1, h2, h3]

theorem begin_three (b : UInt8) (h1 : 0xE0 ≤ b.toNat) (h2 : b.toNat ≤ 0xEF) :
    begin b = ([], some ⟨b.toNat - 0xE0, 1, if b.toNat = 0xE0 then 0xA0 else 0x80,
      if b.toNat = 0xED then 0x9F else 0xBF⟩) := by
  have h3 : ¬ b.toNat ≤ 127 := by omega
  have h4 : ¬ b.toNat ≤ 223 := by omega
  simp [begin, UInt8.le_iff_toNat_le, ← UInt8.toNat_inj, h1, h2, h3, h4]

theorem begin_four (b : UInt8) (h1 : 0xF0 ≤ b.toNat) (h2 : b.toNat ≤ 0xF4) :
    begin b = ([], some ⟨b.toNat - 0xF0, 2, if b.toNat = 0xF0 then 0x90 else 0x80,
      if b.toNat = 0xF4 then 0x8F else 0xBF⟩) := by
  have h3 : ¬ b.toNat ≤ 127 := by omega
  have h4 : ¬ b.toNat ≤ 223 := by omega
  have h5 : ¬ b.toNat ≤ 239 := by omega
  simp [begin, UInt8.le_iff_toNat_le, ← UInt8.toNat_inj, h1, h2, h3, h4, h5]

theorem begin_ascii {b : UInt8} (hb : b.toNat ≤ 0x7F) : begin b = ([Char.ofNat b.toNat], none) := by
  simp [begin, UInt8.le_iff_toNat_le, hb]

/-- A byte is a character, leads one of two, three or four bytes, or can stand at no start. -/
theorem begin_cases (b : UInt8) :
    b.toNat ≤ 0x7F ∨ (0xC2 ≤ b.toNat ∧ b.toNat ≤ 0xDF) ∨ (0xE0 ≤ b.toNat ∧ b.toNat ≤ 0xEF) ∨
      (0xF0 ≤ b.toNat ∧ b.toNat ≤ 0xF4) ∨ begin b = ([replacement], none) := by
  simp only [begin, Bool.and_eq_true, decide_eq_true_eq, UInt8.le_iff_toNat_le]
  show b.toNat ≤ 0x7F ∨ _
  split
  · next h => exact Or.inl h
  · split
    · next h => exact Or.inr (Or.inl h)
    · split
      · next h => exact Or.inr (Or.inr (Or.inl h))
      · split
        · next h => exact Or.inr (Or.inr (Or.inr (Or.inl h)))
        · exact Or.inr (Or.inr (Or.inr (Or.inr rfl)))

/-- A character is one byte below 0x80, or a leading byte and the bytes that complete it. -/
theorem encodeChar_cases (c : Char) :
    (∃ b, String.utf8EncodeChar c = [b] ∧ b.toNat ≤ 0x7F ∧ Char.ofNat b.toNat = c) ∨
    ∃ b p bs, String.utf8EncodeChar c = b :: bs ∧ 0x80 ≤ b.toNat ∧ begin b = ([], some p) ∧
      Completes p bs c := by
  have hc : Char.ofNat c.val.toNat = c := Char.ofNat_toNat c
  have hv : c.val.toNat < 0xD800 ∨ 0xDFFF < c.val.toNat ∧ c.val.toNat < 0x110000 := c.valid
  unfold String.utf8EncodeChar
  generalize c.val.toNat = v at hc hv
  simp only []
  split
  · left
    have hb : (UInt8.ofNat v).toNat = v := toNat_ofNat_of_lt v (by omega)
    exact ⟨_, rfl, by omega, by rw [hb, hc]⟩
  · right
    split
    · have hb : (UInt8.ofNat (v / 64 % 0x20 + 0xC0)).toNat = v / 64 + 0xC0 := by
        rw [toNat_ofNat_of_lt _ (by omega)]; omega
      refine ⟨_, _, _, rfl, by omega, begin_two _ (by omega) (by omega), ?_⟩
      rw [hb, Nat.add_sub_cancel, ← hc]
      exact completes_last v
    · split
      · have hb : (UInt8.ofNat (v / 4096 % 0x10 + 0xE0)).toNat = v / 64 / 64 + 0xE0 := by
          rw [toNat_ofNat_of_lt _ (by omega)]; omega
        refine ⟨_, _, _, rfl, by omega, begin_three _ (by omega) (by omega), ?_⟩
        rw [hb, Nat.add_sub_cancel, ← hc]
        -- an overlong form or a surrogate would need a second byte outside the range
        refine completes_more (v / 64) 0 _ _ _ _ ?_ ?_ ?_ (completes_last v)
        · split <;> decide
        · split
          · show 0xA0 ≤ _; omega
          · show 0x80 ≤ _; omega
        · split
          · show _ ≤ 0x9F; omega
          · show _ ≤ 0xBF; omega
      · have hb : (UInt8.ofNat (v / 262144 % 0x08 + 0xF0)).toNat = v / 64 / 64 / 64 + 0xF0 := by
          rw [toNat_ofNat_of_lt _ (by omega)]; omega
        have h4096 : v / 4096 = v / 64 / 64 := by omega
        refine ⟨_, _, _, rfl, by omega, begin_four _ (by omega) (by omega), ?_⟩
        rw [hb, Nat.add_sub_cancel, ← hc, h4096]
        refine completes_more (v / 64 / 64) 1 _ _ _ _ ?_ ?_ ?_
          (completes_more (v / 64) 0 0x80 0xBF _ _ (by decide) (by show 0x80 ≤ _; omega)
            (by show _ ≤ 0xBF; omega) (completes_last v))
        · split <;> decide
        · split
          · show 0x90 ≤ _; omega
          · show 0x80 ≤ _; omega
        · split
          · show _ ≤ 0x8F; omega
          · show _ ≤ 0xBF; omega

theorem isContinuation_of_completes {p : Pending} {bs : List UInt8} {c : Char}
    (h : Completes p bs c) : ∀ b ∈ bs, isContinuation b = true := by
  have takes {p : Pending} {b : UInt8} (hb : p.Takes b) : isContinuation b = true := by
    obtain ⟨h1, h2, -, h3⟩ := hb
    simp only [isContinuation, Bool.and_eq_true, decide_eq_true_eq]
    exact ⟨UInt8.le_trans h1 h2, h3⟩
  induction h with
  | last hn hb => simpa using takes hb
  | more hn hb _ ih =>
    intro b hm
    rcases List.mem_cons.1 hm with rfl | hm
    · exact takes hb
    · exact ih b hm

/-- All bytes of a character but the first continue it. -/
theorem isContinuation_of_mem_tail {c : Char} {b : UInt8} (hb : b ∈ (String.utf8EncodeChar c).tail) :
    isContinuation b = true := by
  rcases encodeChar_cases c with ⟨b', he, -⟩ | ⟨b', p, bs, he, -, -, h⟩
  · rw [he] at hb
    cases hb
  · rw [he] at hb
    exact isContinuation_of_completes h b hb

/-! ## Reading a character -/

@[simp] theorem decodeFrom_nil : decodeFrom none [] = [] := rfl

theorem decodeFrom_cons (p : Option Pending) (b : UInt8) (bs : List UInt8) :
    decodeFrom p (b :: bs) = (step p b).1 ++ decodeFrom (step p b).2 bs := by
  cases p <;> rfl

theorem step_last {p : Pending} {b : UInt8} (hn : p.need = 0) (hb : p.Takes b) :
    step (some p) b = ([Char.ofNat (p.value * 64 + (b.toNat - 0x80))], none) := by
  obtain ⟨-, h1, h2, -⟩ := hb
  simp [step, h1, h2, hn]

theorem step_more {p : Pending} {b : UInt8} {n : Nat} (hn : p.need = n + 1) (hb : p.Takes b) :
    step (some p) b = ([], some ⟨p.value * 64 + (b.toNat - 0x80), n, 0x80, 0xBF⟩) := by
  obtain ⟨-, h1, h2, -⟩ := hb
  simp [step, h1, h2, hn]

/-- The bytes read next cannot go on with any character: there are none, or the first is below 0x80. -/
def Clean (bs : List UInt8) : Prop := ∀ b ∈ bs.head?, b.toNat ≤ 0x7F

theorem decodeFrom_pending_clean {p : Pending} (hp : 0x80 ≤ p.lo) {t : List UInt8} (ht : Clean t) :
    decodeFrom (some p) t = replacement :: decodeFrom none t := by
  cases t with
  | nil => rfl
  | cons b t =>
    have hb : b.toNat ≤ 0x7F := ht b rfl
    have hlo : ¬ p.lo ≤ b := by
      rw [UInt8.le_iff_toNat_le] at hp ⊢
      have : (0x80 : UInt8).toNat = 0x80 := rfl
      omega
    simp [decodeFrom_cons, step, hlo]

theorem decodeFrom_completes {p : Pending} {bs : List UInt8} {c : Char} (h : Completes p bs c)
    (t : List UInt8) : decodeFrom (some p) (bs ++ t) = c :: decodeFrom none t := by
  induction h with
  | last hn hb => simp [decodeFrom_cons, step_last hn hb]
  | more hn hb _ ih => rw [List.cons_append, decodeFrom_cons, step_more hn hb, ih]; rfl

theorem decodeFrom_completes_cut {p : Pending} {bs : List UInt8} {c : Char} (h : Completes p bs c)
    (n : Nat) (hn : n < bs.length) {t : List UInt8} (ht : Clean t) :
    decodeFrom (some p) (bs.take n ++ t) = replacement :: decodeFrom none t := by
  induction h generalizing n with
  | last hn' hb =>
    obtain rfl : n = 0 := by simpa using hn
    exact decodeFrom_pending_clean hb.1 ht
  | more hn' hb h ih =>
    cases n with
    | zero => exact decodeFrom_pending_clean hb.1 ht
    | succ n =>
      rw [List.take_succ_cons, List.cons_append, decodeFrom_cons, step_more hn' hb,
        ih n (Nat.lt_of_succ_lt_succ hn)]
      rfl

theorem begin_continuation {b : UInt8} (hb : isContinuation b = true) :
    begin b = ([replacement], none) := by
  simp only [isContinuation, Bool.and_eq_true, decide_eq_true_eq, UInt8.le_iff_toNat_le] at hb
  obtain ⟨h1, h2⟩ := hb
  have h1 : 128 ≤ b.toNat := h1
  have h2 : b.toNat ≤ 191 := h2
  simp [begin, UInt8.le_iff_toNat_le, show ¬ b.toNat ≤ 127 by omega, show ¬ 194 ≤ b.toNat by omega,
    show ¬ 224 ≤ b.toNat by omega, show ¬ 240 ≤ b.toNat by omega]

theorem decodeFrom_continuations (bs t : List UInt8) (h : ∀ b ∈ bs, isContinuation b = true) :
    decodeFrom none (bs ++ t) = List.replicate bs.length replacement ++ decodeFrom none t := by
  induction bs with
  | nil => rfl
  | cons b bs ih =>
    have hs : step none b = ([replacement], none) := begin_continuation (h b List.mem_cons_self)
    rw [List.cons_append, decodeFrom_cons, hs, ih fun b hb => h b (List.mem_cons_of_mem _ hb)]
    rfl

/-- A whole character reads back. -/
theorem decodeFrom_char (c : Char) (t : List UInt8) :
    decodeFrom none (String.utf8EncodeChar c ++ t) = c :: decodeFrom none t := by
  rcases encodeChar_cases c with ⟨b, he, hb, hc⟩ | ⟨b, p, bs, he, -, hs, h⟩
  · rw [he, List.singleton_append, decodeFrom_cons, show step none b = _ from begin_ascii hb, hc]
    rfl
  · rw [he, List.cons_append, decodeFrom_cons, show step none b = _ from hs,
      ← decodeFrom_completes h t]
    rfl

/-- A character without its last bytes reads as one replacement. -/
theorem decodeFrom_head (c : Char) (n : Nat) (h0 : 0 < n) (hn : n < c.utf8Size) {t : List UInt8}
    (ht : Clean t) :
    decodeFrom none ((String.utf8EncodeChar c).take n ++ t) = replacement :: decodeFrom none t := by
  rw [← String.length_utf8EncodeChar] at hn
  obtain ⟨n, rfl⟩ : ∃ m, n = m + 1 := ⟨n - 1, by omega⟩
  rcases encodeChar_cases c with ⟨b, he, -⟩ | ⟨b, p, bs, he, -, hs, h⟩
  · rw [he] at hn
    simp at hn
  · rw [he, List.length_cons] at hn
    rw [he, List.take_succ_cons, List.cons_append, decodeFrom_cons, show step none b = _ from hs,
      ← decodeFrom_completes_cut h n (by omega) ht]
    rfl

/-- A character without its first bytes reads as one replacement for each byte that is left. -/
theorem decodeFrom_tail (c : Char) (m n : Nat) (hm : 0 < m) (t : List UInt8) :
    decodeFrom none (((String.utf8EncodeChar c).take n).drop m ++ t) =
      List.replicate (min n c.utf8Size - m) replacement ++ decodeFrom none t := by
  have hl : (((String.utf8EncodeChar c).take n).drop m).length = min n c.utf8Size - m := by simp
  rw [decodeFrom_continuations, hl]
  intro b hb
  apply isContinuation_of_mem_tail (c := c)
  obtain ⟨m, rfl⟩ : ∃ k, m = k + 1 := ⟨m - 1, by omega⟩
  rw [← List.drop_one]
  rw [List.drop_take, Nat.add_comm m, ← List.drop_drop] at hb
  exact List.mem_of_mem_drop (List.mem_of_mem_take hb)

theorem decode_encode (cs : List Char) : decode (encode cs) = cs := by
  induction cs with
  | nil => rfl
  | cons c cs ih =>
    rw [decode] at ih ⊢
    rw [encode_cons, decodeFrom_char, ih]

/-! ## Texts among byte sequences -/

/-- The bytes are those of some characters. -/
def IsText (bs : List UInt8) : Prop := ∃ cs, encode cs = bs

theorem isText_bytes (s : String) : IsText (bytes s) := ⟨s.toList, rfl⟩

theorem encodeChar_of_mem {c : Char} {b : UInt8} (h : b ∈ String.utf8EncodeChar c)
    (hb : b.toNat ≤ 0x7F) : String.utf8EncodeChar c = [b] := by
  rcases encodeChar_cases c with ⟨b', he, -⟩ | ⟨b', p, bs, he, hb', -, hp⟩
  · rw [he] at h ⊢
    rw [List.mem_singleton.1 h]
  · rw [he] at h
    rcases List.mem_cons.1 h with rfl | h
    · omega
    · have := isContinuation_of_completes hp b h
      simp only [isContinuation, Bool.and_eq_true, decide_eq_true_eq] at this
      have : 0x80 ≤ b.toNat := UInt8.le_iff_toNat_le.1 this.1
      omega

/-- A text falls into two at a byte below 0x80. -/
theorem IsText.of_append_cons {xs ys : List UInt8} {b : UInt8} (h : IsText (xs ++ b :: ys))
    (hb : b.toNat ≤ 0x7F) : IsText xs ∧ IsText ys := by
  obtain ⟨cs, h⟩ := h
  induction cs generalizing xs with
  | nil => simp at h
  | cons c cs ih =>
    rw [encode_cons] at h
    by_cases hx : (String.utf8EncodeChar c).length ≤ xs.length
    · -- the first character stands before the cut
      obtain ⟨zs, rfl⟩ : ∃ zs, xs = String.utf8EncodeChar c ++ zs := by
        have := List.prefix_of_prefix_length_le (List.prefix_append (String.utf8EncodeChar c) (encode cs))
          (h ▸ List.prefix_append xs (b :: ys)) hx
        exact ⟨_, this.choose_spec.symm⟩
      rw [List.append_assoc, List.append_cancel_left_eq] at h
      obtain ⟨⟨ds, hd⟩, hy⟩ := ih h
      exact ⟨⟨c :: ds, by rw [encode_cons, hd]⟩, hy⟩
    · -- the cut is in the first character, which has no such byte unless it is one
      have hm : b ∈ String.utf8EncodeChar c := by
        have := congrArg (·[xs.length]?) h
        simp only [List.getElem?_append_right (Nat.le_refl _), Nat.sub_self,
          List.getElem?_cons_zero, List.getElem?_append_left (Nat.lt_of_not_le hx)] at this
        exact List.mem_of_getElem? this
      rw [encodeChar_of_mem hm hb] at h hx
      obtain rfl : xs = [] := by
        rw [List.length_singleton] at hx
        exact List.eq_nil_of_length_eq_zero (by omega)
      simp only [List.singleton_append, List.nil_append, List.cons.injEq, true_and] at h
      exact ⟨⟨[], rfl⟩, ⟨cs, h⟩⟩

/-! ## Newlines -/

/-- What has been read of a pending character is too large for it to become a newline. -/
def Pending.Large (p : Pending) : Prop := 1 ≤ p.value ∨ 0 < p.need ∧ 0x90 ≤ p.lo.toNat

theorem eq_ten_of_ofNat {n : Nat} (h : Char.ofNat n = '\n') : n = 10 := by
  by_cases hn : n.isValidChar
  · have : Char.ofNat n = Char.ofNatAux n hn := dif_pos hn
    rw [this] at h
    exact congrArg Char.toNat h
  · have : Char.ofNat n = '\x00' := dif_neg hn
    rw [this] at h
    exact absurd h (by decide)

theorem newline_notMem_begin {b : UInt8} (hb : b ≠ newline) : '\n' ∉ (begin b).1 := by
  rcases begin_cases b with h | h | h | h | h
  · rw [begin_ascii h]
    intro hm
    have := eq_ten_of_ofNat (List.mem_singleton.1 hm).symm
    exact hb (UInt8.toNat_inj.1 this)
  · rw [begin_two b h.1 h.2]; exact List.not_mem_nil
  · rw [begin_three b h.1 h.2]; exact List.not_mem_nil
  · rw [begin_four b h.1 h.2]; exact List.not_mem_nil
  · rw [h]; decide

theorem large_begin {b : UInt8} {p : Pending} (hp : (begin b).2 = some p) : p.Large := by
  rcases begin_cases b with h | h | h | h | h
  · rw [begin_ascii h] at hp; cases hp
  · rw [begin_two b h.1 h.2] at hp
    rw [← Option.some.inj hp]
    exact Or.inl (by show 1 ≤ b.toNat - 0xC0; omega)
  · rw [begin_three b h.1 h.2] at hp
    rw [← Option.some.inj hp]
    by_cases he : b.toNat = 0xE0
    · exact Or.inr (by simp [he])
    · exact Or.inl (by show 1 ≤ b.toNat - 0xE0; omega)
  · rw [begin_four b h.1 h.2] at hp
    rw [← Option.some.inj hp]
    by_cases he : b.toNat = 0xF0
    · exact Or.inr (by simp [he])
    · exact Or.inl (by show 1 ≤ b.toNat - 0xF0; omega)
  · rw [h] at hp; cases hp

/-- One byte that is no newline completes none, and what it leaves pending is large again. -/
theorem newline_notMem_step {q : Option Pending} {b : UInt8} (hq : ∀ p, q = some p → p.Large)
    (hb : b ≠ newline) :
    '\n' ∉ (step q b).1 ∧ ∀ p, (step q b).2 = some p → p.Large := by
  cases q with
  | none => exact ⟨newline_notMem_begin hb, fun _ => large_begin⟩
  | some p =>
    have hp := hq p rfl
    unfold step
    simp only []
    split
    · next h =>
      rw [Bool.and_eq_true, decide_eq_true_eq, decide_eq_true_eq, UInt8.le_iff_toNat_le] at h
      -- at least 64 once the byte is added, and never less after it
      have hv : 0 < p.need ∨ 64 ≤ p.value * 64 + (b.toNat - 0x80) := by
        rcases hp with hp | hp <;> omega
      have hl : 1 ≤ p.value * 64 + (b.toNat - 0x80) := by
        rcases hp with hp | hp <;> omega
      split
      · next hn =>
        refine ⟨fun hm => ?_, fun _ e => by cases e⟩
        have := eq_ten_of_ofNat (List.mem_singleton.1 hm).symm
        omega
      · refine ⟨List.not_mem_nil, fun _ e => ?_⟩
        rw [← Option.some.inj e]
        exact Or.inl hl
    · refine ⟨fun hm => ?_, fun _ => large_begin⟩
      rcases List.mem_cons.1 hm with hm | hm
      · exact absurd hm (by decide)
      · exact newline_notMem_begin hb hm

/-- No reading of bytes brings a newline that was not among them. -/
theorem newline_notMem_decode {bs : List UInt8} (h : newline ∉ bs) : '\n' ∉ decode bs := by
  suffices hs : ∀ q : Option Pending, (∀ p, q = some p → p.Large) → '\n' ∉ decodeFrom q bs from
    hs none fun _ e => by cases e
  induction bs with
  | nil =>
    intro q _
    cases q with
    | none => exact List.not_mem_nil
    | some p => show '\n' ∉ [replacement]; decide
  | cons b bs ih =>
    intro q hq
    obtain ⟨hb, h⟩ := List.ne_and_not_mem_of_not_mem_cons h
    obtain ⟨h1, h2⟩ := newline_notMem_step hq (Ne.symm hb)
    rw [decodeFrom_cons, List.mem_append, not_or]
    exact ⟨h1, ih h _ h2⟩

end Caret.Text
