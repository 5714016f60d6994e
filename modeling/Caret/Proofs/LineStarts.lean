import Caret.Location
import Mathlib.Data.List.TakeWhile

/-!
# Where lines start

The true start of a line (`lineStart`) counts newlines in the bytes; the accounted one (`extent`) adds
up the lines scanned before it, one byte for each line's end.  The two differ by one byte for every
carriage return dropped before a newline (`returnPairs`).

* `lineStart_le_iff`: a line starts at or before an offset exactly when that many newlines stand
  before the offset.
* `extent_add_returnPairs`: the accounted start, the pairs before the true start, and the true start.
* `getElem?_scanLines`: a scanned line is what stands between its true start and the next newline.
* `scanLines_of_nextLine?`: scanned lines are those taken off one at a time.

All of these go by `lines_induction`: a byte sequence is one line without a newline, or such a line,
a newline, and a byte sequence again.
-/

namespace Caret.Text

/-! ## Counting -/

/-- The offset just past the `n`-th newline; the end where there are fewer. -/
def lineStart : Nat → List UInt8 → Nat
  | 0, _ => 0
  | _ + 1, [] => 0
  | n + 1, b :: bs => 1 + lineStart (if b = newline then n else n + 1) bs

/-- How many newlines stand right after a carriage return. -/
def returnPairs : List UInt8 → Nat
  | a :: b :: bs =>
    (if a = carriageReturn ∧ b = newline then 1 else 0) + returnPairs (b :: bs)
  | _ => 0

/-- The bytes accounted for lines: one more than its length for each. -/
def extent : List (List UInt8) → Nat
  | [] => 0
  | l :: ls => l.length + 1 + extent ls

/-! ## Lines, one after the other -/

/-- Every byte sequence is a last line, or a line, a newline and a byte sequence. -/
@[elab_as_elim]
theorem lines_induction {P : List UInt8 → Prop} (last : ∀ r, newline ∉ r → P r)
    (line : ∀ r rest, newline ∉ r → P rest → P (r ++ newline :: rest)) (bs : List UInt8) : P bs := by
  -- what is read of the current line is kept in `r`
  suffices h : ∀ r, newline ∉ r → P (r ++ bs) from h [] List.not_mem_nil
  induction bs with
  | nil => intro r hr; rw [List.append_nil]; exact last r hr
  | cons b bs ih =>
    intro r hr
    by_cases hb : b = newline
    · subst hb
      exact line r bs hr (ih [] List.not_mem_nil)
    · rw [List.append_cons]
      apply ih
      simp only [List.mem_append, List.mem_singleton, not_or]
      constructor
      · exact hr
      · intro h
        exact hb h.symm

theorem rawLines_last (r : List UInt8) (hr : newline ∉ r) :
    rawLines r = if r = [] then [] else [r] := by
  induction r with
  | nil => rfl
  | cons b r ih =>
    obtain ⟨hb, hr⟩ := List.ne_and_not_mem_of_not_mem_cons hr
    rw [rawLines, if_neg (Ne.symm hb), ih hr]
    cases r <;> simp

theorem rawLines_line (r rest : List UInt8) (hr : newline ∉ r) :
    rawLines (r ++ newline :: rest) = r :: rawLines rest := by
  induction r with
  | nil => simp [rawLines]
  | cons b r ih =>
    obtain ⟨hb, hr⟩ := List.ne_and_not_mem_of_not_mem_cons hr
    rw [List.cons_append, rawLines, if_neg (Ne.symm hb), ih hr]

theorem scanLines_line (r rest : List UInt8) (hr : newline ∉ r) :
    scanLines (r ++ newline :: rest) = stripReturn r :: scanLines rest := by
  rw [scanLines, rawLines_line r rest hr, List.map_cons, ← scanLines]

theorem scanLines_eq_nil_iff {bs : List UInt8} : scanLines bs = [] ↔ bs = [] := by
  rw [scanLines, List.map_eq_nil_iff, rawLines_eq_nil_iff]

theorem length_scanLines (bs : List UInt8) : (scanLines bs).length = (rawLines bs).length :=
  List.length_map _

/-- Each newline ends a line, and there is one more line where something stands behind the last newline. -/
theorem length_scanLines_eq (bs : List UInt8) :
    (scanLines bs).length =
      bs.count newline + if bs = [] ∨ bs.getLast? = some newline then 0 else 1 := by
  rw [length_scanLines]
  induction bs using lines_induction with
  | last r hr =>
    have hlast : r.getLast? ≠ some newline := fun h => hr (List.mem_of_getLast? h)
    rw [rawLines_last r hr, List.count_eq_zero.2 hr]
    by_cases hempty : r = []
    · simp [hempty]
    · simp [hempty, hlast]
  | line r rest hr ih =>
    have hlast : (r ++ newline :: rest = [] ∨ (r ++ newline :: rest).getLast? = some newline) ↔
        (rest = [] ∨ rest.getLast? = some newline) := by
      rw [List.getLast?_append, List.getLast?_cons]
      cases h : rest.getLast? with
      | none => simp [List.getLast?_eq_none_iff.1 h]
      | some b =>
        have hne : rest ≠ [] := by
          rintro rfl
          cases h
        simp [hne]
    rw [rawLines_line r rest hr, List.length_cons, ih, List.count_append, List.count_cons_self,
      List.count_eq_zero.2 hr]
    simp only [hlast]
    omega

theorem length_scanLines_le (bs : List UInt8) :
    (scanLines bs).length ≤ bs.count newline + 1 := by
  rw [length_scanLines_eq]
  split <;> omega

theorem count_take_last (r : List UInt8) (hr : newline ∉ r) (n : Nat) :
    (r.take n).count newline = 0 := by
  apply List.count_eq_zero.2
  intro hm
  exact hr (List.mem_of_mem_take hm)

/-! ## One line at a time -/

theorem findIdx?_last (r : List UInt8) (hr : newline ∉ r) : r.findIdx? (· == newline) = none := by
  rw [List.findIdx?_eq_none_iff]
  intro b hb
  rw [beq_eq_false_iff_ne]
  rintro rfl
  exact hr hb

theorem findIdx?_line (r rest : List UInt8) (hr : newline ∉ r) :
    (r ++ newline :: rest).findIdx? (· == newline) = some r.length := by
  rw [List.findIdx?_append, findIdx?_last r hr, List.findIdx?_cons]
  simp

theorem nextLine?_nil : nextLine? [] = none := rfl

theorem nextLine?_last (r : List UInt8) (hr : newline ∉ r) (hne : r ≠ []) :
    nextLine? r = some (stripReturn r, []) := by
  rw [nextLine?, if_neg hne, findIdx?_last r hr]

theorem nextLine?_line (r rest : List UInt8) (hr : newline ∉ r) :
    nextLine? (r ++ newline :: rest) = some (stripReturn r, rest) := by
  rw [nextLine?, if_neg (by simp), findIdx?_line r rest hr]
  simp only []
  rw [List.take_left, List.drop_length_add_append]
  rfl

/-- The line taken off is the first of those scanned, and the others are scanned from what is left. -/
theorem scanLines_of_nextLine? {left line rest : List UInt8} (h : nextLine? left = some (line, rest)) :
    scanLines left = line :: scanLines rest := by
  induction left using lines_induction with
  | last r hr =>
    have hne : r ≠ [] := by
      rintro rfl
      cases h
    rw [nextLine?_last r hr hne] at h
    obtain ⟨rfl, rfl⟩ := Prod.mk.inj (Option.some.inj h)
    rw [scanLines, rawLines_last r hr, if_neg hne]
    rfl
  | line r after hr =>
    rw [nextLine?_line r after hr] at h
    obtain ⟨rfl, rfl⟩ := Prod.mk.inj (Option.some.inj h)
    exact scanLines_line r after hr

/-! ## True starts -/

@[simp] theorem lineStart_zero (bs : List UInt8) : lineStart 0 bs = 0 := by
  cases bs <;> rfl

theorem lineStart_last (n : Nat) (r : List UInt8) (hr : newline ∉ r) :
    lineStart (n + 1) r = r.length := by
  induction r with
  | nil => rfl
  | cons b r ih =>
    obtain ⟨hb, hr⟩ := List.ne_and_not_mem_of_not_mem_cons hr
    rw [lineStart, if_neg (Ne.symm hb), ih hr, List.length_cons, Nat.add_comm]

theorem lineStart_line (n : Nat) (r rest : List UInt8) (hr : newline ∉ r) :
    lineStart (n + 1) (r ++ newline :: rest) = r.length + 1 + lineStart n rest := by
  induction r with
  | nil => simp [lineStart]
  | cons b r ih =>
    obtain ⟨hb, hr⟩ := List.ne_and_not_mem_of_not_mem_cons hr
    rw [List.cons_append, lineStart, if_neg (Ne.symm hb), ih hr, List.length_cons]
    omega

/-- After the last line there is nothing. -/
theorem lineStart_eq_length (n : Nat) (bs : List UInt8) (h : (scanLines bs).length ≤ n) :
    lineStart n bs = bs.length := by
  rw [length_scanLines] at h
  induction bs using lines_induction generalizing n with
  | last r hr =>
    cases n with
    | zero =>
      have : rawLines r = [] := List.eq_nil_of_length_eq_zero (Nat.le_zero.1 h)
      simp [rawLines_eq_nil_iff.1 this]
    | succ n => exact lineStart_last n r hr
  | line r rest hr ih =>
    rw [rawLines_line r rest hr, List.length_cons] at h
    obtain ⟨n, rfl⟩ : ∃ m, n = m + 1 := ⟨n - 1, by omega⟩
    rw [lineStart_line n r rest hr, ih n (by omega), List.length_append, List.length_cons]
    omega

/-- Every line scanned starts before the end of the text. -/
theorem lineStart_lt_length (n : Nat) (bs : List UInt8) (h : n < (scanLines bs).length) :
    lineStart n bs < bs.length := by
  rw [length_scanLines] at h
  induction bs using lines_induction generalizing n with
  | last r hr =>
    rw [rawLines_last r hr] at h
    split at h
    · simp at h
    · next hne =>
      obtain rfl : n = 0 := by simpa using h
      rw [lineStart_zero]
      exact List.length_pos_iff.2 hne
  | line r rest hr ih =>
    rw [List.length_append, List.length_cons]
    cases n with
    | zero => rw [lineStart_zero]; omega
    | succ n =>
      rw [rawLines_line r rest hr, List.length_cons] at h
      have := ih n (by omega)
      rw [lineStart_line n r rest hr]
      omega

/-- A line starts at or before an offset exactly when enough newlines stand before the offset. -/
theorem lineStart_le_iff (n p : Nat) (bs : List UInt8) (h : p < bs.length) :
    lineStart n bs ≤ p ↔ n ≤ (bs.take p).count newline := by
  induction bs using lines_induction generalizing n p with
  | last r hr =>
    rw [count_take_last r hr p]
    cases n with
    | zero => simp
    | succ n => rw [lineStart_last n r hr]; omega
  | line r rest hr ih =>
    cases n with
    | zero => simp
    | succ n =>
      rw [lineStart_line n r rest hr]
      rw [List.length_append, List.length_cons] at h
      by_cases hp : p ≤ r.length
      · rw [List.take_append_of_le_length hp, count_take_last r hr p]
        omega
      · obtain ⟨q, rfl⟩ : ∃ q, p = r.length + 1 + q := ⟨p - r.length - 1, by omega⟩
        have := ih n q (by omega)
        rw [show r.length + 1 + q = r.length + (q + 1) by omega, List.take_length_add_append,
          List.take_succ_cons, List.count_append, List.count_cons_self, List.count_eq_zero.2 hr]
        omega

/-- What stands before the start of a line that is not the first: a newline ends it. -/
theorem take_lineStart_succ (n : Nat) (bs : List UInt8) (h : n < bs.count newline) :
    ∃ pre, bs.take (lineStart (n + 1) bs) = pre ++ [newline] ∧ pre.count newline = n := by
  induction bs using lines_induction generalizing n with
  | last r hr => rw [List.count_eq_zero.2 hr] at h; omega
  | line r rest hr ih =>
    have hc := List.count_eq_zero.2 hr
    rw [lineStart_line n r rest hr, Nat.add_assoc, Nat.add_comm 1, List.take_length_add_append,
      List.take_succ_cons]
    cases n with
    | zero => exact ⟨r, by simp, hc⟩
    | succ n =>
      rw [List.count_append, List.count_cons_self] at h
      obtain ⟨pre, h1, h2⟩ := ih n (by omega)
      refine ⟨r ++ newline :: pre, by rw [h1]; simp, ?_⟩
      rw [List.count_append, List.count_cons_self, hc, h2]
      omega

/-! ## Accounted starts -/

@[simp] theorem extent_nil : extent [] = 0 := rfl

@[simp] theorem extent_cons (l : List UInt8) (ls : List (List UInt8)) :
    extent (l :: ls) = l.length + 1 + extent ls := rfl

theorem extent_append (ls ms : List (List UInt8)) : extent (ls ++ ms) = extent ls + extent ms := by
  induction ls with
  | nil => simp
  | cons l ls ih => rw [List.cons_append, extent_cons, extent_cons, ih]; omega

/-- Every line counts for one byte at least. -/
theorem length_le_extent (ls : List (List UInt8)) : ls.length ≤ extent ls := by
  induction ls with
  | nil => exact Nat.le_refl 0
  | cons l ls ih => rw [extent_cons, List.length_cons]; omega

theorem extent_take_add_le (ls : List (List UInt8)) (i j : Nat) (hij : i ≤ j) (hj : j ≤ ls.length) :
    extent (ls.take i) + (j - i) ≤ extent (ls.take j) := by
  have h := length_le_extent ((ls.drop i).take (j - i))
  rw [List.length_take, List.length_drop] at h
  have : ls.take j = ls.take i ++ (ls.drop i).take (j - i) := by
    rw [← List.take_add, Nat.add_sub_cancel' hij]
  rw [this, extent_append]
  omega

theorem length_stripReturn (r : List UInt8) :
    (stripReturn r).length + (if r.getLast? = some carriageReturn then 1 else 0) = r.length := by
  unfold stripReturn
  split
  · next h =>
    have hne : r ≠ [] := by
      rintro rfl
      cases h
    have := List.length_pos_iff.2 hne
    rw [List.length_dropLast]
    omega
  · rfl

theorem returnPairs_newline (rest : List UInt8) :
    returnPairs (newline :: rest) = returnPairs rest := by
  cases rest with
  | nil => rfl
  | cons b rest => rw [returnPairs, if_neg (fun h => absurd h.1 (by decide)), Nat.zero_add]

theorem returnPairs_line (r rest : List UInt8) (hr : newline ∉ r) :
    returnPairs (r ++ newline :: rest) =
      (if r.getLast? = some carriageReturn then 1 else 0) + returnPairs rest := by
  induction r with
  | nil => simp [returnPairs_newline]
  | cons a r ih =>
    obtain ⟨-, hr⟩ := List.ne_and_not_mem_of_not_mem_cons hr
    cases r with
    | nil => simp [returnPairs, returnPairs_newline]
    | cons b r =>
      obtain ⟨hb, -⟩ := List.ne_and_not_mem_of_not_mem_cons hr
      have := ih hr
      rw [List.cons_append] at this ⊢
      rw [List.cons_append, returnPairs, if_neg fun h => hb h.2.symm, this, Nat.zero_add,
        List.getLast?_cons_cons]

theorem returnPairs_take_le (n : Nat) (bs : List UInt8) : returnPairs (bs.take n) ≤ returnPairs bs := by
  induction bs generalizing n with
  | nil => simp
  | cons a bs ih =>
    cases bs with
    | nil => cases n <;> simp [returnPairs]
    | cons b bs =>
      match n with
      | 0 => simp [returnPairs]
      | 1 => simp [returnPairs]
      | n + 2 =>
        have := ih (n + 1)
        simp only [List.take_succ_cons, returnPairs] at this ⊢
        omega

/-- The accounted start of a line falls behind its true start by the pairs before it. -/
theorem extent_add_returnPairs (i : Nat) (bs : List UInt8) (h : i ≤ bs.count newline) :
    extent ((scanLines bs).take i) + returnPairs (bs.take (lineStart i bs)) = lineStart i bs := by
  induction bs using lines_induction generalizing i with
  | last r hr =>
    rw [List.count_eq_zero.2 hr] at h
    simp [Nat.le_zero.1 h, returnPairs]
  | line r rest hr ih =>
    cases i with
    | zero => simp [returnPairs]
    | succ i =>
      rw [List.count_append, List.count_cons_self, List.count_eq_zero.2 hr] at h
      have h1 := ih i (by omega)
      have h2 := length_stripReturn r
      rw [lineStart_line i r rest hr, scanLines_line r rest hr, List.take_succ_cons, extent_cons,
        Nat.add_assoc r.length, Nat.add_comm 1, List.take_length_add_append, List.take_succ_cons,
        returnPairs_line r _ hr]
      omega

/-- The accounted start of a line lies before the end of the text. -/
theorem extent_take_lt_length (i : Nat) (bs : List UInt8) (h : i < (scanLines bs).length) :
    extent ((scanLines bs).take i) < bs.length := by
  have hstart := lineStart_lt_length i bs h
  have hcount := length_scanLines_le bs
  have hacc := extent_add_returnPairs i bs (by omega)
  omega

/-! ## What a scanned line is -/

/-- A scanned line is what stands from its true start to the next newline, less one carriage return. -/
theorem getElem?_scanLines (i : Nat) (bs : List UInt8) (h : i < (scanLines bs).length) :
    (scanLines bs)[i]? =
      some (stripReturn ((bs.drop (lineStart i bs)).takeWhile (· != newline))) := by
  have hb {r : List UInt8} (hr : newline ∉ r) : ∀ b ∈ r, (b != newline) = true := by
    intro b hb
    rw [bne_iff_ne]
    rintro rfl
    exact hr hb
  induction bs using lines_induction generalizing i with
  | last r hr =>
    rw [length_scanLines, rawLines_last r hr] at h
    split at h
    · simp at h
    · next hne =>
      obtain rfl : i = 0 := by simpa using h
      simp [scanLines, rawLines_last r hr, hne, List.takeWhile_eq_self_iff.2 (hb hr)]
  | line r rest hr ih =>
    cases i with
    | zero =>
      rw [scanLines_line r rest hr, List.getElem?_cons_zero, lineStart_zero, List.drop_zero,
        List.takeWhile_append_of_pos (hb hr)]
      simp
    | succ i =>
      rw [scanLines_line r rest hr, List.length_cons] at h
      rw [scanLines_line r rest hr, List.getElem?_cons_succ, ih i (by omega),
        lineStart_line i r rest hr, Nat.add_assoc, Nat.add_comm 1, List.drop_length_add_append,
        List.drop_succ_cons]

end Caret.Text
