import Caret.Proofs.LineEnds

/-!
# Lines taken off one by one

A reader takes one line after the other off the bytes that are left (`nextLine?`), and each time drops what stands
behind the line (`Ending`).  `Scans` is a whole run of it, and `Written` says which lines with which endings are
bytes written out; `attach` writes them.

* `scans_iff`: the reader is the inverse of the writer.  It goes by what one step does (`nextLine?_end`), that there
  is one way at least to write the bytes (`exists_written`), and that there is one run at most (`Scans.unique`).
* `Scans.map_fst`: the lines of a run are those of `scanLines`.
-/

namespace Caret.Text

/-! ## Lines and what stands behind them -/

/-- What is dropped behind a line: a line's end or, where the bytes stop, a carriage return or nothing. -/
inductive Ending
  | line (e : LineEnd)
  | loneReturn
  | nothing
deriving DecidableEq

namespace Ending

/-- The bytes of an ending. -/
def bytes : Ending → List UInt8
  | line e => e.bytes
  | loneReturn => [carriageReturn]
  | nothing => []

theorem bytes_injective : Function.Injective bytes := by
  intro a b
  rcases a with (_ | _) | _ | _ <;> rcases b with (_ | _) | _ | _ <;> decide

end Ending

/-- The bytes of lines, each with what stands behind it. -/
def attach : List (List UInt8 × Ending) → List UInt8
  | [] => []
  | (l, e) :: ls => l ++ e.bytes ++ attach ls

/-- Lines with their endings as bytes can be written. Only the last line can be without an end of its own, and an
empty one cannot be without any ending. A carriage return at the end of a line needs another one behind it. -/
inductive Written : List (List UInt8 × Ending) → Prop
  | nil : Written []
  | line {l : List UInt8} {e : LineEnd} {ls : List (List UInt8 × Ending)} (hn : newline ∉ l)
      (hr : e = .newline → l.getLast? ≠ some carriageReturn) (hls : Written ls) :
      Written ((l, .line e) :: ls)
  | loneReturn {l : List UInt8} (hn : newline ∉ l) : Written [(l, .loneReturn)]
  | nothing {l : List UInt8} (hne : l ≠ []) (hn : newline ∉ l)
      (hr : l.getLast? ≠ some carriageReturn) : Written [(l, .nothing)]

/-- A whole run of the reader from the bytes that are left: the lines it takes off until there is none, and what
it drops behind each. -/
inductive Scans : List UInt8 → List (List UInt8 × Ending) → Prop
  | done {left : List UInt8} (h : nextLine? left = none) : Scans left []
  | next {left line rest : List UInt8} {e : Ending} {ls : List (List UInt8 × Ending)}
      (h : nextLine? left = some (line, rest)) (hleft : left = line ++ e.bytes ++ rest)
      (hrest : Scans rest ls) : Scans left ((line, e) :: ls)

/-! ## One step -/

/-- A line is taken off with its end, whatever stands behind it. -/
theorem nextLine?_end (l rest : List UInt8) (e : LineEnd) (hn : newline ∉ l)
    (hr : e = .newline → l.getLast? ≠ some carriageReturn) :
    nextLine? (l ++ e.bytes ++ rest) = some (l, rest) := by
  obtain ⟨r, hnr, rfl, hbytes⟩ := exists_upTo l e hn hr
  rw [hbytes, List.append_assoc, List.singleton_append, nextLine?_line r rest hnr]

theorem eq_nil_of_nextLine? {left : List UInt8} (h : nextLine? left = none) : left = [] := by
  induction left using lines_induction with
  | last r hr =>
    by_contra hne
    rw [nextLine?_last r hr hne] at h
    cases h
  | line r after hr =>
    rw [nextLine?_line r after hr] at h
    cases h

/-! ## Whole runs -/

namespace Scans

variable {bs : List UInt8} {ls ls' : List (List UInt8 × Ending)}

theorem unique (h : Scans bs ls) (h' : Scans bs ls') : ls = ls' := by
  induction h generalizing ls' with
  | done h =>
    cases h' with
    | done => rfl
    | next hnext =>
      rw [h] at hnext
      cases hnext
  | next h hleft hrest ih =>
    cases h' with
    | done hdone =>
      rw [h] at hdone
      cases hdone
    | next hnext hleft' hrest' =>
      rw [h] at hnext
      obtain ⟨rfl, rfl⟩ := Prod.mk.inj (Option.some.inj hnext)
      -- what is dropped stands between the line and the rest, so there is no choice
      have hbytes := List.append_cancel_left (List.append_cancel_right (hleft.symm.trans hleft'))
      rw [Ending.bytes_injective hbytes, ih hrest']

theorem map_fst (h : Scans bs ls) : ls.map Prod.fst = scanLines bs := by
  induction h with
  | done h => rw [eq_nil_of_nextLine? h]; rfl
  | next h hleft hrest ih => rw [scanLines_of_nextLine? h, ← ih]; rfl

end Scans

/-- What stands up to a newline is a line, or a line with a carriage return that belongs to its end. -/
theorem exists_end (r : List UInt8) (hr : newline ∉ r) :
    ∃ (l : List UInt8) (e : LineEnd), newline ∉ l ∧ (e = .newline → l.getLast? ≠ some carriageReturn) ∧
      r ++ [newline] = l ++ e.bytes := by
  have hstrip := newline_notMem_stripReturn hr
  rcases eq_stripReturn_or r with he | ⟨-, hne⟩
  · refine ⟨stripReturn r, .returnNewline, hstrip, ?_, ?_⟩
    · intro h
      cases h
    · calc r ++ [newline] = stripReturn r ++ [carriageReturn] ++ [newline] := by rw [← he]
        _ = stripReturn r ++ LineEnd.returnNewline.bytes := List.append_assoc _ _ _
  · refine ⟨r, .newline, hr, ?_, rfl⟩
    intro _
    exact hne

/-- There is a way to write any bytes. -/
theorem exists_written (bs : List UInt8) : ∃ ls, Written ls ∧ attach ls = bs := by
  induction bs using lines_induction with
  | last r hr =>
    by_cases hempty : r = []
    · exact ⟨[], .nil, hempty.symm⟩
    · rcases eq_stripReturn_or r with he | ⟨-, hne⟩
      · refine ⟨[(stripReturn r, .loneReturn)], .loneReturn (newline_notMem_stripReturn hr), ?_⟩
        rw [attach, attach, List.append_nil, Ending.bytes, ← he]
      · refine ⟨[(r, .nothing)], .nothing hempty hr hne, ?_⟩
        rw [attach, attach, List.append_nil, Ending.bytes, List.append_nil]
  | line r rest hr ih =>
    obtain ⟨ls, hls, rfl⟩ := ih
    obtain ⟨l, e, hn, hlast, hbytes⟩ := exists_end r hr
    refine ⟨(l, .line e) :: ls, .line hn hlast hls, ?_⟩
    rw [attach, Ending.bytes, ← hbytes, List.append_assoc, List.singleton_append]

/-- A run that takes off one line. -/
theorem scans_last {l : List UInt8} {e : Ending} (h : nextLine? (l ++ e.bytes) = some (l, [])) :
    Scans (attach [(l, e)]) [(l, e)] := by
  rw [attach, attach, List.append_nil]
  exact .next h (List.append_nil _).symm (.done nextLine?_nil)

namespace Written

variable {ls : List (List UInt8 × Ending)}

/-- The reader takes off what is written. -/
theorem scans (h : Written ls) : Scans (attach ls) ls := by
  induction h with
  | nil => exact .done nextLine?_nil
  | line hn hr hls ih => exact .next (nextLine?_end _ _ _ hn hr) rfl ih
  | @loneReturn l hn =>
    have hnext := nextLine?_last (l ++ [carriageReturn]) (newline_notMem_append_return hn) (by simp)
    rw [stripReturn_append_return] at hnext
    exact scans_last hnext
  | @nothing l hne hn hr =>
    have hnext := nextLine?_last l hn hne
    rw [stripReturn_of_ne hr] at hnext
    apply scans_last
    rw [Ending.bytes, List.append_nil]
    exact hnext

theorem newline_notMem (h : Written ls) : ∀ l ∈ ls, newline ∉ l.1 := by
  rw [← List.forall_mem_map (f := Prod.fst) (P := fun l => newline ∉ l), h.scans.map_fst]
  intro l hl
  exact newline_notMem_of_mem_scanLines hl

/-- Every line but the last has an end of its own. -/
theorem ended (h : Written ls) : ∀ l ∈ ls.dropLast, ∃ e, l.2 = .line e := by
  induction h with
  | nil => simp
  | @line l e ls hn hr hls ih =>
    intro m hm
    cases ls with
    | nil => cases hm
    | cons k ks =>
      rw [List.dropLast_cons_cons] at hm
      rcases List.mem_cons.1 hm with rfl | hm
      · exact ⟨e, rfl⟩
      · exact ih m hm
  | loneReturn => simp
  | nothing => simp

end Written

/-- **The reader is the inverse of the writer.** -/
theorem scans_iff (bs : List UInt8) (ls : List (List UInt8 × Ending)) :
    Scans bs ls ↔ Written ls ∧ attach ls = bs := by
  constructor
  · intro h
    obtain ⟨ls', hls', rfl⟩ := exists_written bs
    rw [h.unique hls'.scans]
    exact ⟨hls', rfl⟩
  · rintro ⟨hls, rfl⟩
    exact hls.scans

/-! ## Lines that all have an end -/

/-- Lines with their ends as lines with their endings. -/
def closed (ls : List (List UInt8 × LineEnd)) : List (List UInt8 × Ending) := ls.map fun l => (l.1, .line l.2)

theorem attach_closed (ls : List (List UInt8 × LineEnd)) : attach (closed ls) = writeLines ls := by
  induction ls with
  | nil => rfl
  | cons l ls ih =>
    rw [writeLines, ← ih]
    rfl

theorem written_closed (ls : List (List UInt8 × LineEnd)) (hn : ∀ l ∈ ls, newline ∉ l.1)
    (hr : ∀ l ∈ ls, l.1.getLast? = some carriageReturn → l.2 = .returnNewline) : Written (closed ls) := by
  induction ls with
  | nil => exact .nil
  | cons l ls ih =>
    rw [List.forall_mem_cons] at hn hr
    refine .line hn.1 ?_ (ih hn.2 hr.2)
    intro hend hlast
    rw [hr.1 hlast] at hend
    cases hend

/-! ## Top theorem -/

/-- **Scanning undoes writing, and writing undoes scanning.** Any bytes are scanned to an end in one way, and the
lines with what was dropped behind them give the bytes back; lines written with ends of any choice are scanned to
these lines with these ends. -/
theorem scanLines_inverse :
    (∀ bs : List UInt8, ∃ ls : List (List UInt8 × Ending),
      (∀ ls', Scans bs ls' ↔ ls' = ls) ∧
      ls.map Prod.fst = scanLines bs ∧ attach ls = bs ∧
      (∀ l ∈ ls, newline ∉ l.1) ∧
      (∀ l ∈ ls.dropLast, ∃ e, l.2 = .line e) ∧
      ls.length = bs.count newline + if bs = [] ∨ bs.getLast? = some newline then 0 else 1) ∧
    ∀ ls : List (List UInt8 × LineEnd), (∀ l ∈ ls, newline ∉ l.1) →
      (∀ l ∈ ls, l.1.getLast? = some carriageReturn → l.2 = .returnNewline) →
      Scans (writeLines ls) (closed ls) ∧ scanLines (writeLines ls) = ls.map Prod.fst := by
  refine ⟨?_, ?_⟩
  · intro bs
    obtain ⟨ls, hls, hbs⟩ := exists_written bs
    have hscans : Scans bs ls := (scans_iff bs ls).2 ⟨hls, hbs⟩
    have hlength : ls.length = (scanLines bs).length := by rw [← hscans.map_fst, List.length_map]
    refine ⟨ls, ?_, hscans.map_fst, hbs, hls.newline_notMem, hls.ended, hlength.trans (length_scanLines_eq bs)⟩
    intro ls'
    constructor
    · intro h
      exact h.unique hscans
    · rintro rfl
      exact hscans
  · intro ls hn hr
    have hscans := (written_closed ls hn hr).scans
    rw [attach_closed] at hscans
    refine ⟨hscans, ?_⟩
    rw [← hscans.map_fst, closed, List.map_map]
    rfl

/-- A line that ends in a carriage return, an empty one, and one that begins with a carriage return. -/
theorem scanLines_inverse_own_return :
    let ls : List (List UInt8 × LineEnd) :=
      [([0x78, 0x0D], .returnNewline), ([], .newline), ([0x0D, 0x79], .newline)]
    (∀ l ∈ ls, newline ∉ l.1) ∧
    (∀ l ∈ ls, l.1.getLast? = some carriageReturn → l.2 = .returnNewline) ∧
    writeLines ls = [0x78, 0x0D, 0x0D, 0x0A, 0x0A, 0x0D, 0x79, 0x0A] ∧
    scanLines (writeLines ls) = [[0x78, 0x0D], [], [0x0D, 0x79]] := by
  intro ls
  have hn : ∀ l ∈ ls, newline ∉ l.1 := by decide
  have hr : ∀ l ∈ ls, l.1.getLast? = some carriageReturn → l.2 = .returnNewline := by decide
  exact ⟨hn, hr, by decide, (scanLines_inverse.2 ls hn hr).2⟩

end Caret.Text
