import Caret.Session
import Mathlib.Data.List.Perm.Basic

/-!
# The best of several errors

The errors of a parser meet one after the other, and of two the one that got further is kept.  Where both got
equally far the one that was asked is kept, so which error is left at the end depends on which of the two that
was each time (`Rival`).

* `Earliest`, `Earliest.furthest`: the first of the errors that got furthest, and how two runs of errors combine.
  However errors are grouped, theirs is the one left (`Grouping.earliest`).
* `Kept`, `Kept.meet`: what is left of rivals, and what one more rival makes of it.
* `Session.afterRivals_of_none`: a session that is told of rivals keeps the error that is left of them.
-/

namespace Caret

namespace PositionedError

/-! ## Two errors -/

section
variable {a b : PositionedError}

theorem furthest_of_lt (h : a.pos < b.pos) : a.furthest b = b := if_pos h

theorem furthest_of_le (h : b.pos ≤ a.pos) : a.furthest b = a := if_neg (Nat.not_lt.2 h)

end

theorem furthest_self (a : PositionedError) : a.furthest a = a := furthest_of_le (Nat.le_refl _)

/-! ## The earliest of the furthest errors -/

/-- Of the errors in a list, this is the first of those with the largest offset. -/
def Earliest (es : List PositionedError) (e : PositionedError) : Prop :=
  ∃ before after, es = before ++ e :: after ∧ (∀ x ∈ before, x.pos < e.pos) ∧ ∀ x ∈ after, x.pos ≤ e.pos

/-- Of the errors in a list, this is the last of those with the largest offset. -/
def Latest (es : List PositionedError) (e : PositionedError) : Prop :=
  ∃ before after, es = before ++ e :: after ∧ (∀ x ∈ before, x.pos ≤ e.pos) ∧ ∀ x ∈ after, x.pos < e.pos

namespace Earliest

variable {es fs : List PositionedError} {e f : PositionedError}

theorem singleton (e : PositionedError) : Earliest [e] e := ⟨[], [], rfl, nofun, nofun⟩

theorem le (h : Earliest es e) {x : PositionedError} (hx : x ∈ es) : x.pos ≤ e.pos := by
  obtain ⟨before, after, rfl, hbefore, hafter⟩ := h
  rcases List.mem_append.1 hx with hx | hx
  · exact Nat.le_of_lt (hbefore x hx)
  · rcases List.mem_cons.1 hx with rfl | hx
    · exact Nat.le_refl _
    · exact hafter x hx

/-- The errors of two lists, one after the other: the first list wins ties. -/
theorem furthest (he : Earliest es e) (hf : Earliest fs f) : Earliest (es ++ fs) (e.furthest f) := by
  rcases Nat.lt_or_ge e.pos f.pos with hlt | hge
  · rw [furthest_of_lt hlt]
    have hes : ∀ x ∈ es, x.pos < f.pos := by
      intro x hx
      exact Nat.lt_of_le_of_lt (he.le hx) hlt
    obtain ⟨before, after, rfl, hbefore, hafter⟩ := hf
    refine ⟨es ++ before, after, by rw [List.append_assoc], ?_, hafter⟩
    intro x hx
    rcases List.mem_append.1 hx with hx | hx
    · exact hes x hx
    · exact hbefore x hx
  · rw [furthest_of_le hge]
    have hfs : ∀ x ∈ fs, x.pos ≤ e.pos := by
      intro x hx
      exact Nat.le_trans (hf.le hx) hge
    obtain ⟨before, after, rfl, hbefore, hafter⟩ := he
    refine ⟨before, after ++ fs, by rw [List.append_assoc, List.cons_append], hbefore, ?_⟩
    intro x hx
    rcases List.mem_append.1 hx with hx | hx
    · exact hafter x hx
    · exact hfs x hx

theorem mem (h : Earliest es e) : e ∈ es := by
  obtain ⟨before, after, rfl, -, -⟩ := h
  exact List.mem_append_right before List.mem_cons_self

theorem find?_eq (h : Earliest es e) : es.find? (·.pos = e.pos) = some e := by
  obtain ⟨before, after, rfl, hbefore, -⟩ := h
  rw [List.find?_eq_some_iff_append]
  refine ⟨decide_eq_true rfl, before, after, rfl, ?_⟩
  intro x hx
  have := hbefore x hx
  simp only [Bool.not_eq_true', decide_eq_false_iff_not]
  omega

theorem unique (he : Earliest es e) (hf : Earliest es f) : e = f := by
  have hpos : e.pos = f.pos := Nat.le_antisymm (hf.le he.mem) (he.le hf.mem)
  have hfound := he.find?_eq
  rw [hpos, hf.find?_eq] at hfound
  exact (Option.some.inj hfound).symm

theorem latest (h : Earliest es.reverse e) : Latest es e := by
  obtain ⟨before, after, hes, hbefore, hafter⟩ := h
  refine ⟨after.reverse, before.reverse, ?_, ?_, ?_⟩
  · rw [← List.reverse_reverse es, hes]
    simp
  · intro x hx
    exact hafter x (List.mem_reverse.1 hx)
  · intro x hx
    exact hbefore x (List.mem_reverse.1 hx)

end Earliest

/-! ## Errors in groups -/

/-- Errors, and how they are grouped while the best of them is found. -/
inductive Grouping
  | one (e : PositionedError)
  | two (l r : Grouping)

namespace Grouping

/-- The errors, in order. -/
def errors : Grouping → List PositionedError
  | one e => [e]
  | two l r => l.errors ++ r.errors

/-- The error that is left. -/
def best : Grouping → PositionedError
  | one e => e
  | two l r => l.best.furthest r.best

theorem earliest (g : Grouping) : Earliest g.errors g.best := by
  induction g with
  | one e => exact Earliest.singleton e
  | two l r hl hr => exact hl.furthest hr

theorem best_congr {g g' : Grouping} (h : g.errors = g'.errors) : g.best = g'.best := by
  have hg := g.earliest
  rw [h] at hg
  exact hg.unique g'.earliest

end Grouping

theorem furthest_assoc (a b c : PositionedError) :
    (a.furthest b).furthest c = a.furthest (b.furthest c) := by
  have h : (Grouping.two (.two (.one a) (.one b)) (.one c)).errors =
      (Grouping.two (.one a) (.two (.one b) (.one c))).errors := rfl
  exact Grouping.best_congr h

/-! ## Errors in a row -/

theorem earliest_foldl {pre : List PositionedError} {best : PositionedError} (h : Earliest pre best)
    (es : List PositionedError) : Earliest (pre ++ es) (es.foldl furthest best) := by
  induction es generalizing pre best with
  | nil => rwa [List.append_nil]
  | cons e es ih =>
    have hnext := ih (h.furthest (Earliest.singleton e))
    rwa [List.append_assoc] at hnext

/-- If each error is the one that is asked, they stand in reverse. -/
theorem earliest_foldl_over {post : List PositionedError} {best : PositionedError} (h : Earliest post best)
    (es : List PositionedError) :
    Earliest (es.reverse ++ post) (es.foldl (fun best e => e.furthest best) best) := by
  induction es generalizing post best with
  | nil => exact h
  | cons e es ih =>
    have hnext := ih ((Earliest.singleton e).furthest h)
    rwa [List.reverse_cons, List.append_assoc]

end PositionedError

/-! ## Rivals of the best error -/

/-- An error that meets the best one so far. It is `asked` if it is the one that decides between the two, and then
it wins ties. -/
structure Rival where
  error : PositionedError
  asked : Bool

namespace Rival

open PositionedError

/-- What is left when a rival meets the best error so far. -/
def meet (r : Rival) (best : PositionedError) : PositionedError :=
  if r.asked then r.error.furthest best else best.furthest r.error

/-- What is left when rivals meet, one after the other. -/
def best (first : Rival) (later : List Rival) : PositionedError :=
  later.foldl (fun best r => r.meet best) first.error

/-- The last of some rivals that was asked, and `top` if none was. -/
def lastAsked (top : Rival) (more : List Rival) : Rival := (more.filter (·.asked)).getLast?.getD top

/-- An error is what is left of rivals: none got further, and of those that got as far it is the last that was
asked after the first of them, or that first one. -/
structure Kept (rivals : List Rival) (e : PositionedError) : Prop where
  le : ∀ r ∈ rivals, r.error.pos ≤ e.pos
  eq : ∃ top more, rivals.filter (·.error.pos = e.pos) = top :: more ∧ e = (lastAsked top more).error

theorem lastAsked_mem (top : Rival) (more : List Rival) : lastAsked top more ∈ top :: more := by
  unfold lastAsked
  cases h : (more.filter (·.asked)).getLast? with
  | none => exact List.mem_cons_self
  | some r => exact List.mem_cons_of_mem top (List.mem_of_mem_filter (List.mem_of_getLast? h))

theorem lastAsked_concat (top : Rival) (more : List Rival) (r : Rival) :
    lastAsked top (more ++ [r]) = if r.asked then r else lastAsked top more := by
  unfold lastAsked
  rw [List.filter_append, List.filter_singleton]
  cases r.asked with
  | true =>
    rw [cond_true, List.getLast?_concat]
    rfl
  | false =>
    rw [cond_false, List.append_nil]
    rfl

section
variable {r : Rival} {e : PositionedError}

theorem meet_of_lt (h : e.pos < r.error.pos) : r.meet e = r.error := by
  unfold meet
  split
  · exact furthest_of_le (Nat.le_of_lt h)
  · exact furthest_of_lt h

theorem meet_of_gt (h : r.error.pos < e.pos) : r.meet e = e := by
  unfold meet
  split
  · exact furthest_of_lt h
  · exact furthest_of_le (Nat.le_of_lt h)

theorem meet_of_eq (h : r.error.pos = e.pos) : r.meet e = if r.asked then r.error else e := by
  rw [meet, furthest_of_le (Nat.le_of_eq h), furthest_of_le (Nat.le_of_eq h.symm)]

end

namespace Kept

variable {rivals : List Rival} {e : PositionedError}

theorem mem (h : Kept rivals e) : ∃ r ∈ rivals, r.error = e := by
  obtain ⟨top, more, htops, he⟩ := h.eq
  have hmem := lastAsked_mem top more
  rw [← htops] at hmem
  exact ⟨_, List.mem_of_mem_filter hmem, he.symm⟩

theorem singleton (r : Rival) : Kept [r] r.error := by
  refine ⟨?_, r, [], ?_, rfl⟩
  · intro q hq
    obtain rfl := List.mem_singleton.1 hq
    exact Nat.le_refl _
  · rw [List.filter_singleton, decide_eq_true rfl]
    rfl

/-- One more rival is left itself if it got further, or as far and is asked; else it makes no difference. -/
theorem meet (h : Kept rivals e) (r : Rival) : Kept (rivals ++ [r]) (r.meet e) := by
  obtain ⟨hle, top, more, htops, he⟩ := h
  rcases Nat.lt_trichotomy e.pos r.error.pos with hlt | heq | hgt
  · rw [meet_of_lt hlt]
    have hnone : rivals.filter (·.error.pos = r.error.pos) = [] := by
      rw [List.filter_eq_nil_iff]
      intro q hq
      have := hle q hq
      rw [decide_eq_true_eq]
      omega
    refine ⟨List.forall_mem_append.2 ⟨?_, List.forall_mem_singleton.2 (Nat.le_refl _)⟩, r, [], ?_, rfl⟩
    · intro q hq
      exact Nat.le_of_lt (Nat.lt_of_le_of_lt (hle q hq) hlt)
    · rw [List.filter_append, hnone, List.filter_singleton, decide_eq_true rfl]
      rfl
  · rw [meet_of_eq heq.symm]
    have hpos : (if r.asked then r.error else e).pos = e.pos := by
      split
      · exact heq.symm
      · rfl
    refine ⟨?_, top, more ++ [r], ?_, ?_⟩
    · rw [hpos]
      exact List.forall_mem_append.2 ⟨hle, List.forall_mem_singleton.2 (Nat.le_of_eq heq.symm)⟩
    · rw [hpos, List.filter_append, htops, List.filter_singleton, decide_eq_true heq.symm]
      rfl
    · rw [lastAsked_concat]
      split
      · rfl
      · exact he
  · rw [meet_of_gt hgt]
    refine ⟨List.forall_mem_append.2 ⟨hle, List.forall_mem_singleton.2 (Nat.le_of_lt hgt)⟩, top, more, ?_, he⟩
    rw [List.filter_append, htops, List.filter_singleton, decide_eq_false (Nat.ne_of_lt hgt)]
    exact List.append_nil _

end Kept

theorem kept_foldl {rivals : List Rival} {e : PositionedError} (h : Kept rivals e) (later : List Rival) :
    Kept (rivals ++ later) (later.foldl (fun best r => r.meet best) e) := by
  induction later generalizing rivals e with
  | nil => rwa [List.append_nil]
  | cons r later ih =>
    have hnext := ih (h.meet r)
    rwa [List.append_assoc] at hnext

theorem kept_best (first : Rival) (later : List Rival) : Kept (first :: later) (best first later) :=
  kept_foldl (Kept.singleton first) later

/-- The offset that is left does not depend on the order, nor on which error is asked. -/
theorem pos_best_perm {first first' : Rival} {later later' : List Rival}
    (h : ((first :: later).map (·.error)).Perm ((first' :: later').map (·.error))) :
    (best first later).pos = (best first' later').pos := by
  have hkept := kept_best first later
  have hkept' := kept_best first' later'
  obtain ⟨r, hr, he⟩ := hkept.mem
  obtain ⟨r', hr', he'⟩ := hkept'.mem
  obtain ⟨q, hq, hqe⟩ := List.mem_map.1 (h.mem_iff.1 (List.mem_map_of_mem hr))
  obtain ⟨q', hq', hqe'⟩ := List.mem_map.1 (h.mem_iff.2 (List.mem_map_of_mem hr'))
  apply Nat.le_antisymm
  · rw [← he, ← hqe]
    exact hkept'.le q hq
  · rw [← he', ← hqe']
    exact hkept.le q' hq'

/-! ## Rivals in a session -/

/-- How a session is told of a rival. -/
def step (r : Rival) : Session.Step := if r.asked then .reportOver r.error else .report r.error

theorem value_step (s : Session) (r : Rival) :
    (s.step r.step).value.1 = { s with best := some (s.best.elim r.error r.meet) } := by
  unfold step meet
  cases r.asked <;> rfl

end Rival

/-- The session once it is told of rivals. -/
def Session.afterRivals (s : Session) (rivals : List Rival) : Session :=
  rivals.foldl (fun s r => (s.step r.step).value.1) s

namespace Session

theorem afterRivals_cons (s : Session) (r : Rival) (later : List Rival) :
    s.afterRivals (r :: later) = { s with best := some (s.best.elim r.error r.meet) }.afterRivals later := by
  rw [afterRivals, List.foldl_cons, Rival.value_step]
  rfl

theorem afterRivals_of_best {s : Session} {e : PositionedError} (h : s.best = some e) (later : List Rival) :
    s.afterRivals later = { s with best := some (later.foldl (fun best r => r.meet best) e) } := by
  induction later generalizing s e with
  | nil => rw [List.foldl_nil, ← h]; rfl
  | cons r later ih =>
    rw [afterRivals_cons, ih rfl, h]
    rfl

/-- A session without a best error keeps what is left of the rivals. -/
theorem afterRivals_of_none {s : Session} (h : s.best = none) (first : Rival) (later : List Rival) :
    s.afterRivals (first :: later) = { s with best := some (Rival.best first later) } := by
  rw [afterRivals_cons, h, afterRivals_of_best rfl]
  rfl

end Session

/-! ## Top theorem -/

/-- **Which of several errors is left.** None got further than it.  Of those that got as far it is the last that was
asked after the first of them, and that first one if none was.  So where none is asked the earliest is left, and
where all are the latest; neither the grouping of the errors nor, for the offset, their order counts. -/
theorem PositionedError.furthest_left :
    (∀ a b c : PositionedError, (a.furthest b).furthest c = a.furthest (b.furthest c)) ∧
    (∀ a : PositionedError, a.furthest a = a) ∧
    (∀ (first : Rival) (later : List Rival),
      let e := Rival.best first later
      (∃ r ∈ first :: later, r.error = e) ∧
      (∀ r ∈ first :: later, r.error.pos ≤ e.pos) ∧
      ∃ top more, (first :: later).filter (·.error.pos = e.pos) = top :: more ∧
        e = (Rival.lastAsked top more).error) ∧
    (∀ e es, Earliest (e :: es) (es.foldl furthest e)) ∧
    (∀ e es, Latest (e :: es) (es.foldl (fun best new => new.furthest best) e)) ∧
    (∀ (g : Grouping) (e : PositionedError) (es : List PositionedError),
      g.errors = e :: es → g.best = es.foldl furthest e) ∧
    (∀ (first first' : Rival) (later later' : List Rival),
      ((first :: later).map (·.error)).Perm ((first' :: later').map (·.error)) →
      (Rival.best first later).pos = (Rival.best first' later').pos) ∧
    ∀ (s : Session) (first : Rival) (later : List Rival), s.best = none →
      s.afterRivals (first :: later) = { s with best := some (Rival.best first later) } := by
  have hearliest : ∀ e es, Earliest (e :: es) (es.foldl furthest e) := by
    intro e es
    exact earliest_foldl (Earliest.singleton e) es
  refine ⟨furthest_assoc, furthest_self, ?_, hearliest, ?_, ?_, ?_, ?_⟩
  · intro first later e
    have hkept := Rival.kept_best first later
    exact ⟨hkept.mem, hkept.le, hkept.eq⟩
  · intro e es
    apply Earliest.latest
    rw [List.reverse_cons]
    exact earliest_foldl_over (Earliest.singleton e) es
  · intro g e es h
    have hg := g.earliest
    rw [h] at hg
    exact hg.unique (hearliest e es)
  · intro first first' later later' h
    exact Rival.pos_best_perm h
  · intro s first later h
    exact Session.afterRivals_of_none h first later

/-- Three errors of four got as far.  The second of them is left as the last that was asked, in a session too; in
another order and with another one asked the offset is the same. -/
theorem PositionedError.furthest_left_ties :
    let a : PositionedError := ⟨5, "a"⟩
    let b : PositionedError := ⟨5, "b"⟩
    let c : PositionedError := ⟨3, "c"⟩
    let d : PositionedError := ⟨5, "d"⟩
    let first : Rival := ⟨a, false⟩
    let later : List Rival := [⟨b, true⟩, ⟨c, true⟩, ⟨d, false⟩]
    let first' : Rival := ⟨c, false⟩
    let later' : List Rival := [⟨d, true⟩, ⟨b, false⟩, ⟨a, false⟩]
    let g : Grouping := .two (.two (.one c) (.one d)) (.two (.one b) (.one a))
    ((first :: later).map (·.error)).Perm ((first' :: later').map (·.error)) ∧
      Rival.best first later = b ∧ Rival.best first' later' = d ∧
      (Rival.best first later).pos = (Rival.best first' later').pos ∧
      g.errors = [c, d, b, a] ∧ g.best = [d, b, a].foldl furthest c ∧
      Session.start.best = none ∧
      Session.start.afterRivals (first :: later) = { Session.start with best := some b } := by
  intro a b c d first later first' later' g
  have hperm : ((first :: later).map (·.error)).Perm ((first' :: later').map (·.error)) := by decide
  obtain ⟨-, -, -, -, -, hgrouped, horder, hsession⟩ := furthest_left
  exact ⟨hperm, rfl, rfl, horder first first' later later' hperm, rfl, hgrouped g c [d, b, a] rfl, rfl,
    hsession Session.start first later rfl⟩

end Caret
