import Caret.Diagnostic
import Caret.Proofs.Locating

/-!
# What the text of a diagnostic tells

A reader of the text alone (`read`) recovers the error, and for an error in range the number of its
line, the line as shown and the caret line (`read_render`).  It takes the text apart at its first three
newlines, and the message at its first colon: the parts before them hold none, whatever stands in the
source and however the line is cut (`newline_notMem_line`, `newline_notMem_indent`), and all that follows
is the expected text.
-/

namespace Caret

open Text

/-- What a diagnostic shows of an error in range. -/
structure Shown where
  number : Nat
  line : String
  caret : String
deriving DecidableEq

namespace Shown

/-- What is shown of a located error. -/
def ofLocation (s : Settings) (l : Location) : Shown where
  number := l.line.number
  line := String.ofList (decode (Window.ofLocation s l).line)
  caret := String.ofList (decode (Window.ofLocation s l).indent) ++ "^"

/-- The first line of the diagnostic. -/
def header (s : Shown) : String := "Parsing error in line " ++ toString s.number ++ ":"

end Shown

/-- What the text of a diagnostic tells. -/
structure Reading where
  error : PositionedError
  shown : Option Shown
deriving DecidableEq

namespace Diagnostic

/-! ## Reader -/

/-- What stands before the first `c`, and what after it. -/
def cutAt (c : Char) (cs : List Char) : List Char × List Char :=
  (cs.takeWhile (· != c), (cs.dropWhile (· != c)).drop 1)

/-- What follows a text of known length. -/
def skip (t : String) (cs : List Char) : List Char := cs.drop t.toList.length

/-- The number that decimal digits spell. -/
def readNumber (cs : List Char) : Nat := Nat.ofDigitChars 10 cs 0

/-- Reads the one-line text of an error. -/
def readMessage (cs : List Char) : PositionedError :=
  let parts := cutAt ':' (skip "offset " cs)
  ⟨readNumber parts.1, String.ofList (skip " expected " parts.2)⟩

/-- Reads a diagnostic; a bare message does not start as a header does. -/
def read (text : String) : Reading :=
  if text.toList.head? = some 'P' then
    let header := cutAt '\n' text.toList
    let line := cutAt '\n' header.2
    let caret := cutAt '\n' line.2
    let number := cutAt ':' (skip "Parsing error in line " header.1)
    { error := readMessage caret.2.dropLast
      shown := some ⟨readNumber number.1, String.ofList line.1, String.ofList caret.1⟩ }
  else { error := readMessage text.toList, shown := none }

/-! ## Lemmas -/

theorem cutAt_append (c : Char) (xs ys : List Char) (h : c ∉ xs) :
    cutAt c (xs ++ c :: ys) = (xs, ys) := by
  have hx : ∀ x ∈ xs, (x != c) = true := by
    intro x hx
    rw [bne_iff_ne]
    rintro rfl
    exact h hx
  rw [cutAt, List.takeWhile_append_of_pos hx, List.dropWhile_append_of_pos hx]
  simp

theorem skip_append (t : String) (cs : List Char) : skip t (t.toList ++ cs) = cs :=
  List.drop_left

theorem readNumber_toString (n : Nat) : readNumber (toString n).toList = n := by
  rw [readNumber, Nat.toString_eq_repr, Nat.toList_repr, Nat.ofDigitChars_ten_toDigits]

theorem notMem_toString {c : Char} (hc : c.isDigit = false) (n : Nat) : c ∉ (toString n).toList := by
  intro h
  rw [Nat.toString_eq_repr, Nat.toList_repr] at h
  have := Nat.isDigit_of_mem_toDigits (by decide) (by decide) h
  rw [hc] at this
  cases this

theorem toList_message (e : PositionedError) :
    e.message.toList = "offset ".toList ++ ((toString e.pos).toList ++
      ':' :: (" expected ".toList ++ e.expected.toList)) := by
  rw [PositionedError.message, String.toList_append, String.toList_append, String.toList_append,
    List.append_assoc, List.append_assoc]
  rfl

theorem readMessage_message (e : PositionedError) : readMessage e.message.toList = e := by
  rw [readMessage, toList_message, skip_append, cutAt_append _ _ _ (notMem_toString (by decide) _)]
  simp only [readNumber_toString, skip_append, String.ofList_toList]

/-- A byte of the shown line is one of the line's own or a dot. -/
theorem mem_dotLeft {bs : List UInt8} {b : UInt8} (h : b ∈ dotLeft bs) : b = dot ∨ b ∈ bs := by
  rcases List.mem_append.1 h with h | h
  · exact Or.inl (List.eq_of_mem_replicate h)
  · exact Or.inr (List.mem_of_mem_drop h)

theorem mem_dotRight {width : Nat} {bs : List UInt8} {b : UInt8} (h : b ∈ dotRight width bs) :
    b = dot ∨ b ∈ bs := by
  unfold dotRight at h
  split at h
  · rcases List.mem_append.1 h with h | h
    · exact Or.inr (List.mem_of_mem_take h)
    · exact Or.inl (List.eq_of_mem_replicate h)
  · exact Or.inr h

theorem newline_notMem_line (s : Settings) (l : Location) (h : newline ∉ l.line.text) :
    newline ∉ (Window.ofLocation s l).line := by
  intro hm
  rcases mem_dotRight hm with hm | hm
  · exact absurd hm (by decide)
  · have hd : newline ∉ l.line.text.drop (s.cut l.column) := by
      intro hm
      exact h (List.mem_of_mem_drop hm)
    split at hm
    · rcases mem_dotLeft hm with hm | hm
      · exact absurd hm (by decide)
      · exact hd hm
    · exact hd hm

theorem newline_notMem_indent (s : Settings) (l : Location) :
    newline ∉ (Window.ofLocation s l).indent := by
  intro hm
  rcases List.mem_append.1 (List.mem_of_mem_drop hm) with hm | hm
  · obtain ⟨b, -, hb⟩ := List.mem_map.1 hm
    split at hb
    · exact absurd hb (by decide)
    · exact absurd hb (by decide)
  · exact absurd (List.eq_of_mem_replicate hm) (by decide)

/-- The header, the line shown and the caret line are one line each. -/
theorem newline_notMem_shown (s : Settings) (l : Location) (h : newline ∉ l.line.text) :
    '\n' ∉ (Shown.ofLocation s l).header.toList ∧ '\n' ∉ (Shown.ofLocation s l).line.toList ∧
      '\n' ∉ (Shown.ofLocation s l).caret.toList := by
  refine ⟨?_, ?_, ?_⟩
  · unfold Shown.header
    rw [String.toList_append, String.toList_append, List.mem_append, List.mem_append]
    rintro ((hm | hm) | hm)
    · exact absurd hm (by simp)
    · exact notMem_toString (by decide) _ hm
    · exact absurd hm (by simp)
  · rw [Shown.ofLocation, String.toList_ofList]
    exact newline_notMem_decode (newline_notMem_line s l h)
  · rw [Shown.ofLocation, String.toList_append, String.toList_ofList, List.mem_append]
    rintro (hm | hm)
    · exact newline_notMem_decode (newline_notMem_indent s l) hm
    · exact absurd hm (by decide)

/-- A diagnostic in range: three lines, then the message to the end. -/
theorem atLocation_eq (s : Settings) (e : PositionedError) (l : Location) :
    atLocation s e l = (Shown.ofLocation s l).header ++ "\n" ++ (Shown.ofLocation s l).line ++ "\n" ++
      (Shown.ofLocation s l).caret ++ "\n" ++ e.message ++ "\n" := by
  have hc : (":\n" : String) = ":" ++ "\n" := rfl
  have ht : ("^\n" : String) = "^" ++ "\n" := rfl
  unfold atLocation Window.render Shown.header Shown.ofLocation
  simp only [hc, ht, String.append_assoc]

theorem render_eq (s : Settings) (e : PositionedError) (source : String) :
    render s e source = (Location.find? source e.pos).elim e.message (atLocation s e) := rfl

theorem head?_message (e : PositionedError) : e.message.toList.head? = some 'o' := by
  rw [toList_message, List.head?_append]
  rfl

theorem toList_header (t : Shown) :
    t.header.toList = "Parsing error in line ".toList ++ ((toString t.number).toList ++ [':']) := by
  unfold Shown.header
  rw [String.toList_append, String.toList_append, List.append_assoc]
  rfl

theorem head?_atLocation (s : Settings) (e : PositionedError) (l : Location) :
    (atLocation s e l).toList.head? = some 'P' := by
  rw [atLocation_eq]
  simp only [String.toList_append, toList_header, List.append_assoc]
  rw [List.head?_append]
  rfl

/-- A diagnostic in range is no bare message. -/
theorem atLocation_ne_message (s : Settings) (e e' : PositionedError) (l : Location) :
    atLocation s e l ≠ e'.message := by
  intro h
  have hhead := head?_message e'
  rw [← h, head?_atLocation] at hhead
  exact absurd hhead (by decide)

theorem read_message (e : PositionedError) : read e.message = ⟨e, none⟩ := by
  rw [read, if_neg (by rw [head?_message]; decide), readMessage_message]

theorem read_atLocation (s : Settings) (e : PositionedError) (l : Location)
    (h : newline ∉ l.line.text) : read (atLocation s e l) = ⟨e, some (Shown.ofLocation s l)⟩ := by
  obtain ⟨h1, h2, h3⟩ := newline_notMem_shown s l h
  generalize hs : Shown.ofLocation s l = t at h1 h2 h3
  have ht : (atLocation s e l).toList = t.header.toList ++ '\n' :: (t.line.toList ++
      '\n' :: (t.caret.toList ++ '\n' :: (e.message.toList ++ ['\n']))) := by
    rw [atLocation_eq, hs]
    simp
  rw [read, if_pos (head?_atLocation s e l), ht, cutAt_append _ _ _ h1]
  simp only [cutAt_append _ _ _ h2, cutAt_append _ _ _ h3, List.dropLast_concat, readMessage_message]
  rw [toList_header, skip_append, cutAt_append _ _ _ (notMem_toString (by decide) _), readNumber_toString]
  simp only [String.ofList_toList]

/-- The text of a diagnostic reads back. -/
theorem read_render (s : Settings) (e : PositionedError) (source : String) :
    read (render s e source) = ⟨e, (Location.find? source e.pos).map (Shown.ofLocation s)⟩ := by
  rw [render_eq]
  cases h : Location.find? source e.pos with
  | none => exact read_message e
  | some l => exact read_atLocation s e l (Location.newline_notMem_text h)

/-! ## Top theorem -/

/-- **A diagnostic tells the error it reports**, and what it shows of it. -/
theorem render_determines :
    (∀ (s₁ s₂ : Settings) (e₁ e₂ : PositionedError) (source₁ source₂ : String),
      render s₁ e₁ source₁ = render s₂ e₂ source₂ →
      e₁ = e₂ ∧
      (size source₁ < e₁.pos ∧ size source₂ < e₂.pos ∨
        ∃ l₁ l₂, Location.find? source₁ e₁.pos = some l₁ ∧ Location.find? source₂ e₂.pos = some l₂ ∧
          l₁.line.number = l₂.line.number ∧
          (Shown.ofLocation s₁ l₁).line = (Shown.ofLocation s₂ l₂).line ∧
          (Shown.ofLocation s₁ l₁).caret = (Shown.ofLocation s₂ l₂).caret)) ∧
    (∀ (s : Settings) (e : PositionedError) (source : String),
      read (render s e source) = ⟨e, (Location.find? source e.pos).map (Shown.ofLocation s)⟩) ∧
    (∀ (s : Settings) (e : PositionedError) (source : String) (l : Location),
      Location.find? source e.pos = some l →
      let t := Shown.ofLocation s l
      render s e source =
        t.header ++ "\n" ++ t.line ++ "\n" ++ t.caret ++ "\n" ++ e.message ++ "\n" ∧
      '\n' ∉ t.header.toList ∧ '\n' ∉ t.line.toList ∧ '\n' ∉ t.caret.toList) ∧
    ∀ (s : Settings) (e e' : PositionedError) (l : Location), atLocation s e l ≠ e'.message := by
  refine ⟨?_, read_render, ?_, atLocation_ne_message⟩
  · intro s₁ s₂ e₁ e₂ source₁ source₂ h
    have hr := congrArg read h
    rw [read_render, read_render, Reading.mk.injEq] at hr
    obtain ⟨rfl, hr⟩ := hr
    refine ⟨rfl, ?_⟩
    cases h₁ : Location.find? source₁ e₁.pos with
    | none =>
      rw [h₁, Option.map_none, eq_comm, Option.map_eq_none_iff, Location.find?_eq_none_iff] at hr
      exact Or.inl ⟨(Location.find?_eq_none_iff _ _).1 h₁, hr⟩
    | some l₁ =>
      rw [h₁, Option.map_some, eq_comm, Option.map_eq_some_iff] at hr
      obtain ⟨l₂, h₂, hs⟩ := hr
      refine Or.inr ⟨l₁, l₂, rfl, h₂, ?_, by rw [hs], by rw [hs]⟩
      exact (congrArg Shown.number hs).symm
  · intro s e source l hl
    refine ⟨?_, newline_notMem_shown s l (Location.newline_notMem_text hl)⟩
    rw [render_eq, hl, Option.elim_some, atLocation_eq]

/-- One text from two sources and two settings; the expected text brings newlines of its own. -/
theorem render_determines_two_sources :
    render ⟨40, 30, 70⟩ ⟨1, "a\nb: expected c"⟩ "xyz" =
        render ⟨1, 0, 3⟩ ⟨1, "a\nb: expected c"⟩ "xyz\n\tw" ∧
      ∃ l₁ l₂, Location.find? "xyz" 1 = some l₁ ∧ Location.find? "xyz\n\tw" 1 = some l₂ ∧
        l₁.line.number = l₂.line.number := by
  have h : render ⟨40, 30, 70⟩ ⟨1, "a\nb: expected c"⟩ "xyz" =
      render ⟨1, 0, 3⟩ ⟨1, "a\nb: expected c"⟩ "xyz\n\tw" := by decide +kernel
  obtain ⟨-, hpast | ⟨l₁, l₂, h₁, h₂, hn, -⟩⟩ := render_determines.1 _ _ _ _ _ _ h
  · exact absurd hpast.1 (by decide)
  · exact ⟨h, l₁, l₂, h₁, h₂, hn⟩

end Diagnostic

end Caret
