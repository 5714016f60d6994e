import Caret.Proofs.Boundaries
import Caret.Proofs.Locating
import Caret.Report

/-!
# What is made of an offset

Three parts of the library take an offset into a text: the search for its line, the label of a report, and the
input left after it.  All have the same texts in range, and the last two go back to the same character boundary:
the greatest one at or before the offset (`isGreatest_floorBoundary`).

* `Report.place?_eq_some_iff`: where a label stands, and for which offsets there is one.
* `TrailingInput.fromConsumed_of_lt`: the input left is what stands behind that boundary, and the record names it.

The end of the text is the one offset with a label where no input is left (`Report.ofPositioned_agrees`).
-/

namespace Caret

open Text

namespace TrailingInput

/-- What is told of the input left behind a boundary. -/
def leftRecord (input : String) (consumed boundary : Nat) : Record :=
  ⟨.debug, "Input left unparsed",
    [("consumed", toString consumed), ("boundary", toString boundary), ("total", toString (size input))]⟩

theorem fromConsumed_of_le {input : String} {consumed : Nat} (h : size input ≤ consumed) :
    fromConsumed input consumed = ⟨none, []⟩ := by
  rw [fromConsumed]
  dsimp only
  rw [if_pos h]
  rfl

/-- The input left is what stands behind the last boundary, and the record names that one. -/
theorem fromConsumed_of_lt {input : String} {consumed : Nat} (h : consumed < size input) :
    ∃ before rest, input = before ++ rest ∧ size before = floorBoundary (bytes input) consumed ∧
      fromConsumed input consumed =
        ⟨some ⟨rest⟩, [leftRecord input consumed (floorBoundary (bytes input) consumed)]⟩ := by
  obtain ⟨ds, hsplit, hfloor, -⟩ := floorBoundary_encode consumed input.toList (Nat.le_of_lt h)
  have hinput : input = String.ofList ds ++ String.ofList (dropBytes consumed input.toList) := by
    rw [← String.ofList_append, ← hsplit, String.ofList_toList]
  have hbefore : size (String.ofList ds) = floorBoundary (bytes input) consumed := by
    rw [size, bytes_ofList, bytes, hfloor]
  have hrest : size input - size (String.ofList (dropBytes consumed input.toList)) =
      floorBoundary (bytes input) consumed := by
    have hsum := congrArg size hinput
    rw [size_append, hbefore] at hsum
    omega
  refine ⟨_, _, hinput, hbefore, ?_⟩
  rw [fromConsumed]
  dsimp only
  rw [if_neg (Nat.not_le.2 h), hrest]
  rfl

/-- Nothing is left exactly when all bytes were consumed. -/
theorem fromConsumed_eq_none_iff (input : String) (consumed : Nat) :
    (fromConsumed input consumed).value = none ↔ size input ≤ consumed := by
  rcases Nat.lt_or_ge consumed (size input) with hlt | hge
  · obtain ⟨before, rest, -, -, hleft⟩ := fromConsumed_of_lt hlt
    rw [hleft]
    constructor
    · intro h
      cases h
    · intro h
      omega
  · rw [fromConsumed_of_le hge]
    exact ⟨fun _ => hge, fun _ => rfl⟩

end TrailingInput

namespace Report

/-- An offset has a place in the text if it is not past the end: the last boundary at or before it. -/
theorem place?_eq_some_iff (e : PositionedError) (source : String) (b : Nat) :
    place? e source = some b ↔
      e.pos ≤ size source ∧ IsGreatest {m | IsBoundary source m ∧ m ≤ e.pos} b := by
  have hfloor := isGreatest_floorBoundary source e.pos
  unfold place?
  split
  · next h =>
    constructor
    · intro hb
      cases hb
    · rintro ⟨hle, -⟩
      omega
  · next h =>
    rw [Option.some.injEq]
    constructor
    · rintro rfl
      exact ⟨Nat.le_of_not_lt h, hfloor⟩
    · rintro ⟨-, hb⟩
      exact Nat.le_antisymm (hb.2 hfloor.1) (hfloor.2 hb.1)

theorem isSome_place?_iff (e : PositionedError) (source : String) :
    (place? e source).isSome ↔ e.pos ≤ size source := by
  rw [Option.isSome_iff_exists]
  constructor
  · rintro ⟨b, hb⟩
    exact ((place?_eq_some_iff e source b).1 hb).1
  · intro h
    exact ⟨_, (place?_eq_some_iff e source _).2 ⟨h, isGreatest_floorBoundary source e.pos⟩⟩

section
variable (e : PositionedError) (source : String)

theorem source_ofPositioned : (ofPositioned e source).source = (place? e source).map fun _ => source := rfl

theorem label_ofPositioned : (ofPositioned e source).label =
    (place? e source).map fun offset => ⟨"expected " ++ e.expected, offset, 0, true⟩ := rfl

end

/-! ## Top theorem -/

/-- **Line, label and rest of an offset agree**: a report shows the text and labels it exactly for the offsets that
have a line, and the label stands where the input left begins. -/
theorem ofPositioned_agrees (source expected : String) (pos : Nat) :
    let report := ofPositioned ⟨pos, expected⟩ source
    let left := TrailingInput.fromConsumed source pos
    (report.source.isSome ↔ pos ≤ size source) ∧
    (report.label.isSome ↔ pos ≤ size source) ∧
    ((Location.find? source pos).isSome ↔ pos ≤ size source) ∧
    (pos ≤ size source → ∃ b,
      report.source = some source ∧
      report.label = some ⟨"expected " ++ expected, b, 0, true⟩ ∧
      IsGreatest {m | IsBoundary source m ∧ m ≤ pos} b ∧ pos - b ≤ 3 ∧
      (pos < size source → ∃ before rest, source = before ++ rest ∧ size before = b ∧
        left = ⟨some ⟨rest⟩, [TrailingInput.leftRecord source pos b]⟩) ∧
      (pos = size source → b = size source ∧ left.value = none)) := by
  intro report left
  refine ⟨?_, ?_, ?_, ?_⟩
  · rw [source_ofPositioned, Option.isSome_map, isSome_place?_iff]
  · rw [label_ofPositioned, Option.isSome_map, isSome_place?_iff]
  · rw [Option.isSome_iff_ne_none, Ne, Location.find?_eq_none_iff, Nat.not_lt]
  · intro h
    have hgreatest := isGreatest_floorBoundary source pos
    have hthree := le_floorBoundary_add_three h
    have hplace : place? ⟨pos, expected⟩ source = some (floorBoundary (bytes source) pos) :=
      (place?_eq_some_iff _ _ _).2 ⟨h, hgreatest⟩
    refine ⟨floorBoundary (bytes source) pos, ?_, ?_, hgreatest, by omega, ?_, ?_⟩
    · rw [source_ofPositioned, hplace, Option.map_some]
    · rw [label_ofPositioned, hplace, Option.map_some]
    · intro hlt
      exact TrailingInput.fromConsumed_of_lt hlt
    · rintro rfl
      exact ⟨floorBoundary_size source,
        (TrailingInput.fromConsumed_eq_none_iff source (size source)).2 (Nat.le_refl _)⟩

/-- An offset inside a character of two bytes is labelled where the character starts, and the input left starts
with it; the end of the text is labelled, and nothing is left. -/
theorem ofPositioned_agrees_inside :
    let source := "aüb"
    2 < size source ∧ (ofPositioned ⟨2, "letter"⟩ source).label = some ⟨"expected letter", 1, 0, true⟩ ∧
      IsGreatest {m | IsBoundary source m ∧ m ≤ 2} 1 ∧
      (∃ before rest, source = before ++ rest ∧ size before = 1 ∧
        TrailingInput.fromConsumed source 2 = ⟨some ⟨rest⟩, [TrailingInput.leftRecord source 2 1]⟩) ∧
      (ofPositioned ⟨4, "letter"⟩ source).label.isSome ∧ 4 = size source ∧
      (TrailingInput.fromConsumed source 4).value = none := by
  intro source
  have h2 : 2 < size source := by decide
  have h4 : 4 = size source := by decide
  have hlabel : (ofPositioned ⟨2, "letter"⟩ source).label = some ⟨"expected letter", 1, 0, true⟩ := by
    decide
  obtain ⟨-, -, -, hin⟩ := ofPositioned_agrees source "letter" 2
  obtain ⟨b, -, hb, hgreatest, -, hleft, -⟩ := hin (Nat.le_of_lt h2)
  obtain rfl : b = 1 := congrArg Label.offset (Option.some.inj (hb.symm.trans hlabel))
  obtain ⟨-, hsome, -, hend⟩ := ofPositioned_agrees source "letter" 4
  obtain ⟨b, -, -, -, -, -, hnone⟩ := hend (Nat.le_of_eq h4)
  exact ⟨h2, hlabel, hgreatest, hleft h2, hsome.2 (Nat.le_of_eq h4), h4, (hnone h4).2⟩

end Report

end Caret
