/-!
# Window settings

Three thresholds, all in bytes, say how a long line is cut before it is shown.
-/

namespace Caret

/-- How a line is cut down to the part that is shown. -/
structure Settings where
  /-- When the column is past this one, the start of the line is left out. -/
  rightMargin : Nat
  /-- The bytes kept before the column once the start is left out. -/
  window : Nat
  /-- The longest line shown. -/
  maxWidth : Nat
deriving DecidableEq

namespace Settings

/-- The settings in force where none are given. -/
def standard : Settings := ⟨40, 30, 70⟩

instance : Inhabited Settings := ⟨standard⟩

end Settings

end Caret
