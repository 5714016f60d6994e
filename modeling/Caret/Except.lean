/-!
# Steps that can fail

How a step that gives a value or stops at a fault is followed by another, whatever the type of the fault.
-/

namespace Caret

section
variable {ε α β : Type}

theorem ok_bind (a : α) (f : α → Except ε β) : (Except.ok a >>= f) = f a := rfl

theorem error_bind (fault : ε) (f : α → Except ε β) : (Except.error fault >>= f) = .error fault := rfl

theorem not_exists_ok_iff {x : Except ε α} : (¬ ∃ a, x = .ok a) ↔ ∃ fault, x = .error fault := by
  cases x with
  | error fault =>
    constructor
    · intro _
      exact ⟨fault, rfl⟩
    · rintro - ⟨_, h⟩
      cases h
  | ok a =>
    constructor
    · intro h
      exact absurd ⟨a, rfl⟩ h
    · rintro ⟨_, h⟩
      cases h

/-- A check that holds gives the value behind it. -/
theorem ite_eq_ok_iff {p : Prop} [Decidable p] {a b : α} {fault : ε} :
    (if p then .ok a else .error fault : Except ε α) = .ok b ↔ p ∧ a = b := by
  by_cases h : p
  · rw [if_pos h, Except.ok.injEq]
    exact ⟨fun hab => ⟨h, hab⟩, fun hab => hab.2⟩
  · rw [if_neg h]
    constructor
    · intro h'
      cases h'
    · rintro ⟨h', -⟩
      exact absurd h' h

/-- Two steps end well if the first does, and the second behind it. -/
theorem bind_eq_ok {x : Except ε α} {f : α → Except ε β} {b : β} :
    (x >>= f) = .ok b ↔ ∃ a, x = .ok a ∧ f a = .ok b := by
  cases x with
  | error fault =>
    constructor
    · intro h
      cases h
    · rintro ⟨_, h, -⟩
      cases h
  | ok a =>
    constructor
    · intro h
      exact ⟨a, rfl, h⟩
    · rintro ⟨_, ha, h⟩
      cases ha
      exact h

/-- Two steps stop where the first does, or else where the second does behind it. -/
theorem bind_eq_error {x : Except ε α} {f : α → Except ε β} {fault : ε} :
    (x >>= f) = .error fault ↔ x = .error fault ∨ ∃ a, x = .ok a ∧ f a = .error fault := by
  cases x with
  | error fault' =>
    constructor
    · intro h
      exact Or.inl (congrArg Except.error (Except.error.inj h))
    · rintro (h | ⟨_, h, -⟩)
      · exact congrArg Except.error (Except.error.inj h)
      · cases h
  | ok a =>
    constructor
    · intro h
      exact Or.inr ⟨a, rfl, h⟩
    · rintro (h | ⟨_, ha, h⟩)
      · cases h
      · cases ha
        exact h

end

end Caret
