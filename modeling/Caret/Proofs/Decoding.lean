import Caret.Proofs.SchemaReading

/-!
# Which data hold settings

`IsSize` says when a value is a size.  Settings are a table of sizes under their three keys (`WrongSettings`), and a
configuration is a table with settings under its one key (`WrongConfiguration`).  Reading fails exactly on data that
are wrong: `decode_fails_iff`, `decodeConfiguration_fails_iff`.
-/

namespace Caret

namespace Settings

/-! ## Sizes -/

/-- A size is an integer that fits 64 bits without a sign. -/
inductive IsSize : Data → Prop
  | integer (n : Nat) : n < 0x10000000000000000 → IsSize (.integer n)

/-- The fault of a value that is no size. -/
inductive SizeFault : Data → Fault → Prop
  | kind (v : Data) : (∀ n, v ≠ .integer n) → SizeFault v (.wrongType v .size)
  | negative (n : Int) : -0x8000000000000000 ≤ n → n < 0 → SizeFault (.integer n) (.negative n)
  | range (n : Int) :
      n < -0x8000000000000000 ∨ 0x10000000000000000 ≤ n → SizeFault (.integer n) (.wrongType (.integer n) .size)

theorem fits64_iff (n : Int) :
    Decimal.fits64 n = true ↔ -0x8000000000000000 ≤ n ∧ n < 0x10000000000000000 := by
  rw [Decimal.fits64, Bool.and_eq_true, decide_eq_true_eq, decide_eq_true_eq]

theorem decodeSize_integer (n : Nat) (h : n < 0x10000000000000000) : decodeSize (.integer n) = .ok n := by
  have hfits : Decimal.fits64 n = true := (fits64_iff n).2 (by omega)
  rw [decodeSize, hfits, if_neg (by decide), if_neg (by omega)]
  rfl

theorem decodeSize_of_sizeFault {v : Data} {fault : Fault} (h : SizeFault v fault) :
    decodeSize v = .error fault := by
  cases h with
  | kind _ hkind =>
    cases v with
    | integer n => exact absurd rfl (hkind n)
    | _ => rfl
  | negative n hlow hsign =>
    have hfits : Decimal.fits64 n = true := (fits64_iff n).2 (by omega)
    rw [decodeSize, hfits, if_neg (by decide), if_pos hsign]
  | range n hrange =>
    have hfits : Decimal.fits64 n = false := by
      rw [← Bool.not_eq_true, fits64_iff]
      omega
    rw [decodeSize, hfits, if_pos (by decide)]

/-- A value is a size, or it is at fault. -/
theorem size_cases (v : Data) :
    (∃ n : Nat, v = .integer n ∧ n < 0x10000000000000000 ∧ IsSize v) ∨
      (¬ IsSize v ∧ ∃ fault, SizeFault v fault) := by
  cases v with
  | integer n =>
    by_cases hsize : 0 ≤ n ∧ n < 0x10000000000000000
    · obtain ⟨m, rfl⟩ := Int.eq_ofNat_of_zero_le hsize.1
      have hm : m < 0x10000000000000000 := by omega
      exact Or.inl ⟨m, rfl, hm, IsSize.integer m hm⟩
    · have hno : ¬ IsSize (.integer n) := by
        rintro ⟨m, hm⟩
        omega
      rcases Decidable.em (-0x8000000000000000 ≤ n ∧ n < 0) with ⟨hlow, hsign⟩ | hout
      · exact Or.inr ⟨hno, _, SizeFault.negative n hlow hsign⟩
      · exact Or.inr ⟨hno, _, SizeFault.range n (by omega)⟩
  | _ => exact Or.inr ⟨nofun, _, SizeFault.kind _ nofun⟩

theorem decodeSize_eq_ok_iff {v : Data} {n : Nat} :
    decodeSize v = .ok n ↔ v = .integer n ∧ n < 0x10000000000000000 := by
  constructor
  · intro h
    rcases size_cases v with ⟨m, rfl, hm, -⟩ | ⟨-, fault, hfault⟩
    · rw [decodeSize_integer m hm, Except.ok.injEq] at h
      subst h
      exact ⟨rfl, hm⟩
    · rw [decodeSize_of_sizeFault hfault] at h
      cases h
  · rintro ⟨rfl, hn⟩
    exact decodeSize_integer n hn

/-- What is no size is refused with its fault. -/
theorem size_refuses : Schema.Refuses decodeSize (¬ IsSize ·) SizeFault where
  fault_iff v fault := by
    refine ⟨?_, decodeSize_of_sizeFault⟩
    intro h
    rcases size_cases v with ⟨n, rfl, hn, -⟩ | ⟨-, fault', hfault'⟩
    · rw [decodeSize_integer n hn] at h
      cases h
    · rw [decodeSize_of_sizeFault hfault'] at h
      rwa [← Except.error.inj h]
  bad_iff v := by
    rcases size_cases v with ⟨n, rfl, hn, hs⟩ | ⟨hs, fault, hfault⟩
    · rw [decodeSize_integer n hn]
      simp [hs]
    · exact ⟨fun _ => ⟨fault, decodeSize_of_sizeFault hfault⟩, fun _ => hs⟩

/-! ## Settings and configurations -/

/-- Data that hold no settings. -/
def WrongSettings (format : Format) : Data → Prop :=
  Schema.Wrong ["right_margin", "window", "max_width"] (¬ IsSize ·) format

/-- Data that hold no configuration. -/
def WrongConfiguration (format : Format) : Data → Prop :=
  Schema.Wrong ["locate"] (WrongSettings format) format

/-- Reading settings fails exactly on data that hold none. -/
theorem decode_fails_iff (format : Format) (v : Data) :
    (∃ fault, decode format v = .error fault) ↔ WrongSettings format v :=
  Schema.decode_fails_iff (c := schema) size_refuses v

/-- What holds no settings is refused. -/
theorem settings_refuses (format : Format) :
    Schema.Refuses (decode format) (WrongSettings format) fun v fault => decode format v = .error fault where
  fault_iff _ _ := Iff.rfl
  bad_iff v := (decode_fails_iff format v).symm

/-- Reading a configuration fails exactly on data that hold none. -/
theorem decodeConfiguration_fails_iff (format : Format) (v : Data) :
    (∃ fault, decodeConfiguration format v = .error fault) ↔ WrongConfiguration format v :=
  Schema.decode_fails_iff (c := configurationSchema format) (settings_refuses format) v

end Settings

end Caret
