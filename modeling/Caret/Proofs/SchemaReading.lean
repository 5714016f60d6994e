import Caret.Except
import Caret.Settings.Decode
import Mathlib.Data.List.Basic

/-!
# Reading by a schema

`Schema.Wrong` says of data alone, without reading them, when they are no table with given keys: an entry is at
fault (`Schema.BadEntry`), or a key stands there twice.  A schema fails exactly on those (`Schema.decode_fails_iff`),
as long as its reader of values fails exactly on the bad ones (`Schema.Refuses`).

* `Schema.finds_of_readEntries`: entries that are read have keys of their own, and each key is found with the value of
  its entry.
* `Schema.readEntries_error_iff`: where no key stands twice, the first entry at fault gives the fault; what was read
  before does not matter, nor does what stands behind.
* `Schema.readEntries_zip`: the items of an array are entries under the keys.
-/

namespace Caret

/-! ## The first of a list -/

section
variable {α : Type} (bad : α → Prop) {x y : α} {ys : List α}

/-- Of the members of a list that are bad, this is the first. -/
def IsFirst (ys : List α) (x : α) : Prop :=
  ∃ before after, ys = before ++ x :: after ∧ bad x ∧ ∀ y ∈ before, ¬ bad y

theorem not_isFirst_nil : ¬ IsFirst bad [] x := by
  rintro ⟨before, after, h, -⟩
  cases before <;> cases h

theorem isFirst_cons_of_bad (h : bad y) : IsFirst bad (y :: ys) x ↔ x = y := by
  constructor
  · rintro ⟨before, after, hsplit, hx, hbefore⟩
    cases before with
    | nil => exact (List.cons.inj hsplit).1.symm
    | cons z before =>
      obtain ⟨rfl, -⟩ := List.cons.inj hsplit
      exact absurd h (hbefore y List.mem_cons_self)
  · rintro rfl
    exact ⟨[], ys, rfl, h, nofun⟩

theorem isFirst_cons_of_good (h : ¬ bad y) : IsFirst bad (y :: ys) x ↔ IsFirst bad ys x := by
  constructor
  · rintro ⟨before, after, hsplit, hx, hbefore⟩
    cases before with
    | nil =>
      obtain ⟨rfl, -⟩ := List.cons.inj hsplit
      exact absurd hx h
    | cons z before =>
      obtain ⟨rfl, rfl⟩ := List.cons.inj hsplit
      exact ⟨before, after, rfl, hx, fun w hw => hbefore w (List.mem_cons_of_mem y hw)⟩
  · rintro ⟨before, after, rfl, hx, hbefore⟩
    exact ⟨y :: before, after, rfl, hx, List.forall_mem_cons.2 ⟨h, hbefore⟩⟩

end

theorem IsFirst.bad {α : Type} {bad : α → Prop} {ys : List α} {x : α} (h : IsFirst bad ys x) : bad x := by
  obtain ⟨_, _, _, hbad, _⟩ := h
  exact hbad

theorem exists_isFirst_iff {α : Type} (bad : α → Prop) (xs : List α) :
    (∃ x, IsFirst bad xs x) ↔ ∃ x ∈ xs, bad x := by
  constructor
  · rintro ⟨x, before, after, rfl, hx, -⟩
    exact ⟨x, List.mem_append_right before List.mem_cons_self, hx⟩
  · intro h
    induction xs with
    | nil => simp at h
    | cons y ys ih =>
      by_cases hy : bad y
      · exact ⟨y, (isFirst_cons_of_bad bad hy).2 rfl⟩
      · obtain ⟨x, hx⟩ := ih (((List.exists_mem_cons_iff bad y ys).1 h).resolve_left hy)
        exact ⟨x, (isFirst_cons_of_good bad hy).2 hx⟩

/-! ## Data at fault -/

namespace Schema

/-- An entry that no table with these keys has: its key is another one, or its value is bad. -/
def BadEntry (keys : List String) (bad : Data → Prop) (entry : String × Data) : Prop :=
  entry.1 ∉ keys ∨ bad entry.2

/-- The fault of an entry that no table with these keys has. Its key is looked at first. -/
inductive EntryFault (keys : List String) (faultOf : Data → Fault → Prop) : String × Data → Fault → Prop
  | key (key : String) (v : Data) : key ∉ keys → EntryFault keys faultOf (key, v) (.unknownKey key keys)
  | value (key : String) (v : Data) (fault : Fault) :
      key ∈ keys → faultOf v fault → EntryFault keys faultOf (key, v) fault

/-- Data that are no table with these keys, nor an array of their values. -/
inductive Wrong (keys : List String) (bad : Data → Prop) (format : Format) : Data → Prop
  | kind (v : Data) : (∀ entries, v ≠ .table entries) → (∀ items, v ≠ .array items) →
      (∀ text, v ≠ .datetime text) → Wrong keys bad format v
  | entry (entries : List (String × Data)) (entry : String × Data) :
      entry ∈ entries → BadEntry keys bad entry → Wrong keys bad format (.table entries)
  | repeated (entries : List (String × Data)) :
      ¬ (entries.map Prod.fst).Nodup → Wrong keys bad format (.table entries)
  /-- A date is a table with its text under a key of its own. -/
  | date (text : String) :
      BadEntry keys bad ("$__toml_private_datetime", .string text) → Wrong keys bad format (.datetime text)
  | item (items : List Data) (v : Data) :
      v ∈ items.take keys.length → bad v → Wrong keys bad format (.array items)
  | length (items : List Data) :
      format.exactLength = true → keys.length < items.length → Wrong keys bad format (.array items)

section
variable {keys : List String} {bad : Data → Prop} {format : Format}

theorem wrong_table_iff (entries : List (String × Data)) :
    Wrong keys bad format (.table entries) ↔
      (∃ entry ∈ entries, BadEntry keys bad entry) ∨ ¬ (entries.map Prod.fst).Nodup := by
  constructor
  · intro h
    cases h with
    | kind _ htable => exact absurd rfl (htable entries)
    | entry _ entry hmem hbad => exact Or.inl ⟨entry, hmem, hbad⟩
    | repeated _ hkeys => exact Or.inr hkeys
  · rintro (⟨entry, hmem, hbad⟩ | hkeys)
    · exact Wrong.entry entries entry hmem hbad
    · exact Wrong.repeated entries hkeys

theorem wrong_datetime_iff (text : String) :
    Wrong keys bad format (.datetime text) ↔ Wrong keys bad format (.table (dateEntries text)) := by
  have hkeys : ((dateEntries text).map Prod.fst).Nodup := by simp [dateEntries]
  simp only [wrong_table_iff, hkeys, not_true_eq_false, or_false]
  constructor
  · intro h
    cases h with
    | kind _ _ _ hdate => exact absurd rfl (hdate text)
    | date _ hbad => exact ⟨_, List.mem_singleton.2 rfl, hbad⟩
  · rintro ⟨entry, hmem, hbad⟩
    obtain rfl := List.mem_singleton.1 hmem
    exact Wrong.date text hbad

theorem wrong_array_iff (items : List Data) :
    Wrong keys bad format (.array items) ↔
      (∃ v ∈ items.take keys.length, bad v) ∨ format.exactLength = true ∧ keys.length < items.length := by
  constructor
  · intro h
    cases h with
    | kind _ _ harray => exact absurd rfl (harray items)
    | item _ v hmem hbad => exact Or.inl ⟨v, hmem, hbad⟩
    | length _ hexact hlong => exact Or.inr ⟨hexact, hlong⟩
  · rintro (⟨v, hmem, hbad⟩ | ⟨hexact, hlong⟩)
    · exact Wrong.item items v hmem hbad
    · exact Wrong.length items hexact hlong

end

/-- A reader of values fails on the bad ones, with a fault of theirs. -/
structure Refuses {α : Type} (read : Data → Except Fault α) (bad : Data → Prop)
    (faultOf : Data → Fault → Prop) : Prop where
  fault_iff : ∀ v fault, read v = .error fault ↔ faultOf v fault
  bad_iff : ∀ v, bad v ↔ ∃ fault, read v = .error fault

theorem Refuses.ok_iff {α : Type} {read : Data → Except Fault α} {bad : Data → Prop}
    {faultOf : Data → Fault → Prop} (h : Refuses read bad faultOf) (v : Data) :
    (∃ a, read v = .ok a) ↔ ¬ bad v := by
  rw [h.bad_iff, ← not_exists_ok_iff, not_not]

/-! ## The entries of a table -/

section
variable {α σ : Type} {c : Schema α σ} {found all : List (String × α)} {key : String}
  {entries : List (String × Data)}

theorem lookup_concat_self (a : α) (h : found.lookup key = none) :
    (found ++ [(key, a)]).lookup key = some a := by
  rw [List.lookup_append, h, List.lookup_cons_self, Option.none_or]

theorem lookup_concat_of_ne {other : String} (a : α) (h : other ≠ key) :
    (found ++ [(key, a)]).lookup other = found.lookup other := by
  rw [List.lookup_append, List.lookup_cons, beq_eq_false_iff_ne.2 h, List.lookup_nil, Option.or_none]

theorem ne_of_notMem_keys {other : String × Data} (h : key ∉ entries.map Prod.fst) (hmem : other ∈ entries) :
    other.1 ≠ key := by
  rintro rfl
  exact h (List.mem_map.2 ⟨other, hmem, rfl⟩)

/-- The first entry is read if its key is known and new, and its value can be read. -/
theorem readEntries_cons_ok_iff {v : Data} :
    c.readEntries found ((key, v) :: entries) = .ok all ↔
      key ∈ c.keys ∧ found.lookup key = none ∧
        ∃ a, c.read v = .ok a ∧ c.readEntries (found ++ [(key, a)]) entries = .ok all := by
  rw [readEntries]
  by_cases hkey : key ∈ c.keys
  · rw [if_neg (not_not.2 hkey)]
    cases hfound : found.lookup key with
    | some a => simp
    | none =>
      rw [Option.isSome_none, if_neg Bool.false_ne_true, bind_eq_ok]
      simp [hkey]
  · rw [if_pos hkey]
    simp [hkey]

/-- The entries are read behind what was found before: each under a known key of its own. -/
structure Finds (c : Schema α σ) (found : List (String × α)) (entries : List (String × Data))
    (all : List (String × α)) : Prop where
  distinct : (entries.map Prod.fst).Nodup
  known : ∀ key v, (key, v) ∈ entries → key ∈ c.keys ∧ found.lookup key = none
  given : ∀ key v, (key, v) ∈ entries → ∃ a, c.read v = .ok a ∧ all.lookup key = some a
  other : ∀ key, key ∉ entries.map Prod.fst → all.lookup key = found.lookup key

theorem finds_of_readEntries (h : c.readEntries found entries = .ok all) : Finds c found entries all := by
  induction entries generalizing found with
  | nil =>
    obtain rfl := Except.ok.inj h
    exact ⟨List.nodup_nil, nofun, nofun, fun _ _ => rfl⟩
  | cons entry entries ih =>
    obtain ⟨key, v⟩ := entry
    obtain ⟨hkey, hnew, a, ha, hrest⟩ := readEntries_cons_ok_iff.1 h
    obtain ⟨hdistinct, hknown, hgiven, hother⟩ := ih hrest
    have hfirst : key ∉ entries.map Prod.fst := by
      intro hmem
      obtain ⟨⟨_, w⟩, hw, rfl⟩ := List.mem_map.1 hmem
      have := (hknown _ w hw).2
      rw [lookup_concat_self a hnew] at this
      cases this
    refine ⟨List.nodup_cons.2 ⟨hfirst, hdistinct⟩, ?_, ?_, ?_⟩
    · intro key' w hw
      rcases List.mem_cons.1 hw with heq | hw
      · cases heq
        exact ⟨hkey, hnew⟩
      · have := hknown key' w hw
        rwa [lookup_concat_of_ne a (ne_of_notMem_keys hfirst hw)] at this
    · intro key' w hw
      rcases List.mem_cons.1 hw with heq | hw
      · cases heq
        exact ⟨a, ha, by rw [hother key hfirst, lookup_concat_self a hnew]⟩
      · exact hgiven key' w hw
    · intro key' hkey'
      rw [List.map_cons, List.mem_cons, not_or] at hkey'
      rw [hother key' hkey'.2, lookup_concat_of_ne a hkey'.1]

variable {bad : Data → Prop} {faultOf : Data → Fault → Prop}

theorem readEntries_fault (h : Refuses c.read bad faultOf) {entry : String × Data} {fault : Fault}
    (hnew : found.lookup entry.1 = none) (hfault : EntryFault c.keys faultOf entry fault) :
    c.readEntries found (entry :: entries) = .error fault := by
  cases hfault with
  | key key v hkey => rw [readEntries, if_pos hkey]
  | value key v _ hkey hv =>
    rw [readEntries, if_neg (not_not.2 hkey), hnew, Option.isSome_none, if_neg Bool.false_ne_true,
      (h.fault_iff v fault).2 hv, error_bind]

theorem readEntries_given {v : Data} {a : α} (hkey : key ∈ c.keys) (hnew : found.lookup key = none)
    (ha : c.read v = .ok a) :
    c.readEntries found ((key, v) :: entries) = c.readEntries (found ++ [(key, a)]) entries := by
  rw [readEntries, if_neg (not_not.2 hkey), hnew, Option.isSome_none, if_neg Bool.false_ne_true, ha, ok_bind]

/-- An entry has a fault exactly if it is a bad one. -/
theorem exists_entryFault_iff (h : Refuses c.read bad faultOf) (entry : String × Data) :
    (∃ fault, EntryFault c.keys faultOf entry fault) ↔ BadEntry c.keys bad entry := by
  constructor
  · rintro ⟨fault, hfault⟩
    cases hfault with
    | key key v hkey => exact Or.inl hkey
    | value key v _ _ hv => exact Or.inr ((h.bad_iff v).2 ⟨fault, (h.fault_iff v fault).2 hv⟩)
  · intro hbad
    by_cases hkey : entry.1 ∈ c.keys
    · obtain ⟨fault, hv⟩ := (h.bad_iff entry.2).1 (hbad.resolve_left (not_not.2 hkey))
      exact ⟨fault, EntryFault.value entry.1 entry.2 fault hkey ((h.fault_iff entry.2 fault).1 hv)⟩
    · exact ⟨_, EntryFault.key entry.1 entry.2 hkey⟩

/-- **The first bad entry gives the fault** of a table whose keys are its own. -/
theorem readEntries_error_iff (h : Refuses c.read bad faultOf) (hkeys : (entries.map Prod.fst).Nodup)
    (hnew : ∀ entry ∈ entries, found.lookup entry.1 = none) (fault : Fault) :
    c.readEntries found entries = .error fault ↔
      ∃ entry, IsFirst (BadEntry c.keys bad) entries entry ∧ EntryFault c.keys faultOf entry fault := by
  induction entries generalizing found with
  | nil => simp [readEntries, not_isFirst_nil]
  | cons entry entries ih =>
    rw [List.map_cons, List.nodup_cons] at hkeys
    obtain ⟨hfirst, hrest⟩ := List.forall_mem_cons.1 hnew
    by_cases hbad : BadEntry c.keys bad entry
    · obtain ⟨fault', hfault'⟩ := (exists_entryFault_iff h entry).2 hbad
      have hstop : c.readEntries found (entry :: entries) = .error fault' := readEntries_fault h hfirst hfault'
      simp only [isFirst_cons_of_bad _ hbad, exists_eq_left]
      constructor
      · intro hloop
        obtain rfl := Except.error.inj (hstop.symm.trans hloop)
        exact hfault'
      · exact readEntries_fault h hfirst
    · obtain ⟨key, v⟩ := entry
      simp only [isFirst_cons_of_good _ hbad]
      rw [BadEntry, not_or, not_not] at hbad
      obtain ⟨a, ha⟩ := (h.ok_iff v).2 hbad.2
      rw [readEntries_given hbad.1 hfirst ha]
      apply ih hkeys.2
      intro other hmem
      rw [lookup_concat_of_ne a (ne_of_notMem_keys hkeys.1 hmem)]
      exact hrest other hmem

/-- Entries are read whose keys are their own, as long as none is at fault. -/
theorem exists_readEntries_iff (h : Refuses c.read bad faultOf) :
    (∃ all, c.readEntries [] entries = .ok all) ↔
      (entries.map Prod.fst).Nodup ∧ ∀ entry ∈ entries, ¬ BadEntry c.keys bad entry := by
  constructor
  · rintro ⟨all, hall⟩
    obtain ⟨hdistinct, hknown, hgiven, -⟩ := finds_of_readEntries hall
    refine ⟨hdistinct, ?_⟩
    rintro ⟨key, v⟩ hmem (hbad | hbad)
    · exact hbad (hknown key v hmem).1
    · obtain ⟨a, ha, -⟩ := hgiven key v hmem
      exact (h.ok_iff v).1 ⟨a, ha⟩ hbad
  · rintro ⟨hdistinct, hgood⟩
    apply Classical.byContradiction
    intro hno
    obtain ⟨fault, hfault⟩ := not_exists_ok_iff.1 hno
    obtain ⟨entry, hfirst, -⟩ := (readEntries_error_iff h hdistinct (fun _ _ => rfl) fault).1 hfault
    obtain ⟨entry, hmem, hbad⟩ := (exists_isFirst_iff _ entries).1 ⟨entry, hfirst⟩
    exact hgood entry hmem hbad

/-! ## The items of an array -/

theorem readItems_error_iff (h : Refuses c.read bad faultOf) (keys : List String) (items : List Data)
    (fault : Fault) :
    c.readItems keys items = .error fault ↔
      ∃ v, IsFirst bad (items.take keys.length) v ∧ faultOf v fault := by
  induction keys generalizing items with
  | nil => simp [readItems, not_isFirst_nil]
  | cons key keys ih =>
    cases items with
    | nil => simp [readItems, not_isFirst_nil]
    | cons v items =>
      rw [List.length_cons, List.take_succ_cons, readItems]
      by_cases hbad : bad v
      · obtain ⟨fault', hv⟩ := (h.bad_iff v).1 hbad
        simp only [isFirst_cons_of_bad bad hbad, exists_eq_left, ← h.fault_iff, hv, error_bind,
          Except.error.injEq]
      · obtain ⟨a, ha⟩ := (h.ok_iff v).2 hbad
        simp only [isFirst_cons_of_good bad hbad, ha, ok_bind, ← ih, bind_eq_error, pure, Except.pure,
          reduceCtorEq, and_false, exists_false, or_false]

theorem readItems_fails_iff (h : Refuses c.read bad faultOf) (keys : List String) (items : List Data) :
    (∃ fault, c.readItems keys items = .error fault) ↔ ∃ v ∈ items.take keys.length, bad v := by
  simp only [readItems_error_iff h, ← exists_isFirst_iff bad]
  constructor
  · rintro ⟨fault, v, hv, -⟩
    exact ⟨v, hv⟩
  · rintro ⟨v, hv⟩
    obtain ⟨fault, hfault⟩ := (h.bad_iff v).1 hv.bad
    exact ⟨fault, v, hv, (h.fault_iff v fault).1 hfault⟩

theorem exists_readItems_iff (h : Refuses c.read bad faultOf) (keys : List String) (items : List Data) :
    (∃ all, c.readItems keys items = .ok all) ↔ ∀ v ∈ items.take keys.length, ¬ bad v := by
  rw [← not_iff_not, not_exists_ok_iff, readItems_fails_iff h]
  push Not
  rfl

/-- The items of an array are entries under the keys. -/
theorem readEntries_zip {keys : List String} {items : List Data} (hknown : ∀ key ∈ keys, key ∈ c.keys)
    (hkeys : keys.Nodup) (hnew : ∀ key ∈ keys, found.lookup key = none)
    (h : c.readItems keys items = .ok all) : c.readEntries found (keys.zip items) = .ok (found ++ all) := by
  induction keys generalizing found items all with
  | nil =>
    obtain rfl := Except.ok.inj h
    rw [List.zip_nil_left, readEntries, List.append_nil]
  | cons key keys ih =>
    cases items with
    | nil =>
      obtain rfl := Except.ok.inj h
      rw [List.zip_nil_right, readEntries, List.append_nil]
    | cons v items =>
      rw [readItems, bind_eq_ok] at h
      obtain ⟨a, ha, h⟩ := h
      obtain ⟨rest, hrest, h⟩ := bind_eq_ok.1 h
      obtain rfl := Except.ok.inj h
      obtain ⟨hfirst, hnew⟩ := List.forall_mem_cons.1 hnew
      obtain ⟨hkey, hknown⟩ := List.forall_mem_cons.1 hknown
      rw [List.nodup_cons] at hkeys
      rw [List.zip_cons_cons, readEntries_given hkey hfirst ha, ih hknown hkeys.2 _ hrest, List.append_assoc,
        List.singleton_append]
      intro other hmem
      have hne : other ≠ key := by
        rintro rfl
        exact hkeys.1 hmem
      rw [lookup_concat_of_ne a hne]
      exact hnew other hmem

/-! ## What data hold -/

variable {format : Format} {items : List Data}

theorem decode_table_ok_iff {t : σ} :
    c.decode format (.table entries) = .ok t ↔ ∃ all, c.readEntries [] entries = .ok all ∧ c.build all = t := by
  rw [decode, bind_eq_ok]
  simp only [pure, Except.pure, Except.ok.injEq]

theorem decode_table_error_iff {fault : Fault} :
    c.decode format (.table entries) = .error fault ↔ c.readEntries [] entries = .error fault := by
  rw [decode, bind_eq_error]
  simp only [pure, Except.pure, reduceCtorEq, and_false, exists_false, or_false]

theorem decode_array_ok_iff {t : σ} :
    c.decode format (.array items) = .ok t ↔
      ¬ (format.exactLength = true ∧ c.keys.length < items.length) ∧
        ∃ all, c.readItems c.keys items = .ok all ∧ c.build all = t := by
  rw [decode, bind_eq_ok]
  constructor
  · rintro ⟨all, hall, hrest⟩
    split at hrest
    · cases hrest
    · next hlong =>
      rw [Bool.and_eq_true, decide_eq_true_eq] at hlong
      exact ⟨hlong, all, hall, Except.ok.inj hrest⟩
  · rintro ⟨hlong, all, hall, rfl⟩
    rw [← decide_eq_true_eq (p := _ < _), ← Bool.and_eq_true] at hlong
    exact ⟨all, hall, if_neg hlong⟩

theorem decode_array_error_iff (h : Refuses c.read bad faultOf) (fault : Fault) :
    c.decode format (.array items) = .error fault ↔
      (∃ v, IsFirst bad (items.take c.keys.length) v ∧ faultOf v fault) ∨
      (∀ v ∈ items.take c.keys.length, ¬ bad v) ∧
        (format.exactLength = true ∧ c.keys.length < items.length) ∧ fault = .tooManyItems items.length := by
  rw [← readItems_error_iff h, ← exists_readItems_iff h, decode, bind_eq_error]
  constructor
  · rintro (hitems | ⟨all, hall, hrest⟩)
    · exact Or.inl hitems
    · split at hrest
      · next hlong =>
        rw [Bool.and_eq_true, decide_eq_true_eq] at hlong
        exact Or.inr ⟨⟨all, hall⟩, hlong, (Except.error.inj hrest).symm⟩
      · cases hrest
  · rintro (hitems | ⟨⟨all, hall⟩, hlong, rfl⟩)
    · exact Or.inl hitems
    · rw [← decide_eq_true_eq (p := _ < _), ← Bool.and_eq_true] at hlong
      exact Or.inr ⟨all, hall, if_pos hlong⟩

theorem exists_decode_table_iff (h : Refuses c.read bad faultOf) :
    (∃ t, c.decode format (.table entries) = .ok t) ↔ ¬ Wrong c.keys bad format (.table entries) := by
  rw [wrong_table_iff, not_or, not_not, and_comm]
  push Not
  rw [← exists_readEntries_iff h]
  simp only [decode_table_ok_iff]
  constructor
  · rintro ⟨t, all, hall, -⟩
    exact ⟨all, hall⟩
  · rintro ⟨all, hall⟩
    exact ⟨_, all, hall, rfl⟩

theorem exists_decode_array_iff (h : Refuses c.read bad faultOf) :
    (∃ t, c.decode format (.array items) = .ok t) ↔ ¬ Wrong c.keys bad format (.array items) := by
  rw [wrong_array_iff, not_or, not_exists]
  simp only [decode_array_ok_iff, not_and]
  rw [← exists_readItems_iff h]
  constructor
  · rintro ⟨t, hlong, all, hall, -⟩
    exact ⟨⟨all, hall⟩, hlong⟩
  · rintro ⟨⟨all, hall⟩, hlong⟩
    exact ⟨_, hlong, all, hall, rfl⟩

/-- Reading fails exactly on data that are wrong. -/
theorem decode_fails_iff (h : Refuses c.read bad faultOf) (v : Data) :
    (∃ fault, c.decode format v = .error fault) ↔ Wrong c.keys bad format v := by
  cases v with
  | table entries => rw [← not_exists_ok_iff, exists_decode_table_iff h, not_not]
  | array items => rw [← not_exists_ok_iff, exists_decode_array_iff h, not_not]
  | datetime text =>
    rw [wrong_datetime_iff, ← not_not (a := Wrong _ _ _ _), ← exists_decode_table_iff h, not_exists_ok_iff]
    rfl
  | _ =>
    constructor
    · intro _
      exact Wrong.kind _ nofun nofun nofun
    · intro _
      exact ⟨_, rfl⟩

end

end Schema

end Caret
