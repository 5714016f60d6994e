import Caret.Configuration
import Caret.Proofs.Decoding
import Mathlib.Data.List.Perm.Basic

/-!
# What settings are decoded

Where data hold settings, these have the values given under their own keys and the standard values in the others
(`Holds`).  That speaks of the entries alone and not of their order, so the order does not count
(`decode_table_perm`).  Where data hold none, the fault told is that of the first entry at fault, and what stands
behind that one does not count.

* `holds_iff`: entries that were read are held by the settings put together from them, and by no others.
* `decode_table_ok_iff`, `decode_array_ok_iff`: a table, and an array as a table under the keys in order.
* `decodeConfiguration_ok_iff`: one level up, with the section of the settings as the only key.

An array with more items than keys is at fault in JSON.  In TOML the items past the last key are not looked at
(`long_array_accepted`).
-/

namespace Caret.Settings

open Schema

/-! ## Values under their keys -/

/-- The value is the one given under a key, or the other one where none is given. -/
structure Given (entries : List (String × Data)) (key : String) (other value : Nat) : Prop where
  given : ∀ n : Nat, (key, Data.integer n) ∈ entries → value = n
  absent : (∀ v, (key, v) ∉ entries) → value = other

/-- The settings have the values given under their own keys, and those of `base` in the others. -/
structure Holds (base : Settings) (entries : List (String × Data)) (s : Settings) : Prop where
  rightMargin : Given entries "right_margin" base.rightMargin s.rightMargin
  window : Given entries "window" base.window s.window
  maxWidth : Given entries "max_width" base.maxWidth s.maxWidth

section
variable {entries entries' : List (String × Data)} {all : List (String × Nat)} {t : Settings}

theorem Given.perm {key : String} {other value : Nat} (h : Given entries key other value)
    (hperm : entries'.Perm entries) : Given entries' key other value where
  given n hmem := h.given n (hperm.mem_iff.1 hmem)
  absent hnone := h.absent fun v hmem => hnone v (hperm.mem_iff.2 hmem)

theorem Holds.perm {base : Settings} (h : Holds base entries t) (hperm : entries'.Perm entries) :
    Holds base entries' t :=
  ⟨h.rightMargin.perm hperm, h.window.perm hperm, h.maxWidth.perm hperm⟩

/-- What was read under a key is the size that is given there. -/
theorem exists_size (h : Finds schema [] entries all) {key : String} {v : Data} (hmem : (key, v) ∈ entries) :
    ∃ n : Nat, v = .integer n ∧ all.lookup key = some n := by
  obtain ⟨n, hn, hlookup⟩ := h.given key v hmem
  exact ⟨n, (decodeSize_eq_ok_iff.1 hn).1, hlookup⟩

/-- In entries that were read, what is given under a key is what was found there. -/
theorem given_iff (h : Finds schema [] entries all) (key : String) (other value : Nat) :
    Given entries key other value ↔ (all.lookup key).getD other = value := by
  by_cases hmem : ∃ v, (key, v) ∈ entries
  · obtain ⟨v, hv⟩ := hmem
    obtain ⟨n, rfl, hlookup⟩ := exists_size h hv
    rw [hlookup, Option.getD_some]
    constructor
    · intro hgiven
      exact (hgiven.given n hv).symm
    · rintro rfl
      refine ⟨?_, fun hnone => absurd hv (hnone _)⟩
      intro m hm
      obtain ⟨m', heq, hlookup'⟩ := exists_size h hm
      obtain rfl := Int.ofNat.inj (Data.integer.inj heq)
      exact Option.some.inj (hlookup.symm.trans hlookup')
  · have habsent := not_exists.1 hmem
    have hkey : key ∉ entries.map Prod.fst := by
      intro hkey
      obtain ⟨⟨_, v⟩, hv, rfl⟩ := List.mem_map.1 hkey
      exact habsent v hv
    rw [h.other key hkey, List.lookup_nil, Option.getD_none]
    constructor
    · intro hgiven
      exact (hgiven.absent habsent).symm
    · rintro rfl
      exact ⟨fun n hn => absurd hn (habsent _), fun _ => rfl⟩

/-- Entries that were read are held by the settings put together from them, and by no others. -/
theorem holds_iff (h : Finds schema [] entries all) : Holds ⟨40, 30, 70⟩ entries t ↔ schema.build all = t := by
  obtain ⟨rightMargin, window, maxWidth⟩ := t
  show _ ↔ (⟨(all.lookup "right_margin").getD 40, (all.lookup "window").getD 30,
    (all.lookup "max_width").getD 70⟩ : Settings) = _
  rw [Settings.mk.injEq, ← given_iff h, ← given_iff h, ← given_iff h]
  constructor
  · rintro ⟨h₁, h₂, h₃⟩
    exact ⟨h₁, h₂, h₃⟩
  · rintro ⟨h₁, h₂, h₃⟩
    exact ⟨h₁, h₂, h₃⟩

/-! ## Tables and arrays -/

variable (format : Format)

theorem decode_table_ok_iff (hkeys : (entries.map Prod.fst).Nodup) :
    decode format (.table entries) = .ok t ↔
      (∀ entry ∈ entries, ¬ BadEntry ["right_margin", "window", "max_width"] (¬ IsSize ·) entry) ∧
        Holds ⟨40, 30, 70⟩ entries t := by
  have hread : (∃ all, schema.readEntries [] entries = .ok all) ↔ _ := exists_readEntries_iff size_refuses
  rw [decode, Schema.decode_table_ok_iff]
  constructor
  · rintro ⟨all, hall, hbuild⟩
    exact ⟨(hread.1 ⟨all, hall⟩).2, (holds_iff (finds_of_readEntries hall)).2 hbuild⟩
  · rintro ⟨hgood, hholds⟩
    obtain ⟨all, hall⟩ := hread.2 ⟨hkeys, hgood⟩
    exact ⟨all, hall, (holds_iff (finds_of_readEntries hall)).1 hholds⟩

theorem not_badEntry_iff (keys : List String) (entry : String × Data) :
    ¬ BadEntry keys (¬ IsSize ·) entry ↔ entry.1 ∈ keys ∧ IsSize entry.2 := by
  rw [BadEntry, not_or, not_not, not_not]

/-- A table of known keys and sizes holds settings. -/
theorem exists_decode_table_iff (hkeys : (entries.map Prod.fst).Nodup) :
    (∃ t, decode format (.table entries) = .ok t) ↔
      ∀ entry ∈ entries, entry.1 ∈ ["right_margin", "window", "max_width"] ∧ IsSize entry.2 := by
  simp only [← not_badEntry_iff]
  constructor
  · rintro ⟨t, ht⟩
    exact ((decode_table_ok_iff format hkeys).1 ht).1
  · intro hgood
    obtain ⟨all, hall⟩ := (exists_readEntries_iff (c := schema) size_refuses).2 ⟨hkeys, hgood⟩
    exact ⟨_, Schema.decode_table_ok_iff.2 ⟨all, hall, rfl⟩⟩

/-- The order of the entries does not count where they hold settings. -/
theorem decode_table_perm (hkeys : (entries.map Prod.fst).Nodup) (hperm : entries'.Perm entries)
    (h : decode format (.table entries) = .ok t) : decode format (.table entries') = .ok t := by
  have hkeys' : (entries'.map Prod.fst).Nodup := (hperm.map Prod.fst).nodup_iff.2 hkeys
  obtain ⟨hgood, hholds⟩ := (decode_table_ok_iff format hkeys).1 h
  rw [decode_table_ok_iff format hkeys']
  exact ⟨fun entry hmem => hgood entry (hperm.mem_iff.1 hmem), hholds.perm hperm⟩

theorem decode_table_error_iff (hkeys : (entries.map Prod.fst).Nodup) (fault : Fault) :
    decode format (.table entries) = .error fault ↔
      ∃ entry, IsFirst (BadEntry ["right_margin", "window", "max_width"] (¬ IsSize ·)) entries entry ∧
        EntryFault ["right_margin", "window", "max_width"] SizeFault entry fault := by
  rw [decode, Schema.decode_table_error_iff]
  exact readEntries_error_iff (c := schema) size_refuses hkeys (fun _ _ => rfl) fault

theorem decode_array_ok_iff (items : List Data) (t : Settings) :
    decode format (.array items) = .ok t ↔
      (∀ v ∈ items.take 3, IsSize v) ∧ ¬ (format.exactLength = true ∧ 3 < items.length) ∧
        Holds ⟨40, 30, 70⟩ (["right_margin", "window", "max_width"].zip items) t := by
  have hread := exists_readItems_iff (c := schema) size_refuses schema.keys items
  simp only [not_not] at hread
  have hfinds : ∀ all, schema.readItems schema.keys items = .ok all →
      Finds schema [] (["right_margin", "window", "max_width"].zip items) all := by
    intro all hall
    exact finds_of_readEntries (readEntries_zip (fun _ h => h) (by decide) (fun _ _ => rfl) hall)
  rw [decode, Schema.decode_array_ok_iff]
  constructor
  · rintro ⟨hlong, all, hall, hbuild⟩
    exact ⟨hread.1 ⟨all, hall⟩, hlong, (holds_iff (hfinds all hall)).2 hbuild⟩
  · rintro ⟨hsizes, hlong, hholds⟩
    obtain ⟨all, hall⟩ := hread.2 hsizes
    exact ⟨hlong, all, hall, (holds_iff (hfinds all hall)).1 hholds⟩

theorem decode_array_error_iff (items : List Data) (fault : Fault) :
    decode format (.array items) = .error fault ↔
      (∃ v, IsFirst (¬ IsSize ·) (items.take 3) v ∧ SizeFault v fault) ∨
      (∀ v ∈ items.take 3, IsSize v) ∧ (format.exactLength = true ∧ 3 < items.length) ∧
        fault = .tooManyItems items.length := by
  have h : schema.decode format (.array items) = .error fault ↔ _ :=
    Schema.decode_array_error_iff size_refuses fault
  simp only [not_not] at h
  exact h

/-! ## Configurations -/

/-- A configuration holds the settings of its section, and the standard ones without it. -/
theorem decodeConfiguration_table_ok_iff :
    decodeConfiguration format (.table entries) = .ok t ↔
      entries = [] ∧ t = ⟨40, 30, 70⟩ ∨ ∃ v, entries = [("locate", v)] ∧ decode format v = .ok t := by
  rw [decodeConfiguration, Schema.decode_table_ok_iff]
  constructor
  · rintro ⟨all, hall, rfl⟩
    cases entries with
    | nil =>
      obtain rfl := Except.ok.inj hall
      exact Or.inl ⟨rfl, rfl⟩
    | cons entry entries =>
      obtain ⟨key, v⟩ := entry
      obtain ⟨hkey, -, a, ha, hrest⟩ := readEntries_cons_ok_iff.1 hall
      obtain rfl := List.mem_singleton.1 hkey
      cases entries with
      | nil =>
        obtain rfl := Except.ok.inj hrest
        exact Or.inr ⟨v, rfl, ha⟩
      | cons next entries =>
        -- the section stands there twice
        obtain ⟨hkey, hnew, -⟩ := readEntries_cons_ok_iff.1 hrest
        rw [List.mem_singleton.1 hkey] at hnew
        cases hnew
  · rintro (⟨rfl, rfl⟩ | ⟨v, rfl, hv⟩)
    · exact ⟨[], rfl, rfl⟩
    · exact ⟨[("locate", t)], readEntries_cons_ok_iff.2 ⟨List.mem_singleton.2 rfl, rfl, t, hv, rfl⟩, rfl⟩

/-- An array has the section of the settings as its first item. -/
theorem decodeConfiguration_array_ok_iff (items : List Data) :
    decodeConfiguration format (.array items) = .ok t ↔
      ¬ (format.exactLength = true ∧ 1 < items.length) ∧
        (items = [] ∧ t = ⟨40, 30, 70⟩ ∨ ∃ v rest, items = v :: rest ∧ decode format v = .ok t) := by
  rw [decodeConfiguration, Schema.decode_array_ok_iff]
  apply and_congr_right
  intro _
  constructor
  · rintro ⟨all, hall, rfl⟩
    cases items with
    | nil =>
      obtain rfl := Except.ok.inj hall
      exact Or.inl ⟨rfl, rfl⟩
    | cons v rest =>
      obtain ⟨a, ha, hrest⟩ := bind_eq_ok.1 hall
      obtain rfl := Except.ok.inj hrest
      exact Or.inr ⟨v, rest, rfl, ha⟩
  · rintro (⟨rfl, rfl⟩ | ⟨v, rest, rfl, hv⟩)
    · exact ⟨[], rfl, rfl⟩
    · exact ⟨[("locate", t)], bind_eq_ok.2 ⟨t, hv, rfl⟩, rfl⟩

theorem decodeConfiguration_table_error_iff (hkeys : (entries.map Prod.fst).Nodup) (fault : Fault) :
    decodeConfiguration format (.table entries) = .error fault ↔
      ∃ entry, IsFirst (BadEntry ["locate"] (WrongSettings format)) entries entry ∧
        EntryFault ["locate"] (fun v fault => decode format v = .error fault) entry fault := by
  rw [decodeConfiguration, Schema.decode_table_error_iff]
  exact readEntries_error_iff (c := configurationSchema format) (settings_refuses format) hkeys
    (fun _ _ => rfl) fault

end

/-! ## Top theorem -/

/-- **Which data hold settings, and which fault is told of the others.** A table of known keys and sizes holds them,
in any order; of any other the first entry at fault is told.  The items of an array are values of the keys in order;
the first item at fault is told, and then, where the format counts the items, that there are too many.  A
configuration is a table with the section of the settings, or without, or an array of that section. -/
theorem decode_decided (format : Format) :
    (∀ entries : List (String × Data), (entries.map Prod.fst).Nodup →
      ((∃ t, decode format (.table entries) = .ok t) ↔
        ∀ entry ∈ entries, entry.1 ∈ ["right_margin", "window", "max_width"] ∧ IsSize entry.2) ∧
      (∀ t, decode format (.table entries) = .ok t →
        Holds ⟨40, 30, 70⟩ entries t ∧
        ∀ entries' : List (String × Data), entries'.Perm entries → decode format (.table entries') = .ok t) ∧
      ∀ fault, decode format (.table entries) = .error fault ↔
        ∃ entry, IsFirst (BadEntry ["right_margin", "window", "max_width"] (¬ IsSize ·)) entries entry ∧
          EntryFault ["right_margin", "window", "max_width"] SizeFault entry fault) ∧
    (∀ items : List Data,
      (∀ t, decode format (.array items) = .ok t ↔
        (∀ v ∈ items.take 3, IsSize v) ∧ ¬ (format.exactLength = true ∧ 3 < items.length) ∧
          Holds ⟨40, 30, 70⟩ (["right_margin", "window", "max_width"].zip items) t) ∧
      ∀ fault, decode format (.array items) = .error fault ↔
        (∃ v, IsFirst (¬ IsSize ·) (items.take 3) v ∧ SizeFault v fault) ∨
        (∀ v ∈ items.take 3, IsSize v) ∧ (format.exactLength = true ∧ 3 < items.length) ∧
          fault = .tooManyItems items.length) ∧
    (∀ entries : List (String × Data), (entries.map Prod.fst).Nodup →
      (∀ t, decodeConfiguration format (.table entries) = .ok t ↔
        entries = [] ∧ t = ⟨40, 30, 70⟩ ∨ ∃ v, entries = [("locate", v)] ∧ decode format v = .ok t) ∧
      ∀ fault, decodeConfiguration format (.table entries) = .error fault ↔
        ∃ entry, IsFirst (BadEntry ["locate"] (WrongSettings format)) entries entry ∧
          EntryFault ["locate"] (fun v fault => decode format v = .error fault) entry fault) ∧
    (∀ items : List Data,
      (∀ t, decodeConfiguration format (.array items) = .ok t ↔
        ¬ (format.exactLength = true ∧ 1 < items.length) ∧
          (items = [] ∧ t = ⟨40, 30, 70⟩ ∨ ∃ v rest, items = v :: rest ∧ decode format v = .ok t)) ∧
      ∀ fault, decodeConfiguration format (.array items) = .error fault ↔
        (∃ v, IsFirst (WrongSettings format) (items.take 1) v ∧ decode format v = .error fault) ∨
        (∀ v ∈ items.take 1, ¬ WrongSettings format v) ∧ (format.exactLength = true ∧ 1 < items.length) ∧
          fault = .tooManyItems items.length) ∧
    Format.json.exactLength = true ∧ Format.toml.exactLength = false := by
  refine ⟨?_, ?_, ?_, ?_, rfl, rfl⟩
  · intro entries hkeys
    refine ⟨exists_decode_table_iff format hkeys, ?_, decode_table_error_iff format hkeys⟩
    intro t ht
    refine ⟨((decode_table_ok_iff format hkeys).1 ht).2, ?_⟩
    intro entries' hperm
    exact decode_table_perm format hkeys hperm ht
  · intro items
    exact ⟨decode_array_ok_iff format items, decode_array_error_iff format items⟩
  · intro entries hkeys
    exact ⟨fun t => decodeConfiguration_table_ok_iff format, decodeConfiguration_table_error_iff format hkeys⟩
  · intro items
    exact ⟨fun t => decodeConfiguration_array_ok_iff format items,
      Schema.decode_array_error_iff (c := configurationSchema format) (settings_refuses format)⟩

/-- Two entries in either order, an array that is too long, and a configuration of them. -/
theorem decode_decided_two_orders :
    let entries : List (String × Data) := [("window", .integer 0xFFFFFFFFFFFFFFFF), ("max_width", .integer 5)]
    let long : List Data := [.integer 1, .integer 2, .integer 3, .null]
    (entries.map Prod.fst).Nodup ∧ entries.reverse.Perm entries ∧
      decode .json (.table entries) = .ok ⟨40, 0xFFFFFFFFFFFFFFFF, 5⟩ ∧
      decode .json (.table entries.reverse) = .ok ⟨40, 0xFFFFFFFFFFFFFFFF, 5⟩ ∧
      (∀ v ∈ long.take 3, IsSize v) ∧ decode .json (.array long) = .error (.tooManyItems 4) ∧
      ([("locate", Data.table entries)].map Prod.fst).Nodup ∧
      decodeConfiguration .json (.table [("locate", .table entries)]) = .ok ⟨40, 0xFFFFFFFFFFFFFFFF, 5⟩ := by
  intro entries long
  have hkeys : (entries.map Prod.fst).Nodup := by decide
  have hperm : entries.reverse.Perm entries := List.reverse_perm entries
  have hok : decode .json (.table entries) = .ok ⟨40, 0xFFFFFFFFFFFFFFFF, 5⟩ := rfl
  have hsizes : ∀ v ∈ long.take 3, IsSize v := by
    intro v hv
    have hv : v = .integer 1 ∨ v = .integer 2 ∨ v = .integer 3 := by simpa [long] using hv
    rcases hv with rfl | rfl | rfl
    · exact IsSize.integer 1 (by decide)
    · exact IsSize.integer 2 (by decide)
    · exact IsSize.integer 3 (by decide)
  have hsection : ([("locate", Data.table entries)].map Prod.fst).Nodup := by decide
  obtain ⟨htable, harray, hconfiguration, -⟩ := decode_decided .json
  obtain ⟨-, horder, -⟩ := htable entries hkeys
  obtain ⟨-, hfault⟩ := harray long
  obtain ⟨hheld, -⟩ := hconfiguration _ hsection
  exact ⟨hkeys, hperm, hok, (horder _ hok).2 _ hperm, hsizes,
    (hfault _).2 (Or.inr ⟨hsizes, ⟨rfl, by decide⟩, rfl⟩), hsection, (hheld _).2 (Or.inr ⟨_, rfl, hok⟩)⟩

/-- Not every array with more items than fields is at fault: in TOML it holds settings. -/
theorem long_array_accepted :
    Configuration.parse "locate = [1, 2, 3, 4]" = .ok ⟨1, 2, 3⟩ ∧
      ¬ ∀ (format : Format) (items : List Data), (∀ v ∈ items.take 3, IsSize v) →
        ((∃ count, decode format (.array items) = .error (.tooManyItems count)) ↔ 3 < items.length) := by
  refine ⟨by decide +kernel, ?_⟩
  intro hall
  let items : List Data := [.integer 1, .integer 2, .integer 3, .integer 4]
  have hok : decode .toml (.array items) = .ok ⟨1, 2, 3⟩ := rfl
  have hsizes : ∀ v ∈ items.take 3, IsSize v := ((decode_array_ok_iff .toml items _).1 hok).1
  obtain ⟨count, hcount⟩ := (hall .toml items hsizes).2 (by decide)
  rw [hok] at hcount
  cases hcount

end Caret.Settings
