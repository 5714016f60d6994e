import Caret.Configuration
import Caret.Proofs.Decoding

/-!
# The file that decides

A path that is given decides, whatever stands there; without one the first of the candidates that anything
stands at does (`Decides`).  Where neither is so, there is no file (`NoFile`).

* `load_eq_of_decides`: the deciding file is loaded, and nothing else is looked at.
* `load_eq_of_noFile`: without a file the standard settings are used.
* `ofState_outcome`: what comes of a path, by what stands there.
* `ofState_missing_iff`, `ofState_io_iff`, `ofState_parse_iff`: the three ways a deciding path fails, each by
  what stands there (`Unreadable`, `BadContent`).
* `ofState_ok_iff`: the one way it gives settings (`GoodContent`).

So a file that is there and cannot be used is an error: the search goes on past absent files only
(`load_decided`).
-/

namespace Caret.Configuration

open Text

/-! ## The deciding path -/

/-- The places where a configuration is looked for, in order, when no path is given. -/
def candidates (files : Files) : List String := "pinpoint/config.toml" :: files.systemConfig.toList

/-- The path whose state decides about the configuration. -/
inductive Decides (files : Files) : Option String → String → Prop
  | given (path : String) : Decides files (some path) path
  | found (before after : List String) (path : String) :
      candidates files = before ++ path :: after →
      (∀ earlier ∈ before, (files.state earlier).isPresent = false) →
      (files.state path).isPresent = true → Decides files none path

/-- No path is given, and nothing stands at any candidate. -/
structure NoFile (files : Files) (explicit : Option String) : Prop where
  not_given : explicit = none
  absent : ∀ path ∈ candidates files, (files.state path).isPresent = false

/-- How the record of a loaded file calls the place where it was found. -/
def placeName : Option String → String → String
  | some _, _ => "explicit"
  | none, path => if path = "pinpoint/config.toml" then "local" else "system"

section
variable {files : Files} {explicit : Option String} {path : String}

theorem exists_decides_or_noFile (files : Files) (explicit : Option String) :
    (∃ path, Decides files explicit path) ∨ NoFile files explicit := by
  cases explicit with
  | some path => exact Or.inl ⟨path, Decides.given path⟩
  | none =>
    cases h : (candidates files).find? fun path => (files.state path).isPresent with
    | some path =>
      obtain ⟨hpath, before, after, hsplit, hbefore⟩ := List.find?_eq_some_iff_append.1 h
      refine Or.inl ⟨path, Decides.found before after path hsplit ?_ hpath⟩
      intro earlier hmem
      simpa using hbefore earlier hmem
    | none =>
      refine Or.inr ⟨rfl, ?_⟩
      intro path hmem
      simpa using List.find?_eq_none.1 h path hmem

theorem not_noFile_of_decides (h : Decides files explicit path) : ¬ NoFile files explicit := by
  rintro ⟨hnone, habsent⟩
  cases h with
  | given => cases hnone
  | found before after _ hsplit _ hpresent =>
    have hmem : path ∈ candidates files := by
      rw [hsplit]
      exact List.mem_append_right before List.mem_cons_self
    rw [habsent path hmem] at hpresent
    cases hpresent

/-! ## What the search does -/

/-- **The deciding file is loaded**, and its record names the place it was found at. -/
theorem load_eq_of_decides (h : Decides files explicit path) :
    load files explicit = loadFrom files (placeName explicit path) path := by
  cases h with
  | given => rfl
  | found before after _ hsplit hbefore hpresent =>
    unfold candidates at hsplit
    rw [load, placeName]
    cases before with
    | nil =>
      -- the file of the working directory
      obtain ⟨rfl, -⟩ := List.cons.inj hsplit
      simp only [localPath, hpresent, if_true]
    | cons first before =>
      -- that of the system, as the only candidate behind the first
      obtain ⟨rfl, htail⟩ := List.cons.inj hsplit
      have hlocal : (files.state "pinpoint/config.toml").isPresent = false := hbefore _ List.mem_cons_self
      cases hsystem : files.systemConfig with
      | none =>
        rw [hsystem] at htail
        simp at htail
      | some system =>
        obtain ⟨rfl, rfl, rfl⟩ : before = [] ∧ system = path ∧ after = [] := by
          rw [hsystem, Option.toList_some] at htail
          cases before with
          | nil => simpa using htail
          | cons second before => simp at htail
        have hne : system ≠ "pinpoint/config.toml" := by
          rintro rfl
          rw [hlocal] at hpresent
          cases hpresent
        simp only [localPath, hlocal, hpresent, if_neg hne, if_true, Bool.false_eq_true, if_false]

theorem load_of_noFile (h : NoFile files explicit) :
    load files explicit =
      match files.systemConfig with
      | none => standard "Could not determine platform-specific config directory" []
      | some path => standard "System configuration file not found" [("path", path)] := by
  obtain ⟨rfl, habsent⟩ := h
  have hlocal : (files.state localPath).isPresent = false := habsent localPath List.mem_cons_self
  rw [load]
  simp only [hlocal, Bool.false_eq_true, if_false]
  cases hsystem : files.systemConfig with
  | none => rfl
  | some system =>
    have hmem : system ∈ candidates files := by
      rw [candidates, hsystem]
      exact List.mem_cons_of_mem _ List.mem_cons_self
    simp only [habsent system hmem, Bool.false_eq_true, if_false]

/-- **Without a file the standard settings are used.** -/
theorem load_eq_of_noFile (h : NoFile files explicit) :
    ∃ message fields, load files explicit = standard message fields := by
  rw [load_of_noFile h]
  cases files.systemConfig with
  | none => exact ⟨_, _, rfl⟩
  | some system => exact ⟨_, _, rfl⟩

theorem value_of_decides (h : Decides files explicit path) :
    (load files explicit).value = ofState path (files.state path) := by
  rw [load_eq_of_decides h]
  rfl

theorem value_of_noFile (h : NoFile files explicit) :
    (load files explicit).value = .ok Settings.standard := by
  obtain ⟨message, fields, hload⟩ := load_eq_of_noFile h
  rw [hload]
  rfl

end

/-! ## What a file can do -/

/-- The text of a configuration file is at fault: it is no document, or its data are no configuration. -/
def BadText (text : String) : Prop :=
  Toml.read? text = none ∨
    ∃ data, Toml.read? text = some data ∧ Settings.WrongConfiguration .toml data

theorem parse_fails_iff (text : String) :
    (∃ message, parse text = .error (.parse message)) ↔ BadText text := by
  unfold parse BadText
  cases hread : Toml.read? text with
  | none => simp
  | some data =>
    have hwrong := Settings.decodeConfiguration_fails_iff .toml data
    simp only [reduceCtorEq, false_or, Option.some.injEq, exists_eq_left', ← hwrong]
    cases Settings.decodeConfiguration .toml data <;> simp

/-- The text of a configuration file is a document whose data hold these settings. -/
def GoodText (text : String) (settings : Settings) : Prop :=
  ∃ data, Toml.read? text = some data ∧ Settings.decodeConfiguration .toml data = .ok settings

theorem parse_ok_iff (text : String) (settings : Settings) :
    parse text = .ok settings ↔ GoodText text settings := by
  unfold parse GoodText
  cases hread : Toml.read? text with
  | none => simp
  | some data =>
    simp only [Option.some.injEq, exists_eq_left']
    cases Settings.decodeConfiguration .toml data <;> simp

/-- The text of a file never fails as a missing one. -/
theorem parse_ne_missingFile (text path : String) : parse text ≠ .error (.missingFile path) := by
  unfold parse
  intro h
  split at h
  · cases h
  · split at h <;> cases h

section
variable (path : String)

theorem ofState_notText {content : List UInt8} (h : ofBytes? content = none) :
    ofState path (.file content) = .error (.io .notText) := by
  rw [ofState, PathState.read, h]
  rfl

theorem ofState_text {content : List UInt8} {text : String} (h : ofBytes? content = some text) :
    ofState path (.file content) =
      match parse text with
      | .error e => .error (.config e)
      | .ok settings => .ok settings := by
  rw [ofState, PathState.read, h]
  rfl

/-- What comes of a path, by what stands there. -/
inductive Outcome : PathState → Except RunError Settings → Prop
  | missing (reason : IoError) : Outcome (.absent reason) (.error (.config (.missingFile path)))
  | unreadable (reason : SystemError) : Outcome (.unreadable reason) (.error (.io (.system reason)))
  | notText (content : List UInt8) :
      ofBytes? content = none → Outcome (.file content) (.error (.io .notText))
  | bad (content : List UInt8) (text message : String) :
      ofBytes? content = some text → BadText text →
      Outcome (.file content) (.error (.config (.parse message)))
  | good (content : List UInt8) (text : String) (settings : Settings) :
      ofBytes? content = some text → GoodText text settings → Outcome (.file content) (.ok settings)

theorem ofState_outcome (state : PathState) : Outcome path state (ofState path state) := by
  cases state with
  | absent reason => exact Outcome.missing reason
  | unreadable reason => exact Outcome.unreadable reason
  | file content =>
    cases hbytes : ofBytes? content with
    | none =>
      rw [ofState_notText path hbytes]
      exact Outcome.notText content hbytes
    | some text =>
      rw [ofState_text path hbytes]
      cases hparse : parse text with
      | ok settings =>
        exact Outcome.good content text settings hbytes ((parse_ok_iff text settings).1 hparse)
      | error e =>
        cases e with
        | parse message =>
          exact Outcome.bad content text message hbytes ((parse_fails_iff text).1 ⟨message, hparse⟩)
        | missingFile p => exact absurd hparse (parse_ne_missingFile text p)

end

/-- Something stands there that cannot be read as text, for this reason. -/
inductive Unreadable : PathState → IoError → Prop
  | unreadable (reason : SystemError) : Unreadable (.unreadable reason) (.system reason)
  | notText (content : List UInt8) : ofBytes? content = none → Unreadable (.file content) .notText

/-- A text stands there that is at fault. -/
inductive BadContent : PathState → Prop
  | text (content : List UInt8) (text : String) :
      ofBytes? content = some text → BadText text → BadContent (.file content)

/-- A text stands there that holds these settings. -/
inductive GoodContent : PathState → Settings → Prop
  | text (content : List UInt8) (text : String) (settings : Settings) :
      ofBytes? content = some text → GoodText text settings → GoodContent (.file content) settings

section
variable (path : String) (state : PathState)

theorem ofState_missing_iff (p : String) :
    ofState path state = .error (.config (.missingFile p)) ↔ state.isPresent = false ∧ p = path := by
  constructor
  · intro h
    have ho := ofState_outcome path state
    rw [h] at ho
    cases ho with
    | missing reason => exact ⟨rfl, rfl⟩
  · rintro ⟨h, rfl⟩
    cases state with
    | absent reason => rfl
    | unreadable reason => cases h
    | file content => cases h

theorem ofState_io_iff (e : IoError) : ofState path state = .error (.io e) ↔ Unreadable state e := by
  constructor
  · intro h
    have ho := ofState_outcome path state
    rw [h] at ho
    cases ho with
    | unreadable reason => exact Unreadable.unreadable reason
    | notText content hbytes => exact Unreadable.notText content hbytes
  · intro h
    cases h with
    | unreadable reason => rfl
    | notText content hbytes => exact ofState_notText path hbytes

theorem ofState_parse_iff :
    (∃ message, ofState path state = .error (.config (.parse message))) ↔ BadContent state := by
  constructor
  · rintro ⟨message, h⟩
    have ho := ofState_outcome path state
    rw [h] at ho
    cases ho with
    | bad content text _ hbytes hbad => exact BadContent.text content text hbytes hbad
  · intro h
    cases h with
    | text content text hbytes hbad =>
      obtain ⟨message, hparse⟩ := (parse_fails_iff text).2 hbad
      refine ⟨message, ?_⟩
      rw [ofState_text path hbytes, hparse]

theorem ofState_ok_iff (settings : Settings) :
    ofState path state = .ok settings ↔ GoodContent state settings := by
  constructor
  · intro h
    have ho := ofState_outcome path state
    rw [h] at ho
    cases ho with
    | good content text _ hbytes hgood => exact GoodContent.text content text settings hbytes hgood
  · intro h
    cases h with
    | text content text _ hbytes hgood =>
      rw [ofState_text path hbytes, (parse_ok_iff text settings).2 hgood]

end

/-! ## Top theorem -/

/-- What is recorded when there is no file. -/
def noFileRecord : Record :=
  ⟨.debug, "No configuration file found, using default configuration", []⟩

theorem noFileRecord_mem_iff (files : Files) (explicit : Option String) :
    noFileRecord ∈ (load files explicit).records ↔ NoFile files explicit := by
  constructor
  · intro hmem
    rcases exists_decides_or_noFile files explicit with ⟨path, h⟩ | h
    · rw [load_eq_of_decides h] at hmem
      have hlevel := congrArg Record.level (List.mem_singleton.1 hmem)
      cases hlevel
    · exact h
  · intro h
    obtain ⟨message, fields, hload⟩ := load_eq_of_noFile h
    rw [hload]
    exact List.mem_cons_of_mem _ List.mem_cons_self

/-- **The deciding file decides alone**: what stands there gives the settings or the error. A path fails as
missing only if it was given, and the standard settings stand in only where there is no file. -/
theorem load_decided (files : Files) (explicit : Option String) :
    let result := (load files explicit).value
    ((∃ path, Decides files explicit path) ↔ ¬ NoFile files explicit) ∧
    (∀ path, Decides files explicit path →
      (∀ files', Decides files' explicit path → files'.state path = files.state path →
        load files' explicit = load files explicit) ∧
      (∀ e, result = .error (.io e) ↔ Unreadable (files.state path) e) ∧
      ((∃ message, result = .error (.config (.parse message))) ↔ BadContent (files.state path)) ∧
      ∀ settings, result = .ok settings ↔ GoodContent (files.state path) settings) ∧
    (∀ path, result = .error (.config (.missingFile path)) ↔
      explicit = some path ∧ (files.state path).isPresent = false) ∧
    (noFileRecord ∈ (load files explicit).records ↔ NoFile files explicit) ∧
    (NoFile files explicit → result = .ok Settings.standard) := by
  refine ⟨?_, ?_, ?_, noFileRecord_mem_iff files explicit, value_of_noFile⟩
  · constructor
    · rintro ⟨path, h⟩
      exact not_noFile_of_decides h
    · exact (exists_decides_or_noFile files explicit).resolve_right
  · intro path h
    refine ⟨?_, ?_, ?_, ?_⟩
    · intro files' h' hstate
      rw [load_eq_of_decides h, load_eq_of_decides h', loadFrom, loadFrom, hstate]
    · intro e
      rw [value_of_decides h, ofState_io_iff]
    · rw [value_of_decides h, ofState_parse_iff]
    · intro settings
      rw [value_of_decides h, ofState_ok_iff]
  · intro path
    rcases exists_decides_or_noFile files explicit with ⟨decider, h⟩ | h
    · rw [value_of_decides h, ofState_missing_iff]
      constructor
      · rintro ⟨habsent, rfl⟩
        cases h with
        | given => exact ⟨rfl, habsent⟩
        | found _ _ _ _ _ hpresent =>
          rw [habsent] at hpresent
          cases hpresent
      · rintro ⟨rfl, habsent⟩
        cases h
        exact ⟨habsent, rfl⟩
    · rw [value_of_noFile h]
      constructor
      · intro he; cases he
      · rintro ⟨rfl, -⟩
        cases h.not_given

/-- A directory stands where the working directory has its configuration file: loading fails there, and the file
of the system makes no difference. Where that one is given, its settings are loaded. -/
theorem load_decided_directory :
    let state : String → PathState :=
      fun path =>
        if path = "pinpoint/config.toml" then .unreadable .isADirectory else .file (bytes "locate.max_width = 200")
    let files : Files := ⟨state, some "etc/config.toml"⟩
    Decides files none "pinpoint/config.toml" ∧
      (load files none).value = .error (.io (.system .isADirectory)) ∧
      load ⟨state, none⟩ none = load files none ∧
      (load files (some "etc/config.toml")).value = .ok ⟨40, 30, 200⟩ := by
  intro state files
  have h (system : Option String) : Decides ⟨state, system⟩ none "pinpoint/config.toml" := by
    apply Decides.found [] system.toList
    · rfl
    · intro earlier hmem
      cases hmem
    · rfl
  obtain ⟨-, hdecided, -⟩ := load_decided files none
  obtain ⟨halone, hio, -, -⟩ := hdecided "pinpoint/config.toml" (h _)
  refine ⟨h _, ?_, halone ⟨state, none⟩ (h _) rfl, ?_⟩
  · exact (hio (.system .isADirectory)).2 (Unreadable.unreadable .isADirectory)
  · obtain ⟨-, hgiven, -⟩ := load_decided files (some "etc/config.toml")
    obtain ⟨-, -, -, hgood⟩ := hgiven "etc/config.toml" (Decides.given "etc/config.toml")
    have htext : parse "locate.max_width = 200" = .ok ⟨40, 30, 200⟩ := by decide +kernel
    have hbytes : ofBytes? (bytes "locate.max_width = 200") = some "locate.max_width = 200" := by decide +kernel
    exact (hgood _).2 (GoodContent.text _ _ _ hbytes ((parse_ok_iff _ _).1 htext))

end Caret.Configuration
