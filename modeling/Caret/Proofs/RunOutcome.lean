import Caret.Proofs.ConfigurationSearch
import Caret.Proofs.OffsetPlaces
import Caret.Run

/-!
# How a run ends

A run takes three steps that depend on each other: it loads the settings, reads its input, and writes of it.
The first step that fails gives its error, and what follows is not looked at (`run_error_iff`); the last step
cannot fail (`run_ok_iff`).  `Command.Reads` tells which file a command reads, `PathState.Gives` what comes of
reading it, and `Command.Writes` what the command writes of its text.

Of the settings only plain diagnostics make use (`Command.IgnoresSettings`), so two runs of any other command
on the same text end alike, whatever their settings (`output_congr`).
-/

namespace Caret

open Text

/-! ## What a command reads -/

/-- What comes of reading a path, by what stands there. -/
inductive PathState.Gives : PathState → Except IoError String → Prop
  | absent (reason : IoError) : Gives (.absent reason) (.error reason)
  | unreadable (reason : SystemError) : Gives (.unreadable reason) (.error (.system reason))
  | notText (content : List UInt8) : ofBytes? content = none → Gives (.file content) (.error .notText)
  | text (content : List UInt8) (text : String) :
      ofBytes? content = some text → Gives (.file content) (.ok text)

theorem PathState.gives_read (state : PathState) : state.Gives state.read := by
  cases state with
  | absent reason => exact Gives.absent reason
  | unreadable reason => exact Gives.unreadable reason
  | file content =>
    rw [read]
    cases h : ofBytes? content with
    | none => exact Gives.notText content h
    | some text => exact Gives.text content text h

theorem PathState.Gives.read_eq {state : PathState} {contents : Except IoError String}
    (h : state.Gives contents) : state.read = contents := by
  cases h with
  | absent reason => rfl
  | unreadable reason => rfl
  | notText content h => rw [read, h]
  | text content text h => rw [read, h]

namespace Command

/-- The file that a command reads. -/
inductive Reads : Command → String → Prop
  | locate (input : String) (offset : Nat) (expected : String) (fancy : Bool) :
      Reads (.locate input offset expected fancy) input
  | trailing (input : String) (consumed : Nat) : Reads (.trailing input consumed) input

theorem reads_input (c : Command) : c.Reads c.input := by
  cases c with
  | locate input offset expected fancy => exact Reads.locate input offset expected fancy
  | trailing input consumed => exact Reads.trailing input consumed

/-! ## What a command writes -/

/-- What a command writes of its input. -/
inductive Writes (settings : Settings) (source : String) : Command → String → Prop
  | diagnostic (input : String) (offset : Nat) (expected : String) :
      Writes settings source (.locate input offset expected false)
        (Diagnostic.render settings ⟨offset, expected⟩ source)
  | snippet (input : String) (offset : Nat) (expected : String) :
      Writes settings source (.locate input offset expected true)
        (Report.ofPositioned ⟨offset, expected⟩ source).render
  | left (input : String) (consumed : Nat) (e : TrailingInput) :
      (TrailingInput.fromConsumed source consumed).value = some e →
      Writes settings source (.trailing input consumed) (e.message ++ "\n")
  | nothing (input : String) (consumed : Nat) :
      (TrailingInput.fromConsumed source consumed).value = none →
      Writes settings source (.trailing input consumed) ""

/-- The command makes no use of the settings. -/
inductive IgnoresSettings : Command → Prop
  | snippet (input : String) (offset : Nat) (expected : String) :
      IgnoresSettings (.locate input offset expected true)
  | trailing (input : String) (consumed : Nat) : IgnoresSettings (.trailing input consumed)

section
variable (settings : Settings) (source : String)

theorem output_snippet (input : String) (offset : Nat) (expected : String) :
    (output settings source (.locate input offset expected true)).value =
      (Report.ofPositioned ⟨offset, expected⟩ source).render := by
  rw [output, if_pos rfl, Logged.value_pure]

theorem output_diagnostic (input : String) (offset : Nat) (expected : String) :
    (output settings source (.locate input offset expected false)).value =
      Diagnostic.render settings ⟨offset, expected⟩ source := by
  rw [output, if_neg Bool.false_ne_true, Diagnostic.render]

theorem output_trailing (input : String) (consumed : Nat) :
    (output settings source (.trailing input consumed)).value =
      (TrailingInput.fromConsumed source consumed).value.elim "" (·.message ++ "\n") := by
  rw [output, Logged.value_bind]
  cases (TrailingInput.fromConsumed source consumed).value <;> rfl

theorem output_writes (c : Command) : Writes settings source c (output settings source c).value := by
  cases c with
  | locate input offset expected fancy =>
    cases fancy with
    | true =>
      rw [output_snippet]
      exact Writes.snippet input offset expected
    | false =>
      rw [output_diagnostic]
      exact Writes.diagnostic input offset expected
  | trailing input consumed =>
    rw [output_trailing]
    cases h : (TrailingInput.fromConsumed source consumed).value with
    | some e => exact Writes.left input consumed e h
    | none => exact Writes.nothing input consumed h

variable {settings source}

/-- A command writes one text. -/
theorem Writes.unique {c : Command} {text text' : String} (h : Writes settings source c text)
    (h' : Writes settings source c text') : text = text' := by
  cases h with
  | diagnostic => cases h'; rfl
  | snippet => cases h'; rfl
  | left input consumed e he =>
    cases h' with
    | left _ _ e' he' =>
      obtain rfl := Option.some.inj (he.symm.trans he')
      rfl
    | nothing _ _ hn =>
      rw [he] at hn
      cases hn
  | nothing input consumed hn =>
    cases h' with
    | left _ _ e' he' =>
      rw [hn] at he'
      cases he'
    | nothing => rfl

theorem writes_iff {c : Command} {text : String} :
    Writes settings source c text ↔ (output settings source c).value = text := by
  constructor
  · intro h
    exact (output_writes settings source c).unique h
  · rintro rfl
    exact output_writes settings source c

theorem output_congr {settings' : Settings} {c : Command} (h : IgnoresSettings c) :
    (output settings source c).value = (output settings' source c).value := by
  cases h with
  | snippet => rw [output_snippet, output_snippet]
  | trailing => rw [output_trailing, output_trailing]

/-- The output about the rest of the input is empty exactly when there is none. -/
theorem writes_trailing_empty_iff {input : String} {consumed : Nat} {text : String}
    (h : Writes settings source (.trailing input consumed) text) : text = "" ↔ size source ≤ consumed := by
  rw [← TrailingInput.fromConsumed_eq_none_iff]
  cases h with
  | left _ _ e he =>
    have hne : e.message ++ "\n" ≠ "" := by
      intro hempty
      have hlist := congrArg String.toList hempty
      rw [String.toList_append] at hlist
      exact absurd (List.append_eq_nil_iff.1 hlist).2 (by decide)
    constructor
    · intro hempty
      exact absurd hempty hne
    · intro hn
      rw [he] at hn
      cases hn
  | nothing _ _ hn => exact ⟨fun _ => hn, fun _ => rfl⟩

end

end Command

/-! ## The steps of a run -/

namespace Request

section
variable {r : Request} {files : Files} {settings : Settings}

theorem run_of_load_error {e : RunError} (h : (Configuration.load files r.config).value = .error e) :
    (r.run files).value = .error e := by
  rw [run, Logged.value_bind, h]
  rfl

theorem run_of_read_error {reason : IoError} (h : (Configuration.load files r.config).value = .ok settings)
    (hread : (files.state r.command.input).read = .error reason) :
    (r.run files).value = .error (.io reason) := by
  rw [run, Logged.value_bind, h]
  simp only [Logged.value_bind, hread]
  rfl

theorem run_of_read {source : String} (h : (Configuration.load files r.config).value = .ok settings)
    (hread : (files.state r.command.input).read = .ok source) :
    (r.run files).value = .ok (r.command.output settings source).value := by
  rw [run, Logged.value_bind, h]
  simp only [Logged.value_bind, hread]
  rfl

/-- Once the settings are loaded, a run fails exactly when its input cannot be read. -/
theorem run_error_iff (h : (Configuration.load files r.config).value = .ok settings) (e : RunError) :
    (r.run files).value = .error e ↔
      ∃ reason, (files.state r.command.input).read = .error reason ∧ e = .io reason := by
  cases hread : (files.state r.command.input).read with
  | error reason =>
    rw [run_of_read_error h hread]
    constructor
    · intro he
      cases he
      exact ⟨reason, rfl, rfl⟩
    · rintro ⟨_, hr, rfl⟩
      cases hr
      rfl
  | ok source =>
    rw [run_of_read h hread]
    constructor
    · intro he; cases he
    · rintro ⟨_, hr, -⟩; cases hr

/-- And otherwise it succeeds, with what its command writes. -/
theorem run_ok_iff (h : (Configuration.load files r.config).value = .ok settings) (text : String) :
    (r.run files).value = .ok text ↔
      ∃ source, (files.state r.command.input).read = .ok source ∧
        r.command.Writes settings source text := by
  cases hread : (files.state r.command.input).read with
  | error reason =>
    rw [run_of_read_error h hread]
    constructor
    · intro he; cases he
    · rintro ⟨_, hr, -⟩; cases hr
  | ok source =>
    rw [run_of_read h hread]
    constructor
    · intro he
      exact ⟨source, rfl, Command.writes_iff.2 (Except.ok.inj he)⟩
    · rintro ⟨_, hr, hw⟩
      cases hr
      rw [Command.writes_iff.1 hw]

end

/-! ## Top theorem -/

/-- **How a run ends**: with the error of the configuration, else with that of reading the input, else with
what the command writes. -/
theorem run_outcome (r : Request) (files : Files) :
    ∃ input contents, r.command.Reads input ∧ (files.state input).Gives contents ∧
    let loaded := (Configuration.load files r.config).value
    let result := (r.run files).value
    (∀ e, loaded = .error e → result = .error e) ∧
    (∀ settings, loaded = .ok settings →
      (∀ e, result = .error e ↔ ∃ reason, contents = .error reason ∧ e = .io reason) ∧
      (∀ text, result = .ok text ↔
        ∃ source, contents = .ok source ∧ r.command.Writes settings source text) ∧
      ∀ source, contents = .ok source → ∃ text, result = .ok text) ∧
    (∀ source text input consumed, contents = .ok source → result = .ok text →
      r.command = .trailing input consumed → (text = "" ↔ size source ≤ consumed)) ∧
    (∀ source input offset expected, Configuration.NoFile files r.config → contents = .ok source →
      r.command = .locate input offset expected false →
      result = .ok (Diagnostic.render .standard ⟨offset, expected⟩ source)) ∧
    ∀ (r' : Request) (files' : Files) (settings settings' : Settings),
      loaded = .ok settings → (Configuration.load files' r'.config).value = .ok settings' →
      r'.command = r.command → r.command.IgnoresSettings →
      (files'.state input).Gives contents → (r'.run files').value = result := by
  refine ⟨r.command.input, (files.state r.command.input).read, r.command.reads_input,
    PathState.gives_read _, ?_, ?_, ?_, ?_, ?_⟩
  · intro e he
    exact run_of_load_error he
  · intro settings hs
    refine ⟨run_error_iff hs, run_ok_iff hs, ?_⟩
    intro source hread
    exact ⟨_, run_of_read hs hread⟩
  · intro source text input consumed hread htext hcommand
    cases hload : (Configuration.load files r.config).value with
    | error e =>
      rw [run_of_load_error hload] at htext
      cases htext
    | ok settings =>
      obtain ⟨source', hread', hw⟩ := (run_ok_iff hload text).1 htext
      obtain rfl := Except.ok.inj (hread.symm.trans hread')
      rw [hcommand] at hw
      exact Command.writes_trailing_empty_iff hw
  · intro source input offset expected hnone hread hcommand
    rw [run_of_read (Configuration.value_of_noFile hnone) hread, hcommand, Command.output_diagnostic]
  · intro r' files' settings settings' hs hs' hcommand hignores hcontents
    cases hread : (files.state r.command.input).read with
    | error reason =>
      rw [run_of_read_error hs hread]
      apply run_of_read_error hs'
      rw [hcommand, hcontents.read_eq, hread]
    | ok source =>
      rw [run_of_read hs hread, Command.output_congr hignores, ← hcommand]
      apply run_of_read hs'
      rw [hcommand, hcontents.read_eq, hread]

/-- One run with the standard settings, one with a wider line, on a text that a command has consumed up to
the middle of its first character; and the diagnostic of an error there. -/
theorem run_outcome_two_settings :
    let files : Files :=
      { state := fun path =>
          if path = "doc" then .file [0xC3, 0xA9, 0x29]
          else if path = "wide.toml" then .file (bytes "locate.max_width = 200")
          else .absent (.system .notFound)
        systemConfig := none }
    let r : Request := ⟨.trailing "doc" 1, none, "info"⟩
    let r' : Request := ⟨.trailing "doc" 1, some "wide.toml", "info"⟩
    (Configuration.load files r.config).value = .ok Settings.standard ∧
      (Configuration.load files r'.config).value = .ok ⟨40, 30, 200⟩ ∧
      (files.state "doc").read = .ok "é)" ∧
      (r'.run files).value = (r.run files).value ∧
      (∃ text, (r.run files).value = .ok text ∧ text ≠ "") ∧
      (Request.run ⟨.locate "doc" 2 "`(`" false, none, "info"⟩ files).value =
        .ok "Parsing error in line 1:\né)\n  ^\noffset 2: expected `(`\n" := by
  intro files r r'
  have hs : (Configuration.load files r.config).value = .ok Settings.standard := by decide +kernel
  have hs' : (Configuration.load files r'.config).value = .ok ⟨40, 30, 200⟩ := by decide +kernel
  have hread : (files.state "doc").read = .ok "é)" := by decide +kernel
  have hnone : Configuration.NoFile files none := by
    refine ⟨rfl, ?_⟩
    intro path hpath
    obtain rfl := List.mem_singleton.1 hpath
    rfl
  obtain ⟨_, contents, hreads, hgives, -, hok, hempty, -, hsame⟩ := run_outcome r files
  cases hreads
  obtain rfl := hgives.read_eq.symm.trans hread
  obtain ⟨-, -, hsuccess⟩ := hok _ hs
  obtain ⟨text, htext⟩ := hsuccess _ rfl
  refine ⟨hs, hs', hread, hsame r' files _ _ hs hs' rfl (.trailing "doc" 1) hgives, ⟨text, htext, ?_⟩, ?_⟩
  · intro h
    have hconsumed := (hempty _ text "doc" 1 rfl htext rfl).1 h
    exact absurd hconsumed (by decide)
  · obtain ⟨_, contents, hreads, hgives, -, -, -, hlocate, -⟩ :=
      run_outcome ⟨.locate "doc" 2 "`(`" false, none, "info"⟩ files
    cases hreads
    obtain rfl := hgives.read_eq.symm.trans hread
    rw [hlocate _ "doc" 2 "`(`" hnone rfl rfl]
    decide +kernel

end Request

end Caret
