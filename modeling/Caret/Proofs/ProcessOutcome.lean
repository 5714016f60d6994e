import Caret.Cli.Process
import Caret.Proofs.RunOutcome

/-!
# What a process leaves behind

While a request is done nothing is recorded as an error (`Request.noErrors_run`), and if it fails its report is
recorded as one at the end (`perform_of_error`).  So the lines of that level tell how the request went, as long as
the log level lets them through.

All log levels do but one: `off`, in letters of either case (`verbosity_eq_none_iff`).  Under it a request that
fails leaves its status behind and nothing else (`process_outcome`).
-/

namespace Caret

/-! ## Records below an error -/

namespace Logged

variable {α β : Type}

/-- Nothing is recorded as an error. -/
def NoErrors (x : Logged α) : Prop := ∀ r ∈ x.records, r.level ≠ .error

theorem noErrors_pure (a : α) : NoErrors (pure a : Logged α) := by
  intro r hr
  cases hr

theorem noErrors_write {r : Record} (h : r.level ≠ .error) : NoErrors (write r) := by
  intro r' hr'
  rw [List.mem_singleton.1 hr']
  exact h

theorem noErrors_note {level : Level} (h : level ≠ .error) (message : String)
    (fields : List (String × String)) : NoErrors (note level message fields) :=
  noErrors_write h

theorem NoErrors.bind {x : Logged α} {f : α → Logged β} (hx : NoErrors x) (hf : NoErrors (f x.value)) :
    NoErrors (x >>= f) := by
  intro r hr
  rw [records_bind] at hr
  rcases List.mem_append.1 hr with hr | hr
  · exact hx r hr
  · exact hf r hr

end Logged

open Logged

theorem Configuration.noErrors_load (files : Files) (explicit : Option String) :
    NoErrors (load files explicit) := by
  rcases exists_decides_or_noFile files explicit with ⟨path, h⟩ | h
  · rw [load_eq_of_decides h]
    exact (noErrors_note (by decide) _ _).bind (noErrors_pure _)
  · obtain ⟨message, fields, hload⟩ := load_eq_of_noFile h
    rw [hload]
    exact (noErrors_note (by decide) _ _).bind ((noErrors_note (by decide) _ _).bind (noErrors_pure _))

theorem TrailingInput.noErrors_fromConsumed (input : String) (consumed : Nat) :
    NoErrors (fromConsumed input consumed) := by
  unfold fromConsumed
  dsimp only
  split
  · exact noErrors_pure _
  · exact (noErrors_note (by decide) _ _).bind (noErrors_pure _)

theorem Diagnostic.noErrors_locate (s : Settings) (e : PositionedError) (source : String) :
    NoErrors (locate s e source) := by
  intro r hr
  rw [List.mem_singleton.1 hr]
  cases Location.find? source e.pos with
  | none => exact nofun
  | some l => exact nofun

namespace Command

theorem noErrors_output (settings : Settings) (source : String) (c : Command) :
    NoErrors (c.output settings source) := by
  cases c with
  | locate input offset expected fancy =>
    unfold output
    dsimp only
    split
    · exact noErrors_pure _
    · exact Diagnostic.noErrors_locate settings _ source
  | trailing input consumed =>
    apply (TrailingInput.noErrors_fromConsumed source consumed).bind
    split
    · exact noErrors_pure _
    · exact (noErrors_note (by decide) _ _).bind (noErrors_pure _)

theorem record_level (c : Command) : c.record.level = .info := by
  cases c <;> rfl

end Command

/-- A run records no error, whether it fails or not. -/
theorem Request.noErrors_run (r : Request) (files : Files) : NoErrors (r.run files) := by
  apply (Configuration.noErrors_load files r.config).bind
  split
  · exact noErrors_pure _
  · next settings _ =>
    have hrecord : r.command.record.level ≠ .error := by
      rw [r.command.record_level]
      decide
    apply (noErrors_write hrecord).bind
    split
    · exact noErrors_pure _
    · next source _ => exact (r.command.noErrors_output settings source).bind (noErrors_pure _)

namespace Cli

/-! ## Log levels -/

/-- The log level that lets nothing through, in letters of either case. -/
def IsOff (name : String) : Prop := name.toList.map Char.toLower = "off".toList

instance (name : String) : Decidable (IsOff name) := inferInstanceAs (Decidable (_ = _))

/-- The verbosity that counts for a log level, known or not. -/
def verbosity (name : String) : Verbosity := (Verbosity.ofName? name).getD (some .warn)

theorem Verbosity.shows_error_iff (v : Verbosity) : v.shows .error = true ↔ v ≠ none := by
  cases v with
  | none => decide
  | some level => cases level <;> decide

theorem Verbosity.ofName?_eq_some_none_iff (name : String) : ofName? name = some none ↔ IsOff name := by
  have honly : ∀ entry ∈ named, entry.2 = none → entry.1 = "off" := by decide
  rw [ofName?, IsOff, Option.map_eq_some_iff]
  constructor
  · rintro ⟨entry, hfind, hnone⟩
    have hname := List.find?_some hfind
    simp only [beq_iff_eq] at hname
    rw [← hname, honly entry (List.mem_of_find?_eq_some hfind) hnone]
  · intro h
    rw [h]
    exact ⟨("off", none), rfl, rfl⟩

theorem verbosity_eq_none_iff (name : String) : verbosity name = none ↔ IsOff name := by
  rw [← Verbosity.ofName?_eq_some_none_iff, verbosity]
  cases Verbosity.ofName? name with
  | none => simp
  | some v => simp

/-! ## What is done for a request -/

/-- The report of an error as it is recorded. -/
def failureRecord (e : RunError) : Record := ⟨.error, e.report.render, []⟩

/-- All that is done for a request before its outcome is looked at. -/
def attempt (r : Request) (files : Files) (v : Verbosity) : Logged (Except RunError String) := do
  note .info "Starting Pinpoint" [("log_level", v.shown)]
  note .debug "Parsed arguments" [("args", Inspect.request r)]
  r.run files

theorem value_attempt (r : Request) (files : Files) (v : Verbosity) :
    (attempt r files v).value = (r.run files).value := rfl

theorem noErrors_attempt (r : Request) (files : Files) (v : Verbosity) : NoErrors (attempt r files v) := by
  apply (noErrors_note (by decide) _ _).bind
  apply (noErrors_note (by decide) _ _).bind
  exact r.noErrors_run files

theorem perform_eq (r : Request) (files : Files) (v : Verbosity) :
    perform r files v = attempt r files v >>= fun
      | .ok text => note .info "Completed successfully" [] >>= fun _ => pure (0, text)
      | .error e => note .error e.report.render [] >>= fun _ => pure (1, "") := rfl

section
variable {r : Request} {files : Files} (v : Verbosity)

theorem perform_of_ok {text : String} (h : (r.run files).value = .ok text) :
    (perform r files v).value = (0, text) ∧ NoErrors (perform r files v) := by
  rw [perform_eq]
  constructor
  · rw [value_bind, value_attempt, h]
    rfl
  · apply (noErrors_attempt r files v).bind
    rw [value_attempt, h]
    exact (noErrors_note (by decide) _ _).bind (noErrors_pure _)

/-- A failure ends the log, and no error stands before it. -/
theorem perform_of_error {e : RunError} (h : (r.run files).value = .error e) :
    (perform r files v).value = (1, "") ∧
      (perform r files v).records = (attempt r files v).records ++ [failureRecord e] := by
  rw [perform_eq]
  constructor
  · rw [value_bind, value_attempt, h]
    rfl
  · rw [records_bind, value_attempt, h]
    rfl

end

/-! ## What is left behind -/

namespace Outcome

/-- The log lines that tell of an error. -/
def errors (o : Outcome) : List Record := o.log.filter (·.level = .error)

end Outcome

section
variable {r : Request} {files : Files}

theorem shows_error_of_not_isOff {name : String} (h : ¬ IsOff name) :
    (verbosity name).shows .error = true := by
  rw [Verbosity.shows_error_iff, Ne, verbosity_eq_none_iff]
  exact h

theorem log_ofRequest : (ofRequest r files).log =
    (perform r files (verbosity r.logLevel)).records.filter fun x =>
      (verbosity r.logLevel).shows x.level := rfl

theorem errors_eq_nil {log : List Record} (h : ∀ x ∈ log, x.level ≠ .error) :
    log.filter (·.level = .error) = [] := by
  apply List.filter_eq_nil_iff.2
  intro x hx
  rw [decide_eq_true_eq]
  exact h x hx

theorem errors_of_noErrors (h : NoErrors (perform r files (verbosity r.logLevel))) :
    (ofRequest r files).errors = [] := by
  apply errors_eq_nil
  intro x hx
  rw [log_ofRequest] at hx
  exact h x (List.mem_of_mem_filter hx)

/-- Under every log level but `off` the failure of a request is the last line, and the only error. -/
theorem errors_of_error {e : RunError} (h : (r.run files).value = .error e) (hshown : ¬ IsOff r.logLevel) :
    (ofRequest r files).errors = [failureRecord e] ∧
      (ofRequest r files).log.getLast? = some (failureRecord e) := by
  obtain ⟨-, hrecords⟩ := perform_of_error (verbosity r.logLevel) h
  have hfailure : (verbosity r.logLevel).shows (failureRecord e).level = true :=
    shows_error_of_not_isOff hshown
  rw [Outcome.errors, log_ofRequest, hrecords, List.filter_append, List.filter_singleton, hfailure]
  constructor
  · rw [List.filter_append, errors_eq_nil]
    · rfl
    · intro x hx
      exact noErrors_attempt r files (verbosity r.logLevel) x (List.mem_of_mem_filter hx)
  · exact List.getLast?_concat

/-- Under the log level `off` nothing is shown, no notice either. -/
theorem silent_of_isOff (h : IsOff r.logLevel) :
    (ofRequest r files).log = [] ∧ (ofRequest r files).notice = none := by
  constructor
  · rw [log_ofRequest, (verbosity_eq_none_iff r.logLevel).2 h]
    exact List.filter_eq_nil_iff.2 fun _ _ => Bool.false_ne_true
  · rw [ofRequest, (Verbosity.ofName?_eq_some_none_iff r.logLevel).2 h]
    rfl

end

/-! ## Top theorems -/

/-- **How a process ends.** What is written is the text of the run, or nothing if it fails.  The report of a failure
is the last line of the log and its only error, unless the log level is `off`: then nothing tells of it but the
status. -/
theorem process_outcome (arguments : List String) (files : Files) (r : Request)
    (h : parseArguments arguments = .ok r) :
    let o := process arguments files
    (∀ text, (r.run files).value = .ok text → o.status = 0 ∧ o.output = text ∧ o.errors = []) ∧
    ∀ e, (r.run files).value = .error e →
      o.status = 1 ∧ o.output = "" ∧
      (¬ IsOff r.logLevel →
        o.errors = [⟨.error, e.report.render, []⟩] ∧ o.log.getLast? = some ⟨.error, e.report.render, []⟩) ∧
      (IsOff r.logLevel → o.log = [] ∧ o.notice = none) := by
  have hprocess : process arguments files = ofRequest r files := by
    rw [process, h]
  rw [hprocess]
  refine ⟨?_, ?_⟩
  · intro text htext
    obtain ⟨hvalue, hclean⟩ := perform_of_ok (verbosity r.logLevel) htext
    refine ⟨congrArg Prod.fst hvalue, congrArg Prod.snd hvalue, errors_of_noErrors hclean⟩
  · intro e he
    obtain ⟨hvalue, -⟩ := perform_of_error (verbosity r.logLevel) he
    refine ⟨congrArg Prod.fst hvalue, congrArg Prod.snd hvalue, errors_of_error he, silent_of_isOff⟩

/-- A file system without any file. -/
def noFiles : Files := ⟨fun _ => .absent (.system .notFound), none⟩

/-- The arguments that locate an offset in a file, under a log level. -/
def locateUnder (logLevel : String) : List String :=
  ["--log-level", logLevel, "locate", "doc", "--offset", "0", "--expected", "x"]

/-- A log level that is not known hides no failure. -/
theorem process_outcome_unknown_level :
    let r : Request := ⟨.locate "doc" 0 "x" false, none, "loud"⟩
    let e : RunError := .io (.system .notFound)
    let o := process (locateUnder "loud") noFiles
    parseArguments (locateUnder "loud") = .ok r ∧ (r.run noFiles).value = .error e ∧ ¬ IsOff "loud" ∧
      o.status = 1 ∧ o.output = "" ∧ o.log.getLast? = some ⟨.error, e.report.render, []⟩ := by
  intro r e o
  have hparse : parseArguments (locateUnder "loud") = .ok r := by decide +kernel
  have hrun : (r.run noFiles).value = .error e := by decide +kernel
  have hoff : ¬ IsOff "loud" := by decide +kernel
  obtain ⟨-, hfailed⟩ := process_outcome (locateUnder "loud") noFiles r hparse
  obtain ⟨hstatus, houtput, hshown, -⟩ := hfailed e hrun
  exact ⟨hparse, hrun, hoff, hstatus, houtput, (hshown hoff).2⟩

/-- Under the log level `off` a failure is not reported. -/
theorem failure_unreported_when_off :
    ¬ ∀ (arguments : List String) (files : Files) (r : Request), parseArguments arguments = .ok r →
      let o := process arguments files
      (∀ text, (r.run files).value = .ok text → o.status = 0 ∧ o.output = text) ∧
      ∀ e, (r.run files).value = .error e →
        o.status = 1 ∧ o.output = "" ∧ ⟨.error, e.report.render, []⟩ ∈ o.log := by
  intro hall
  let r : Request := ⟨.locate "doc" 0 "x" false, none, "off"⟩
  have hparse : parseArguments (locateUnder "off") = .ok r := by decide +kernel
  have hrun : (r.run noFiles).value = .error (.io (.system .notFound)) := by decide +kernel
  obtain ⟨-, hfailed⟩ := hall (locateUnder "off") noFiles r hparse
  obtain ⟨-, -, hmem⟩ := hfailed _ hrun
  have hlog : (process (locateUnder "off") noFiles).log = [] := by
    rw [process, hparse]
    exact (silent_of_isOff (by decide +kernel)).1
  rw [hlog] at hmem
  cases hmem

end Cli
end Caret
