import Caret.Proofs.Reading
import Caret.Proofs.RunOutcome

/-!
# What a run records

The records of a run come in three parts: what it found of its configuration, the command once that is loaded, and
what the command found once its input is read.  Each part is told here by what is recorded and when, without the
run: `Configuration.Searched`, `Command.Announced`, `Command.Told`.  The last also ties the records of a command to
the text that it writes: the line and the offset that they name are those of the text.

* `Configuration.searched_load`, `Command.told_output`: each part records just that.
* `Request.run_recorded`: a run records the parts one after the other, and stops where it fails.
-/

namespace Caret

open Text

/-! ## The configuration -/

namespace Configuration

/-- What is recorded of the search for the configuration, and what comes of it. -/
inductive Searched (files : Files) (explicit : Option String) : List Record → Except RunError Settings → Prop
  /-- A file decided, and nothing else is told. -/
  | decided (path : String) (loaded : Except RunError Settings) :
      Decides files explicit path → Outcome path (files.state path) loaded →
      Searched files explicit
        [⟨.info, "Loading configuration from " ++ placeName explicit path ++ " path", [("path", path)]⟩] loaded
  /-- There is no file, nor a place where the system could keep one. -/
  | noPlace : NoFile files explicit → files.systemConfig = none →
      Searched files explicit
        [⟨.debug, "Could not determine platform-specific config directory", []⟩,
         ⟨.debug, "No configuration file found, using default configuration", []⟩] (.ok Settings.standard)
  /-- There is no file, and the system would keep it there. -/
  | notFound (path : String) : NoFile files explicit → files.systemConfig = some path →
      Searched files explicit
        [⟨.debug, "System configuration file not found", [("path", path)]⟩,
         ⟨.debug, "No configuration file found, using default configuration", []⟩] (.ok Settings.standard)

theorem searched_load (files : Files) (explicit : Option String) :
    Searched files explicit (load files explicit).records (load files explicit).value := by
  rcases exists_decides_or_noFile files explicit with ⟨path, h⟩ | h
  · rw [load_eq_of_decides h]
    exact Searched.decided path _ h (ofState_outcome path (files.state path))
  · rw [load_of_noFile h]
    cases hsystem : files.systemConfig with
    | none => exact Searched.noPlace h hsystem
    | some system => exact Searched.notFound system h hsystem

end Configuration

/-! ## The command -/

namespace Command

/-- How a command with this input is announced: the input, and the offset or count it is about. -/
inductive Announced : Command → String → Record → Prop
  | locate (input : String) (offset : Nat) (expected : String) (fancy : Bool) :
      Announced (.locate input offset expected fancy) input
        ⟨.info, "Locating parse error", [("input_path", input), ("offset", toString offset)]⟩
  | trailing (input : String) (consumed : Nat) :
      Announced (.trailing input consumed) input
        ⟨.info, "Checking for unparsed input", [("input_path", input), ("consumed", toString consumed)]⟩

theorem announced_record (c : Command) : Announced c c.input c.record := by
  cases c with
  | locate input offset expected fancy => exact Announced.locate input offset expected fancy
  | trailing input consumed => exact Announced.trailing input consumed

/-- What a command writes of its input, and what it records of it. -/
inductive Told (source : String) : Command → String → List Record → Prop
  /-- The offset has no line: the bare message is written. -/
  | past (input : String) (offset : Nat) (expected : String) :
      size source < offset →
      Told source (.locate input offset expected false) (PositionedError.message ⟨offset, expected⟩)
        [⟨.trace, "Error offset is past end of input",
          [("pos", toString offset), ("len", toString (size source))]⟩]
  /-- The offset has a line: the text starts with its number, and is not the bare message. -/
  | located (input : String) (offset : Nat) (expected : String) (number start column : Nat) (rest : String) :
      start + column = offset →
      "Parsing error in line " ++ toString number ++ ":\n" ++ rest ≠ PositionedError.message ⟨offset, expected⟩ →
      Told source (.locate input offset expected false)
        ("Parsing error in line " ++ toString number ++ ":\n" ++ rest)
        [⟨.trace, "Located error line",
          [("line_number", toString number), ("line_start", toString start), ("column", toString column)]⟩]
  | snippet (input : String) (offset : Nat) (expected text : String) :
      Told source (.locate input offset expected true) text []
  | consumed (input : String) (consumed : Nat) :
      size source ≤ consumed →
      Told source (.trailing input consumed) "" [⟨.info, "All input consumed", []⟩]
  /-- The input falls in two at the boundary, and its second part is written. -/
  | left (input : String) (consumed : Nat) (before rest : String) :
      source = before ++ rest → size before ≤ consumed → consumed < size source →
      Told source (.trailing input consumed) ("left unparsed: " ++ rest ++ "\n")
        [⟨.debug, "Input left unparsed",
          [("consumed", toString consumed), ("boundary", toString (size before)),
           ("total", toString (size source))]⟩]

theorem told_diagnostic (settings : Settings) (source input : String) (offset : Nat) (expected : String) :
    Told source (.locate input offset expected false)
      (Diagnostic.locate settings ⟨offset, expected⟩ source).value
      (Diagnostic.locate settings ⟨offset, expected⟩ source).records := by
  rw [Diagnostic.locate]
  dsimp only
  cases h : Location.find? source offset with
  | none => exact Told.past input offset expected ((Location.find?_eq_none_iff source offset).1 h)
  | some l =>
    have hne := Diagnostic.atLocation_ne_message settings ⟨offset, expected⟩ ⟨offset, expected⟩ l
    rw [Option.elim_some]
    unfold Diagnostic.atLocation at hne ⊢
    rw [String.append_assoc, String.append_assoc] at hne ⊢
    exact Told.located input offset expected l.line.number l.line.start l.column _ (Location.start_add_column h) hne

theorem told_left (settings : Settings) (source input : String) (consumed : Nat) :
    Told source (.trailing input consumed) (output settings source (.trailing input consumed)).value
      (output settings source (.trailing input consumed)).records := by
  rcases Nat.lt_or_ge consumed (size source) with hlt | hge
  · obtain ⟨before, rest, hsource, hbefore, hleft⟩ := TrailingInput.fromConsumed_of_lt hlt
    rw [output, Logged.value_bind, Logged.records_bind, hleft, ← hbefore]
    apply Told.left input consumed before rest hsource _ hlt
    rw [hbefore]
    exact floorBoundary_le (bytes source) consumed
  · rw [output, Logged.value_bind, Logged.records_bind, TrailingInput.fromConsumed_of_le hge]
    exact Told.consumed input consumed hge

theorem told_output (settings : Settings) (source : String) (c : Command) :
    Told source c (c.output settings source).value (c.output settings source).records := by
  cases c with
  | locate input offset expected fancy =>
    cases fancy with
    | true => exact Told.snippet input offset expected _
    | false => exact told_diagnostic settings source input offset expected
  | trailing input consumed => exact told_left settings source input consumed

end Command

/-! ## The run -/

namespace Request

/-- What a run records, and how it ends. -/
inductive Recorded (r : Request) (files : Files) : List Record → Except RunError String → Prop
  /-- No configuration could be loaded. -/
  | unconfigured (search : List Record) (e : RunError) :
      (Configuration.load files r.config).value = .error e →
      Configuration.Searched files r.config search (.error e) →
      Recorded r files search (.error e)
  /-- The configuration was loaded, but the announced input could not be read. -/
  | unread (search : List Record) (settings : Settings) (input : String) (announcement : Record)
      (reason : IoError) :
      (Configuration.load files r.config).value = .ok settings →
      Configuration.Searched files r.config search (.ok settings) →
      r.command.Announced input announcement →
      (files.state input).Gives (.error reason) →
      Recorded r files (search ++ [announcement]) (.error (.io reason))
  /-- All was done. -/
  | done (search : List Record) (settings : Settings) (input : String) (announcement : Record)
      (source text : String) (result : List Record) :
      (Configuration.load files r.config).value = .ok settings →
      Configuration.Searched files r.config search (.ok settings) →
      r.command.Announced input announcement →
      (files.state input).Gives (.ok source) →
      r.command.Told source text result →
      Recorded r files (search ++ announcement :: result) (.ok text)

/-- **What a run records**: its search for the configuration, the command if that was loaded, and what the command
found if its input was read. -/
theorem run_recorded (r : Request) (files : Files) :
    Recorded r files (r.run files).records (r.run files).value := by
  have hsearched := Configuration.searched_load files r.config
  have hannounced := r.command.announced_record
  rw [run, Logged.records_bind, Logged.value_bind]
  cases hload : (Configuration.load files r.config).value with
  | error e =>
    rw [hload] at hsearched
    simp only [Logged.records_pure, Logged.value_pure, List.append_nil]
    exact Recorded.unconfigured _ e hload hsearched
  | ok settings =>
    rw [hload] at hsearched
    simp only [Logged.records_bind, Logged.value_bind, Logged.records_write]
    have hgives := (files.state r.command.input).gives_read
    cases hread : (files.state r.command.input).read with
    | error reason =>
      rw [hread] at hgives
      exact Recorded.unread _ settings _ _ reason hload hsearched hannounced hgives
    | ok source =>
      rw [hread] at hgives
      have htold := r.command.told_output settings source
      simp only [Logged.records_bind, Logged.value_bind, Logged.records_pure, Logged.value_pure, List.append_nil]
      exact Recorded.done _ settings _ _ source _ _ hload hsearched hannounced hgives htold

end Request

end Caret
