import Caret.Diagnostic
import Caret.Report

/-!
# Sessions

A session is what a program that parses keeps while it works on one text: the text, the settings of its
diagnostics, the best error so far, and the failures it has collected. `Session.step` takes one step
and answers it.
-/

namespace Caret

/-- What a parser has at hand. -/
structure Session where
  source : String
  settings : Settings
  best : Option PositionedError
  failures : List Failure

namespace Session

/-- A session that has just begun. -/
def start : Session := ⟨"", .standard, none, []⟩

/-- What can be asked of a session. -/
inductive Step
  | setSource (text : String)
  | append (text : String)
  | setSettings (s : Settings)
  | report (e : PositionedError)
  | reportOver (e : PositionedError)
  | clear
  | locate
  | locateStandard
  | line
  | fancy
  | fail
  | trailing (consumed : Nat)
  | failures
  | same

/-- What a session answers. -/
inductive Answer
  | size (n : Nat)
  | settings (s : Settings)
  | best (e : PositionedError)
  | flag (b : Bool)
  | text (t : Option String)
  | location (l : Option Location)
  | count (n : Option Nat)
  | failures (fs : List Failure)

/-- Whether the last two failures are equal; not so when there are fewer. -/
def lastTwoEqual (fs : List Failure) : Bool :=
  match fs.reverse with
  | a :: b :: _ => a == b
  | _ => false

/-- The session with another best error, which is the answer. -/
def keep (s : Session) (e : PositionedError) : Session × Answer :=
  ({ s with best := some e }, .best e)

/-- The diagnostic of the best error, if there is one. -/
def diagnose (s : Session) (settings : Settings) : Logged (Session × Answer) :=
  match s.best with
  | none => return (s, .text none)
  | some e => do
    let text ← Diagnostic.locate settings e s.source
    return (s, .text (some text))

/-- Takes one step. -/
def step (s : Session) : Step → Logged (Session × Answer)
  | .setSource text => return ({ s with source := text }, .size (Text.size text))
  | .append text =>
    let source := s.source ++ text
    return ({ s with source := source }, .size (Text.size source))
  | .setSettings settings => return ({ s with settings := settings }, .settings settings)
  | .report e => return s.keep (s.best.elim e (·.furthest e))
  | .reportOver e => return s.keep (s.best.elim e e.furthest)
  | .clear => return ({ s with best := none }, .flag s.best.isSome)
  | .locate => s.diagnose s.settings
  | .locateStandard => s.diagnose .standard
  | .line => return (s, .location (s.best.bind fun e => Location.find? s.source e.pos))
  | .fancy => return (s, .text (s.best.map fun e => (Report.ofPositioned e s.source).render))
  | .fail =>
    match s.best with
    | none => return (s, .count none)
    | some e =>
      let failures := s.failures ++ [.positioned e]
      return ({ s with best := none, failures := failures }, .count (some failures.length))
  | .trailing consumed => do
    match ← TrailingInput.fromConsumed s.source consumed with
    | none => return (s, .text none)
    | some e =>
      return ({ s with failures := s.failures ++ [.trailing e] }, .text (some e.message))
  | .failures => return (s, .failures s.failures)
  | .same => return (s, .flag (lastTwoEqual s.failures))

/-- Takes steps one after the other, and gives their answers. -/
def run (s : Session) : List Step → Logged (List Answer)
  | [] => return []
  | next :: steps => do
    let (s, answer) ← s.step next
    return answer :: (← run s steps)

end Session

end Caret
