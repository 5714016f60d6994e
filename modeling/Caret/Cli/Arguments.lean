import Caret.Cli.Usage
import Caret.Decimal.Digits
import Caret.Run
import Caret.Text.Control

/-!
# Reading the command line

Arguments are taken from left to right. The options of the program may stand before or after the name
of the command; what stands after it counts. An option that takes a value keeps waiting for it until
the next argument, so a fault of its value shows when the argument after it is taken.
-/

namespace Caret.Cli

/-! ## Faults -/

/-- Why a number is no size. -/
inductive SizeFault
  | empty
  | notDigit
  | tooLarge
deriving DecidableEq

namespace SizeFault

/-- The text of the fault. -/
def message : SizeFault → String
  | empty => "cannot parse integer from empty string"
  | notDigit => "invalid digit found in string"
  | tooLarge => "number too large to fit in target type"

end SizeFault

/-- Why a command line is not accepted. -/
inductive UsageError
  | noArguments
  | noCommand
  | unknownCommand (name : String)
  | unknownArgument (argument : String)
  | missingRequired
  | missingValue (o : Opt)
  | extraValue (o : Opt) (value : String)
  | badValue (o : Opt) (value : String) (fault : SizeFault)
  | repeated (o : Opt)
deriving DecidableEq

namespace UsageError

/-- Words of the command line as errors show them: without control sequences, in quotes. -/
def cited (words : String) : String := "'" ++ Text.plain words ++ "'"

/-- The text of the error up to the help that follows it. -/
def message : UsageError → String
  | noArguments => Topic.program.about
  | noCommand =>
    "error: '" ++ Topic.programName ++ "' requires a subcommand but one was not provided"
  | unknownCommand name => "error: unrecognized subcommand " ++ cited name
  | unknownArgument argument => "error: unexpected argument " ++ cited argument ++ " found"
  | missingRequired => "error: the following required arguments were not provided:"
  | missingValue o =>
    "error: a value is required for '" ++ o.shown ++ "' but none was supplied"
  | extraValue o value =>
    "error: unexpected value " ++ cited value ++ " for '" ++ o.shown ++
      "' found; no more were expected"
  | badValue o value fault =>
    "error: invalid value " ++ cited value ++ " for '" ++ o.shown ++ "': " ++ fault.message
  | repeated o => "error: the argument '" ++ o.shown ++ "' cannot be used multiple times"

end UsageError

/-- Why a command line asks for no command to be done. -/
inductive Stop
  | help (topic : Topic)
  | version
  | refused (e : UsageError)
deriving DecidableEq

/-! ## Sizes -/

/-- Reads digits after those that are worth `n`. The first character that is no digit or that makes
the number too large is the fault. -/
def sizeFrom (n : Nat) : List Char → Except SizeFault Nat
  | [] => .ok n
  | c :: cs =>
    if c.isDigit then
      let n := n * 10 + (c.toNat - '0'.toNat)
      if n < Decimal.sizeLimit then sizeFrom n cs else .error .tooLarge
    else .error .notDigit

/-- Reads a size: decimal digits, perhaps after a plus sign. -/
def parseSize (text : String) : Except SizeFault Nat :=
  match text.toList with
  | [] => .error .empty
  | ['+'] => .error .notDigit
  | '+' :: cs => sizeFrom 0 cs
  | cs => sizeFrom 0 cs

/-! ## Options -/

/-- The value of an option that was given. -/
inductive Value
  | set
  | text (s : String)
  | size (n : Nat)
deriving DecidableEq

/-- Where the reading of one command's arguments stands. -/
structure Scan where
  topic : Topic
  given : List (Opt × Value)
  input : Option String
  /-- An option whose value is not checked yet, with the value once it is there. -/
  pending : Option (Opt × Option String)
  /-- Whether the mark was seen after which nothing is an option. -/
  literal : Bool

namespace Scan

/-- Nothing of a command's arguments is read. -/
def start (topic : Topic) : Scan := ⟨topic, [], none, none, false⟩

/-- Adds an option that takes part in the command; it may be given once. -/
def give (s : Scan) (o : Opt) (v : Value) : Scan := { s with given := s.given ++ [(o, v)] }

/-- Whether an option was given. -/
def has (s : Scan) (o : Opt) : Bool := s.given.any (·.1 == o)

/-- Checks an option with its value. -/
def accept (s : Scan) (o : Opt) (value : String) : Except Stop Scan :=
  if s.has o then .error (.refused (.repeated o))
  else if o.wantsSize then
    match parseSize value with
    | .ok n => .ok (s.give o (.size n))
    | .error fault => .error (.refused (.badValue o value fault))
  else .ok (s.give o (.text value))

/-- Checks the pending option, if there is one. -/
def settle (s : Scan) : Except Stop Scan :=
  match s.pending with
  | none => .ok s
  | some (o, none) => .error (.refused (.missingValue o))
  | some (o, some value) => { s with pending := none }.accept o value

/-- Takes a flag. Those for help and version stop at once. -/
def flag (s : Scan) (o : Opt) : Except Stop Scan := do
  let s ← s.settle
  if o = .help then .error (.help s.topic)
  else if o = .version then .error .version
  else if s.has o then .error (.refused (.repeated o))
  else .ok (s.give o .set)

/-- Takes an option that has a value, which may be attached or still to come. -/
def option (s : Scan) (o : Opt) (attached : Option String) : Except Stop Scan := do
  let s ← s.settle
  match attached with
  | some value => s.accept o value
  | none => .ok { s with pending := some (o, none) }

/-- Takes an argument that starts with two dashes, without them. -/
def long (s : Scan) (argument : List Char) : Except Stop Scan :=
  let name := String.ofList (argument.takeWhile (· != '='))
  let attached := match argument.dropWhile (· != '=') with
    | [] => none
    | _ :: value => some (String.ofList value)
  match s.topic.options.find? (·.long == name), attached with
  | none, _ => .error (.refused (.unknownArgument ("--" ++ name)))
  | some o, attached =>
    if o.value?.isSome then s.option o attached
    else match attached with
      | some value => .error (.refused (.extraValue o value))
      | none => s.flag o

/-- Takes letters after one dash. What follows the letter of an option with a value is the value, and
an equals sign before it is dropped. -/
def short (s : Scan) : List Char → Except Stop Scan
  | [] => .ok s
  | c :: cs =>
    match s.topic.options.find? (·.short? == some c) with
    | none => .error (.refused (.unknownArgument (String.ofList ['-', c])))
    | some o =>
      if o.value?.isSome then
        s.option o (match cs with
          | [] => none
          | '=' :: value => some (String.ofList value)
          | value => some (String.ofList value))
      else do
        let s ← s.flag o
        s.short cs

/-- Takes an argument that is no option. The program itself has none but the name of a command. -/
def positional (s : Scan) (argument : String) : Except Stop Scan :=
  if s.topic = .program then
    if s.literal && (Topic.ofName? argument).isSome then
      .error (.refused (.unknownArgument argument))
    else .error (.refused (.unknownCommand argument))
  else if s.input.isSome then .error (.refused (.unknownArgument argument))
  else do
    let s ← s.settle
    .ok { s with input := some argument }

/-- Whether the next argument may be the value of an option. -/
def isWaiting (s : Scan) : Bool := s.pending.any (·.2.isNone)

/-- Takes one argument. -/
def take (s : Scan) (argument : String) : Except Stop Scan :=
  if s.literal then s.positional argument
  else match argument.toList with
    | ['-', '-'] => .ok { s with literal := true }
    | '-' :: '-' :: cs => s.long cs
    | '-' :: c :: cs => s.short (c :: cs)
    | _ =>
      match s.pending with
      | some (o, none) => .ok { s with pending := some (o, some argument) }
      | _ => s.positional argument

/-- The text of an option. -/
def text? (s : Scan) (o : Opt) : Option String :=
  s.given.findSome? fun
    | (given, .text value) => if given = o then some value else none
    | _ => none

/-- The size of an option. -/
def size? (s : Scan) (o : Opt) : Option Nat :=
  s.given.findSome? fun
    | (given, .size n) => if given = o then some n else none
    | _ => none

/-- The command that the arguments make up; `none` if one that it needs is missing. -/
def command? (s : Scan) : Option Command :=
  match s.topic with
  | .locate => do
    return .locate (← s.input) (← s.size? .offset) (← s.text? .expected) (s.has .fancy)
  | .trailing => do return .trailing (← s.input) (← s.size? .consumed)
  | _ => none

end Scan

/-! ## The whole command line -/

/-- The topic that help is wanted on. Commands have no commands of their own. -/
def helpTopic : List String → Except Stop Topic
  | [] => .ok .program
  | name :: more =>
    match Topic.ofName? name, more with
    | none, _ => .error (.refused (.unknownCommand name))
    | some topic, [] => .ok topic
    | some _, extra :: _ => .error (.refused (.unknownCommand extra))

/-- Takes the arguments of a command: what they make up, and the options given among them. -/
def scanCommand (topic : Topic) (arguments : List String) : Except Stop (Command × Scan) := do
  let s ← arguments.foldlM Scan.take (Scan.start topic)
  let s ← s.settle
  match s.command? with
  | some command => .ok (command, s)
  | none => .error (.refused .missingRequired)

/-- The log level where none is given. -/
def standardLogLevel : String := "info"

/-- The request of a command, with the options given before its name and after it. -/
def request (outer : Scan) (command : Command) (inner : Scan) : Request where
  command := command
  config := (inner.text? .config).or (outer.text? .config)
  logLevel := ((inner.text? .logLevel).or (outer.text? .logLevel)).getD standardLogLevel

/-- Takes the arguments of the program up to the name of a command. -/
def scanProgram (s : Scan) : List String → Except Stop Request
  | [] => do
    let s ← s.settle
    .error (.refused (if s.given.isEmpty then .noArguments else .noCommand))
  | argument :: more =>
    match if s.literal || s.isWaiting then none else Topic.ofName? argument with
    | some .help => do
      let topic ← helpTopic more
      .error (.help topic)
    | some topic => do
      let (command, inner) ← scanCommand topic more
      let s ← s.settle
      .ok (request s command inner)
    | none => do
      let s ← s.take argument
      scanProgram s more

/-- The request that a command line makes, or why there is none. -/
def parseArguments (arguments : List String) : Except Stop Request :=
  scanProgram (Scan.start .program) arguments

end Caret.Cli
