/-!
# The words of the command line

The options, the commands with the options they take, and the help text of each.
-/

namespace Caret.Cli

/-- The options. -/
inductive Opt
  | offset
  | expected
  | consumed
  | config
  | fancy
  | logLevel
  | help
  | version
deriving DecidableEq

namespace Opt

/-- The long name, which follows two dashes. -/
def long : Opt → String
  | offset => "offset"
  | expected => "expected"
  | consumed => "consumed"
  | config => "config"
  | fancy => "fancy"
  | logLevel => "log-level"
  | help => "help"
  | version => "version"

/-- The letter that follows one dash. -/
def short? : Opt → Option Char
  | offset => some 'o'
  | expected => some 'e'
  | config => some 'c'
  | help => some 'h'
  | version => some 'V'
  | consumed | fancy | logLevel => none

/-- The name of the value; an option without one is a flag. -/
def value? : Opt → Option String
  | offset => some "OFFSET"
  | expected => some "EXPECTED"
  | consumed => some "CONSUMED"
  | config => some "CONFIG"
  | logLevel => some "LOG_LEVEL"
  | fancy | help | version => none

/-- Whether the value is a size. -/
def wantsSize : Opt → Bool
  | offset | consumed => true
  | _ => false

/-- What the option does. -/
def about : Opt → String
  | offset => "Byte offset where parsing failed"
  | expected => "Description of what the parser expected at the offset"
  | consumed => "Number of bytes the parser consumed"
  | config => "Path to configuration file (TOML)"
  | fancy => "Render with miette's graphical report handler"
  | logLevel => "Log level (off, error, warn, info, debug, trace) [default: info]"
  | help => "Print help"
  | version => "Print version"

/-- The option as it is written, with the name of its value. -/
def shown (o : Opt) : String :=
  "--" ++ o.long ++ (o.value?.elim "" fun value => " <" ++ value ++ ">")

end Opt

/-- What the command line is about: the whole program, or one of its commands. -/
inductive Topic
  | program
  | locate
  | trailing
  | help
deriving DecidableEq

namespace Topic

/-- The name of the program. -/
def programName : String := "pinpoint"

/-- The commands. -/
def commands : List Topic := [locate, trailing, help]

/-- The name of a command. -/
def name : Topic → String
  | program => programName
  | locate => "locate"
  | trailing => "trailing"
  | help => "help"

/-- The command of a name. -/
def ofName? (name : String) : Option Topic := commands.find? (·.name == name)

/-- What the command does. -/
def about : Topic → String
  | program => "Command-line front end for rendering pinpoint parse diagnostics"
  | locate => "Render a caret diagnostic for a failure at a byte offset"
  | trailing => "Report the input left after a parser consumed a prefix"
  | help => "Print this message or the help of the given subcommand(s)"

/-- How the command is written. -/
def usage : Topic → String
  | program => "pinpoint [OPTIONS] <COMMAND>"
  | locate => "pinpoint locate [OPTIONS] --offset <OFFSET> --expected <EXPECTED> <INPUT>"
  | trailing => "pinpoint trailing [OPTIONS] --consumed <CONSUMED> <INPUT>"
  | help => "pinpoint help [COMMAND]..."

/-- The options that the command takes. -/
def options : Topic → List Opt
  | program => [.config, .logLevel, .help, .version]
  | locate => [.offset, .expected, .config, .fancy, .logLevel, .help]
  | trailing => [.consumed, .config, .logLevel, .help]
  | help => []

/-- The arguments of the command that are no options, and what they are. -/
def arguments : Topic → List (String × String)
  | program => []
  | locate | trailing => [("<INPUT>", "Path to the input file")]
  | help => [("[COMMAND]...", "Print help for the subcommand(s)")]

end Topic

/-! ## Help texts -/

/-- Rows of two columns under a title; the second column starts two spaces after the longest entry of
the first. -/
def table (title : String) (rows : List (String × String)) : List String :=
  let width := rows.foldl (fun w row => max w row.1.length) 0
  if rows.isEmpty then []
  else "" :: title :: rows.map fun (left, right) =>
    "  " ++ left ++ String.ofList (List.replicate (width - left.length + 2) ' ') ++ right

/-- The row of an option. -/
def optionRow (o : Opt) : String × String :=
  let short := o.short?.elim "    " fun c => String.ofList ['-', c, ',', ' ']
  (short ++ o.shown, o.about)

/-- The help text of a topic. -/
def helpText (t : Topic) : String :=
  let commands := if t = .program then Topic.commands else []
  let lines := t.about :: "" :: ("Usage: " ++ t.usage) ::
    table "Commands:" (commands.map fun c => (c.name, c.about)) ++
    table "Arguments:" t.arguments ++
    table "Options:" (t.options.map optionRow)
  String.join (lines.map (· ++ "\n"))

/-- The version text. -/
def versionText : String := "pinpoint-cli 0.1.0\n"

end Caret.Cli
