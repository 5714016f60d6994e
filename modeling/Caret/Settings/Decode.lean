import Caret.Data
import Caret.Decimal.Shortest
import Caret.Settings
import Caret.Text.Quoted

/-!
# Settings from configuration data

A schema says which keys a table can have and what their values are; the same values may stand in an array, in
the order of the keys.  The settings have a schema with three keys, and a configuration has one with the
settings as its only key.  What is not given keeps its standard value.  The first fault in the order of the
entries is reported.
-/

namespace Caret

/-! ## Faults -/

/-- What was wanted in the place of a value. -/
inductive Wanted
  | size
  | settings
  | configuration
deriving DecidableEq

namespace Wanted

/-- The name of what was wanted. -/
def name : Wanted → String
  | size => "usize"
  | settings => "struct LocateConfig"
  | configuration => "struct AppConfig"

end Wanted

/-- Why data hold no settings. -/
inductive Fault
  | unknownKey (key : String) (known : List String)
  | repeatedKey (key : String)
  | wrongType (found : Data) (wanted : Wanted)
  | negative (n : Int)
  | tooManyItems (count : Nat)

/-- What the format of a configuration text decides. -/
structure Format where
  /-- How floats are shown. -/
  float : Decimal.FloatStyle
  /-- Whether an array with more items than fields is refused. -/
  exactLength : Bool

namespace Format

/-- Data from JSON: floats from 0.00001 to below 10 ^ 16 are shown without exponent. -/
def json : Format := ⟨⟨fun e => -5 ≤ e && e ≤ 15, true⟩, true⟩

/-- Data from TOML: floats have no exponent. -/
def toml : Format := ⟨⟨fun _ => true, false⟩, false⟩

end Format

namespace Data

/-- An integer as it is told of: one that fits no 64-bit type with the width it needs. -/
def describeInteger (n : Int) : String :=
  let shown := "integer `" ++ toString n ++ "`"
  if Decimal.fits64 n then shown
  else if Decimal.fits128Signed n then shown ++ " as i128"
  else shown ++ " as u128"

/-- A value as it is told of. Of arrays and tables only the kind is told; a date is told of as a table. -/
def describe (format : Format) : Data → String
  | null => "null"
  | bool b => "boolean `" ++ toString b ++ "`"
  | integer n => describeInteger n
  | float x => "floating point `" ++ x.text format.float ++ "`"
  | unreadable .integer => "integer"
  | unreadable .float => "floating point"
  | string s => "string " ++ Text.quoted s
  | datetime _ => "map"
  | array _ => "sequence"
  | table _ => "map"

end Data

namespace Fault

/-- The names that a key could have had. -/
def describeKnown : List String → String
  | [] => "there are no fields"
  | [name] => "expected `" ++ name ++ "`"
  | [a, b] => "expected `" ++ a ++ "` or `" ++ b ++ "`"
  | names => "expected one of " ++ ", ".intercalate (names.map fun name => "`" ++ name ++ "`")

/-- The text of a fault. -/
def message (format : Format) : Fault → String
  | unknownKey key known => "unknown field `" ++ key ++ "`, " ++ describeKnown known
  | repeatedKey key => "duplicate field `" ++ key ++ "`"
  | wrongType (.unreadable .integer) _ => "integer number overflowed"
  | wrongType (.unreadable .float) _ => "floating-point number overflowed"
  | wrongType found wanted =>
    "invalid type: " ++ found.describe format ++ ", expected " ++ wanted.name
  | negative n => "invalid value: " ++ Data.describeInteger n ++ ", expected " ++ Wanted.size.name
  | tooManyItems count =>
    "invalid length " ++ toString count ++ ", expected fewer elements in array"

end Fault

/-! ## Tables with known keys -/

/-- How data with known keys are read, with values of one type behind all of them. -/
structure Schema (α σ : Type) where
  wanted : Wanted
  keys : List String
  /-- Reads the value of a key. -/
  read : Data → Except Fault α
  /-- Puts together what was read under the keys. -/
  build : List (String × α) → σ

namespace Schema

variable {α σ : Type} (c : Schema α σ)

/-- Reads the entries one after the other, behind what was found before. -/
def readEntries (found : List (String × α)) : List (String × Data) → Except Fault (List (String × α))
  | [] => .ok found
  | (key, v) :: entries =>
    if key ∉ c.keys then .error (.unknownKey key c.keys)
    else if (found.lookup key).isSome then .error (.repeatedKey key)
    else do
      let a ← c.read v
      readEntries (found ++ [(key, a)]) entries

/-- Reads the items under the keys, as long as there are both. -/
def readItems : List String → List Data → Except Fault (List (String × α))
  | key :: keys, v :: items => do
    let a ← c.read v
    return (key, a) :: (← readItems keys items)
  | _, _ => .ok []

/-- A date, as a table with its text. -/
def dateEntries (text : String) : List (String × Data) := [("$__toml_private_datetime", .string text)]

/-- What data hold. Items behind those of the keys are not looked at, but some formats count them. -/
def decode (format : Format) : Data → Except Fault σ
  | .table entries => do return c.build (← c.readEntries [] entries)
  | .datetime text => do return c.build (← c.readEntries [] (dateEntries text))
  | .array items => do
    let found ← c.readItems c.keys items
    if format.exactLength && c.keys.length < items.length then .error (.tooManyItems items.length)
    else return c.build found
  | v => .error (.wrongType v c.wanted)

end Schema

/-! ## Settings and configurations -/

namespace Settings

/-- A size is an integer from 0 that fits 64 bits. -/
def decodeSize : Data → Except Fault Nat
  | .integer n =>
    if !Decimal.fits64 n then .error (.wrongType (.integer n) .size)
    else if n < 0 then .error (.negative n)
    else .ok n.toNat
  | v => .error (.wrongType v .size)

/-- The settings: a size for each of them. -/
def schema : Schema Nat Settings where
  wanted := .settings
  keys := ["right_margin", "window", "max_width"]
  read := decodeSize
  build found :=
    { rightMargin := (found.lookup "right_margin").getD standard.rightMargin
      window := (found.lookup "window").getD standard.window
      maxWidth := (found.lookup "max_width").getD standard.maxWidth }

/-- The settings that data hold. -/
def decode (format : Format) (v : Data) : Except Fault Settings := schema.decode format v

/-- A configuration: the settings, in a section of their own. -/
def configurationSchema (format : Format) : Schema Settings Settings where
  wanted := .configuration
  keys := ["locate"]
  read := decode format
  build found := (found.lookup "locate").getD standard

/-- The settings of a configuration, which has them in their section or not at all. -/
def decodeConfiguration (format : Format) (v : Data) : Except Fault Settings :=
  (configurationSchema format).decode format v

end Settings

end Caret
