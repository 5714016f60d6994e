import Caret.Decimal.Double

/-!
# Configuration data

The values that a configuration text can hold, whatever the format it is written in.
-/

namespace Caret

/-- The two kinds of number. -/
inductive NumberKind
  | integer
  | float
deriving DecidableEq

/-- A value of a configuration text. The entries of a table are in the order in which
they are decoded. -/
inductive Data
  | null
  | bool (b : Bool)
  | integer (n : Int)
  | float (x : Decimal.Double)
  /-- A number whose text its kind cannot hold. -/
  | unreadable (kind : NumberKind)
  | string (s : String)
  | datetime (text : String)
  | array (items : List Data)
  | table (entries : List (String × Data))

namespace Data

/-- The value of a key; of several the last. -/
def get? (key : String) : Data → Option Data
  | table entries => (entries.reverse.find? (·.1 == key)).map (·.2)
  | _ => none

/-- Puts an entry into a table that is sorted by key; the value of a key that is there is replaced. -/
def insertSorted (entry : String × Data) : List (String × Data) → List (String × Data)
  | [] => [entry]
  | e :: es =>
    if entry.1 < e.1 then entry :: e :: es
    else if entry.1 = e.1 then entry :: es
    else e :: insertSorted entry es

/-- The entries in the order of their keys, each key once with its last value. -/
def sortEntries (entries : List (String × Data)) : List (String × Data) :=
  entries.foldl (fun sorted e => insertSorted e sorted) []

end Data

end Caret
