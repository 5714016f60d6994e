import Caret.Data

/-!
# The tables of a TOML document

A document is built from headers and key assignments in the order of the text. A tree keeps for each
table how it came to be, since that decides what may still be added to it:

* a table with a header may not get a second one, nor keys through dotted names from outside;
* a table that only stands in the path of a header may still get its own, or be taken over by dotted
  keys;
* a table that dotted keys made or took over grows by dotted keys only, but headers may add tables
  below it;
* arrays and tables that are written as values are closed.
-/

namespace Caret.Toml

/-- How a table came to be. -/
inductive Origin
  | header
  | path
  | dotted
deriving DecidableEq

/-- A part of a document: a finished value, a table, or the tables of an array of tables, the last one
first. -/
inductive Node
  | value (v : Data)
  | table (origin : Origin) (entries : List (String × Node))
  | tables (items : List (List (String × Node)))

/-- The entries of a table, in the order in which their keys first came up. -/
abbrev Entries := List (String × Node)

namespace Entries

/-- The part at a key. -/
def find? (key : String) (es : Entries) : Option Node := (List.find? (·.1 == key) es).map (·.2)

/-- Puts a part at a key: in its place if the key is there, else at the end. -/
def put (key : String) (node : Node) : Entries → Entries
  | [] => [(key, node)]
  | e :: es => if e.1 = key then (key, node) :: es else e :: put key node es

/-- Changes the table that a header's path leads to; tables that are not there are made. In an array
of tables the path leads on through the last one. -/
def within (change : Entries → Option Entries) : List String → Entries → Option Entries
  | [], es => change es
  | key :: path, es =>
    match es.find? key with
    | none => do return es.put key (.table .path (← within change path []))
    | some (.value _) => none
    | some (.table origin inner) => do return es.put key (.table origin (← within change path inner))
    | some (.tables []) => none
    | some (.tables (last :: earlier)) => do
      return es.put key (.tables ((← within change path last) :: earlier))

/-- Opens a table by its header. -/
def openTable (key : String) (es : Entries) : Option Entries :=
  match es.find? key with
  | none => some (es.put key (.table .header []))
  | some (.table .path inner) => some (es.put key (.table .header inner))
  | some _ => none

/-- Opens a further table of an array of tables by its header. -/
def openItem (key : String) (es : Entries) : Option Entries :=
  match es.find? key with
  | none => some (es.put key (.tables [[]]))
  | some (.tables items) => some (es.put key (.tables ([] :: items)))
  | some _ => none

/-- Assigns a value to a dotted key. `mayTake` says whether the table at hand may take a key of its
own: the one that is open may, and those that dotted keys lead through, but not one of an array. -/
def assign (v : Data) (mayTake : Bool) : List String → Entries → Option Entries
  | [], _ => none
  | [key], es => if mayTake && (es.find? key).isNone then some (es.put key (.value v)) else none
  | key :: path, es =>
    match es.find? key with
    | none => do return es.put key (.table .dotted (← assign v true path []))
    | some (.table .header _) => none
    | some (.table _ inner) => do return es.put key (.table .dotted (← assign v true path inner))
    | some (.tables (last :: earlier)) => do
      return es.put key (.tables ((← assign v false path last) :: earlier))
    | some _ => none

end Entries

/-! ## The finished document -/

mutual

/-- A part as data. -/
def Node.toData : Node → Data
  | .value v => v
  | .table _ entries => .table (Data.sortEntries (entriesData entries))
  | .tables items => .array (itemsData items).reverse

/-- The entries of a table as data, in the order at hand. -/
def entriesData : List (String × Node) → List (String × Data)
  | [] => []
  | (key, node) :: es => (key, node.toData) :: entriesData es

/-- Tables of an array as data, in the order at hand. -/
def itemsData : List (List (String × Node)) → List Data
  | [] => []
  | entries :: items => .table (Data.sortEntries (entriesData entries)) :: itemsData items

end

/-- A table as data: its entries in the order of their keys. -/
def Entries.toData (es : Entries) : Data := (Node.table .header es).toData

end Caret.Toml
