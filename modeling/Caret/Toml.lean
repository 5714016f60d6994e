import Caret.Toml.Quoted
import Caret.Toml.Scalar
import Caret.Toml.Tree

/-!
# Reading TOML

`Toml.read?` reads a whole text as a TOML document, and returns its table. A text that is no document,
because of its form or because of a key that is defined twice, has no reading.

The readers of values share one fuel. Of three steps of theirs one takes a character at least, so three
times the length of the text is enough. A text cannot nest deeper than `nestingLimit`.
-/

namespace Caret.Toml

/-! ## Values -/

mutual

/-- Reads one value inside `depth` others. -/
def value? : Nat → Nat → List Char → Option (Data × List Char)
  | 0, _, _ => none
  | fuel + 1, depth, cs =>
    match cs with
    | '"' :: _ | '\'' :: _ => (string? cs).map fun (s, rest) => (.string s, rest)
    | '[' :: cs => if depth < nestingLimit then items? fuel (depth + 1) [] cs else none
    | '\x7b' :: cs => if depth < nestingLimit then members? fuel (depth + 1) [] cs else none
    | cs =>
      let (token, rest) := splitToken (cs.length + 1) cs
      (scalar? token).map (·, rest)

/-- Reads the items of an array up to its end; a comma may follow the last one. -/
def items? : Nat → Nat → List Data → List Char → Option (Data × List Char)
  | 0, _, _, _ => none
  | fuel + 1, depth, done, cs =>
    match skipFiller? false cs with
    | some (']' :: rest) => some (.array done.reverse, rest)
    | some cs =>
      match value? fuel depth cs with
      | none => none
      | some (v, rest) =>
        match skipFiller? false rest with
        | some (',' :: rest) => items? fuel depth (v :: done) rest
        | some (']' :: rest) => some (.array (v :: done).reverse, rest)
        | _ => none
    | none => none

/-- Reads the members of an inline table up to its end; a comma may follow the last one. -/
def members? : Nat → Nat → Entries → List Char → Option (Data × List Char)
  | 0, _, _, _ => none
  | fuel + 1, depth, es, cs =>
    match skipFiller? false cs with
    | some ('\x7d' :: rest) => some (es.toData, rest)
    | some cs =>
      match member? fuel depth cs with
      | none => none
      | some (path, v, rest) =>
        match es.assign v true path, skipFiller? false rest with
        | some es, some (',' :: rest) => members? fuel depth es rest
        | some es, some ('\x7d' :: rest) => some (es.toData, rest)
        | _, _ => none
    | none => none

/-- Reads one member of an inline table, which may take several lines: its key and its value. -/
def member? : Nat → Nat → List Char → Option (List String × Data × List Char)
  | 0, _, _ => none
  | fuel + 1, depth, cs =>
    match key? cs with
    | none => none
    | some (path, rest) =>
      match skipFiller? false rest with
      | some ('=' :: rest) =>
        match skipFiller? false rest with
        | some rest => (value? fuel depth rest).map fun (v, rest) => (path, v, rest)
        | none => none
      | _ => none

end

/-! ## Documents -/

/-- A document in the making: its tree, and the path of the table that is open. -/
structure Draft where
  root : Entries
  path : List String

/-- Reads the header of a table. -/
def header? (d : Draft) (cs : List Char) : Option (Draft × List Char) :=
  match key? cs with
  | some (path, ']' :: rest) => do
    let last ← path.getLast?
    let root ← d.root.within (·.openTable last) path.dropLast
    return (⟨root, path⟩, rest)
  | _ => none

/-- Reads the header of a table in an array of tables. -/
def itemHeader? (d : Draft) (cs : List Char) : Option (Draft × List Char) :=
  match key? cs with
  | some (path, ']' :: ']' :: rest) => do
    let last ← path.getLast?
    let root ← d.root.within (·.openItem last) path.dropLast
    return (⟨root, path⟩, rest)
  | _ => none

/-- Reads a key and its value. -/
def assignment? (d : Draft) (cs : List Char) : Option (Draft × List Char) :=
  match key? cs with
  | some (path, '=' :: rest) => do
    let (v, rest) ← value? (3 * rest.length + 3) 0 (skipBlank rest)
    let root ← d.root.within (·.assign v true path) d.path
    return ({ d with root := root }, rest)
  | _ => none

/-- Reads one line, without its end. A line may hold nothing. -/
def line? (d : Draft) (cs : List Char) : Option (Draft × List Char) :=
  match skipBlank cs with
  | '[' :: '[' :: cs => itemHeader? d cs
  | '[' :: cs => header? d cs
  | [] => some (d, [])
  | c :: cs =>
    if c == '\n' || c == '\r' || c == '#' then some (d, c :: cs) else assignment? d (c :: cs)

/-- Reads the lines of a document. -/
def lines? : Nat → Draft → List Char → Option Draft
  | 0, _, _ => none
  | _, d, [] => some d
  | fuel + 1, d, cs => do
    let (d, rest) ← line? d cs
    let rest ← lineEnd? false rest
    lines? fuel d rest

/-- The table of a document. A byte order mark may stand before it. -/
def read? (text : String) : Option Data :=
  let cs := match text.toList with
    | '\uFEFF' :: cs => cs
    | cs => cs
  (lines? (cs.length + 1) ⟨[], []⟩ cs).map fun d => d.root.toData

end Caret.Toml
