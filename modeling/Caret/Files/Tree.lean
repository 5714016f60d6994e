import Caret.Files

/-!
# A tree of files

A working directory and what is below it. A path is followed name by name: every name but the last
must lead to a directory, `.` stays and `..` goes up. Above the working directory nothing is known but
that there are directories.
-/

namespace Caret

/-- What a path of a tree holds. -/
inductive Content
  | file (bytes : List UInt8)
  | directory

/-- A working directory, known by an absolute path, with the names that lead to its contents. A
directory that holds anything need not be listed. -/
structure Tree where
  root : String
  contents : List (List String × Content)

namespace Tree

/-! ## Paths -/

/-- The names of a path. -/
def names (path : String) : List String :=
  let step (c : Char) (done : List (List Char)) : List (List Char) :=
    if c = '/' then [] :: done
    else match done with
      | [] => [[c]]
      | name :: more => (c :: name) :: more
  ((path.toList.foldr step [[]]).map String.ofList).filter (· != "")

/-- The places that names lead through from a place of the tree, with the last one first. -/
def walk (done : List (List String)) (place : List String) : List String → List (List String)
  | [] => place :: done
  | name :: more =>
    if name = "." then walk done place more
    else if name = ".." then walk (place :: done) place.dropLast more
    else walk (place :: done) (place ++ [name]) more

/-- What the tree holds once a path of it holds something: the directories on the way are made. -/
def entriesFor (path : String) (content : Content) : List (List String × Content) :=
  match walk [] [] (names path) with
  | [] => []
  | place :: way => (place, content) :: way.map (·, .directory)

/-- A working directory with contents; what is put to the same place later counts. -/
def ofContents (root : String) (contents : List (String × Content)) : Tree :=
  ⟨root, contents.reverse.flatMap fun (path, content) => entriesFor path content⟩

/-! ## States -/

/-- What stands at a place of the tree. -/
def content? (t : Tree) (place : List String) : Option Content :=
  match t.contents.find? (·.1 == place) with
  | some (_, content) => some content
  | none => if place.isEmpty || t.contents.any (place.isPrefixOf ·.1) then some .directory else none

/-- The state of a place; `none` is a directory above the tree. -/
def placeState (t : Tree) : Option (List String) → PathState
  | none => .unreadable .isADirectory
  | some place =>
    match t.content? place with
    | none => .absent (.system .notFound)
    | some .directory => .unreadable .isADirectory
    | some (.file bytes) => .file bytes

/-- How many bytes a name may have. -/
def nameLimit : Nat := 255

/-- How many bytes a path may have. -/
def pathLimit : Nat := 4095

/-- Goes from a directory to a name in it. -/
def enter (place : Option (List String)) (name : String) : Except SystemError (Option (List String)) :=
  if nameLimit < Text.size name then .error .nameTooLong
  else match place with
    | none => if name = "." || name = ".." then .ok none else .error .notFound
    | some place =>
      if name = "." then .ok (some place)
      else if name = ".." then .ok (if place.isEmpty then none else some place.dropLast)
      else .ok (some (place ++ [name]))

/-- Follows names from a place. -/
def follow (t : Tree) (place : Option (List String)) : List String → PathState
  | [] => t.placeState place
  | name :: more =>
    match t.placeState place with
    | .absent reason => .absent reason
    | .file _ => .absent (.system .notADirectory)
    | .unreadable _ =>
      match enter place name with
      | .error reason => .absent (.system reason)
      | .ok place => follow t place more

/-- The state of a path. A path that ends in a slash leads to a directory. -/
def state (t : Tree) (path : String) : PathState :=
  let last := if path.endsWith "/" then ["."] else []
  let (start, below) :=
    if path.startsWith (t.root ++ "/") then (some [], String.ofList (path.toList.drop t.root.length))
    else if path.startsWith "/" then (none, path)
    else (some [], path)
  if path.toList.contains '\x00' then .absent .nullInPath
  else if path = "" then .absent (.system .notFound)
  else if pathLimit < Text.size path then .absent (.system .nameTooLong)
  else follow t start (names below ++ last)

/-- The tree as the file system of a run. The system keeps its configurations in a directory that is
given by a path from the working directory. -/
def files (t : Tree) (configHome : String) : Files where
  state := t.state
  systemConfig := some (Files.configUnder (Files.join t.root configHome))

end Tree

end Caret
