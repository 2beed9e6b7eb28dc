import TableQuery.Failure
import TableQuery.Table

/-!
# Files

What a program sees of the files around it, the paths that lead to them,
and a directory as a source of tables.
-/

namespace TableQuery

/-! ## Files

Which paths lead to a file or a directory, and what reading a path gives. -/

/-- The files that can be read, by path. -/
structure Files where
  /-- Whether the path leads to a file or a directory. -/
  holds : String → Bool
  /-- The bytes of the file, or why they cannot be read. -/
  read : String → Except FileFault (List UInt8)

namespace Path

/-! ## Paths

A path is a text in which slashes part the names of directories and
files. -/

/-- The parts of a path between its slashes, empty ones included. -/
def splitChars : List Char → List (List Char)
  | [] => [[]]
  | c :: cs =>
    if c = '/' then [] :: splitChars cs
    else
      match splitChars cs with
      | [] => [[c]]
      | part :: parts => (c :: part) :: parts

/-- The parts of a path between its slashes, empty ones included. -/
def parts (path : String) : List String :=
  (splitChars path.toList).map String.ofList

/-- The names on the way that a path describes. Empty parts and dots
describe no step; two dots are a step up. -/
def components (path : String) : List String :=
  (parts path).filter fun part => part ≠ "" ∧ part ≠ "."

/-- Whether a path starts at the root. -/
def isAbsolute (path : String) : Bool :=
  path.toList.head? == some '/'

/-- The path of `name` seen from the directory `base`. An absolute name
does not depend on the base; otherwise a slash is put between the two
unless the base is empty or ends in one. -/
def join (base name : String) : String :=
  if isAbsolute name then name
  else if base.toList.getLast?.all (· == '/') then base ++ name
  else base ++ "/" ++ name

/-! ## Places

The names of a path are steps from the root or from the working directory:
two dots lead one level up, any other name one level down. No file is looked
at, so this is the place of the path if everything on its way is a directory. -/

/-- The place one step away. Nothing is above the root. -/
def step (place : List String) (name : String) : List String :=
  if name = ".." then place.dropLast else place ++ [name]

/-- The place that names lead to. -/
def walk (place names : List String) : List String :=
  names.foldl step place

/-- The place of a path seen from the working directory `home`. -/
def place (home : List String) (path : String) : List String :=
  walk (if isAbsolute path then [] else home) (components path)

/-- The names in front of the last slash. -/
def directories (path : String) : List String :=
  (parts path).dropLast.filter fun part => part ≠ "" ∧ part ≠ "."

/-- Whether no beginning of the names has more steps up than down. -/
def Balanced (names : List String) : Prop :=
  ∀ front, front <+: names → front.count ".." ≤ front.countP (· != "..")

/-- Whether all places on the way of the names lie in the one they start
from. -/
def Stays (place names : List String) : Prop :=
  ∀ front, front <+: names → place <+: walk place front

end Path

/-! ## File trees

Directories and files in memory, seen from a working directory. A path is
followed name by name, and the first name that leads nowhere decides what
is wrong with the path. -/

/-- What lies at a place of the tree. -/
inductive FileEntry
  | file (content : List UInt8)
  | directory
  deriving DecidableEq, Repr

/-- A tree of files. Places are lists of names from the root; the entry
added last is in front. -/
structure FileTree where
  entries : List (List String × FileEntry) := []
  home : List String := []
  deriving DecidableEq, Repr

namespace FileTree

/-- The longest name of a file, in bytes. -/
def maxName : Nat :=
  255

/-- The longest path, in bytes. -/
def maxPath : Nat :=
  4095

/-- What lies at a place. The root and the way to the working directory
are always directories. -/
def entry? (t : FileTree) (place : List String) : Option FileEntry :=
  if place.isPrefixOf t.home then some .directory else t.entries.lookup place

/-- The place that the names lead to from a place. -/
def follow (t : FileTree) : List String → List String → Except FileFault (List String)
  | place, [] => .ok place
  | place, name :: names =>
    match t.entry? place with
    | some .directory =>
      if name = "" ∨ name = "." then follow t place names
      else if name = ".." then follow t place.dropLast names
      else if name.utf8ByteSize > maxName then .error .nameTooLong
      else if (t.entry? (place ++ [name])).isSome then follow t (place ++ [name]) names
      else .error .notFound
    | some (.file _) => .error .notDirectory
    | none => .error .notFound

/-- The place that a path leads to. -/
def locate (t : FileTree) (path : String) : Except FileFault (List String) :=
  if path.toList.contains '\x00' then .error .nullInName
  else if path = "" then .error .notFound
  else if path.utf8ByteSize > maxPath then .error .nameTooLong
  else t.follow (if Path.isAbsolute path then [] else t.home) (Path.parts path)

/-- The bytes of the file that a path leads to. -/
def read (t : FileTree) (path : String) : Except FileFault (List UInt8) :=
  match t.locate path with
  | .error e => .error e
  | .ok place =>
    match t.entry? place with
    | some (.file content) => .ok content
    | some .directory => .error .isDirectory
    | none => .error .notFound

/-- The tree as files to read. -/
def files (t : FileTree) : Files :=
  ⟨fun path => (t.locate path).isOk, t.read⟩

/-- The place of a path relative to the working directory, its names
taken as they are. -/
def placeOf (t : FileTree) (path : String) : List String :=
  t.home ++ Path.components path

/-- The directories above a place that are not there yet. -/
def missingAbove (t : FileTree) (place : List String) : List (List String) :=
  ((List.range place.length).map place.take).filter fun p => (t.entry? p).isNone

/-- Puts an entry at a place, with the directories above it. -/
def insertAt (t : FileTree) (place : List String) (e : FileEntry) : FileTree :=
  let above := (t.missingAbove place).map fun p => (p, FileEntry.directory)
  { t with entries := (place, e) :: above ++ t.entries.filter (·.1 != place) }

/-- Puts an entry at a path, with the directories that lead there. -/
def insert (t : FileTree) (path : String) (e : FileEntry) : FileTree :=
  t.insertAt (t.placeOf path) e

/-- Removes the file at a path; the second part says whether there was
one. -/
def remove (t : FileTree) (path : String) : FileTree × Bool :=
  match t.locate path with
  | .error _ => (t, false)
  | .ok place =>
    match t.entry? place with
    | some (.file _) => ({ t with entries := t.entries.filter (·.1 != place) }, true)
    | _ => (t, false)

end FileTree

namespace TableFolder

/-! ## Table folders

A directory as a source of tables: the table `users` is the file
`users.csv` in it. -/

/-- The path of the file that holds a table. -/
def tablePath (base name : String) : String :=
  Path.join base (name ++ ".csv")

/-- The directory as a source. Only a missing file is a missing source;
any other trouble makes the source malformed. -/
def source (files : Files) (base : String) : TableSource := fun name =>
  let path := tablePath base name
  match files.read path with
  | .error .notFound => .error (.sourceNotFound path)
  | .error fault => .error (.malformedSource path (.file fault))
  | .ok bytes => (Csv.table name bytes).mapError (.malformedSource path)

end TableFolder

end TableQuery
