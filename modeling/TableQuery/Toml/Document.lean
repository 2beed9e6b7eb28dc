import TableQuery.Toml.Lexeme
import TableQuery.Toml.Scalar

/-!
# TOML — documents

A document is a list of lines: blank ones, comments, headers and keys
with values. Lists may go over several lines and end in a comma, tables
in braces may not.

Tables remember how they came about, because that decides what may still
be added to them: a table written in braces is closed, one with a header
is not written twice, one that only a dotted key implies grows by dotted
keys, and one on the way to a header may still get a header of its own.
-/

namespace TableQuery

namespace Toml

/-! ## Values and tables -/

/-- How a table came about. -/
inductive Origin
  /-- Written in braces. -/
  | braces
  /-- Opened by a header. -/
  | header
  /-- On the way to a header. -/
  | headerPath
  /-- On the way to a key. -/
  | keyPath
  deriving DecidableEq, Repr

/-- Whether a table exists only as part of a path. -/
def Origin.isImplied : Origin → Bool
  | headerPath => true
  | keyPath => true
  | _ => false

/-- A value. Numbers and truth values are not told apart, and neither are
dates and times. -/
inductive Value
  | text (s : String)
  | plain
  | moment
  | list (items : List Value)
  | table (origin : Origin) (entries : List (String × Value))
  /-- Tables opened by headers in double brackets. -/
  | tables (elements : List (List (String × Value)))
  deriving Repr

/-- The entries of a table in the order written. -/
abbrev Entries :=
  List (String × Value)

namespace Entries

/-- Puts a value in the place of the one a key has. -/
def replace (key : String) (v : Value) (es : Entries) : Entries :=
  es.map fun e => if e.1 = key then (key, v) else e

/-- Changes the entries at the end of a path; missing tables on the way
come about as `origin` says. The change learns whether its table is
implied by dotted keys. None if the path runs into something that is no
open table or the change fails. -/
def alter (origin : Origin) (change : Bool → Entries → Option Entries) :
    List String → Origin → Entries → Option Entries
  | [], here, es => change (here == .keyPath) es
  | key :: path, _, es =>
    match es.lookup key with
    | none => do
      let child ← alter origin change path origin []
      some (es ++ [(key, .table origin child)])
    | some (.table .braces _) => none
    | some (.table o child) =>
      if origin = .keyPath ∧ !o.isImplied then none
      else do
        let child ← alter origin change path o child
        some (replace key (.table o child) es)
    | some (.tables elements) => do
      let last ← elements.getLast?
      let last ← alter origin change path .header last
      some (replace key (.tables (elements.dropLast ++ [last])) es)
    | some _ => none

/-- Adds a value under a dotted key, whose last part must be new. -/
def addKey (path : List String) (key : String) (v : Value) : Origin → Entries → Option Entries :=
  alter .keyPath
    (fun dotted es =>
      if dotted = path.isEmpty then none
      else if (es.lookup key).isSome then none
      else some (es ++ [(key, v)]))
    path

/-- Opens the table of a header. -/
def openTable (path : List String) (key : String) (es : Entries) : Option Entries :=
  alter .headerPath
    (fun _ es =>
      match es.lookup key with
      | none => some (es ++ [(key, .table .header [])])
      | some (.table .headerPath child) => some (replace key (.table .header child) es)
      | some _ => none)
    path .header es

/-- Opens one more table of a header in double brackets. -/
def openElement (path : List String) (key : String) (es : Entries) : Option Entries :=
  alter .headerPath
    (fun _ es =>
      match es.lookup key with
      | none => some (es ++ [(key, .tables [[]])])
      | some (.tables elements) => some (replace key (.tables (elements ++ [[]])) es)
      | some _ => none)
    path .header es

/-- Adds a value under a dotted key to the table that a header opened. -/
def addUnder (table path : List String) (key : String) (v : Value) (es : Entries) :
    Option Entries :=
  alter .headerPath (fun _ es => addKey path key v .header es) table .header es

end Entries

/-! ## Reading values -/

/-- A reader of values that takes a character at least. Readers of lists and
tables go on behind the values of another reader, and end by what it takes. -/
structure Reader where
  read : List Char → Option (Value × List Char)
  read_length {cs rest : List Char} {v : Value} :
    read cs = some (v, rest) → rest.length < cs.length

variable {r : Reader} {cs rest : List Char} {v : Value}

attribute [grind →] Reader.read_length

/-- A value with no others in it. -/
def readScalar (cs : List Char) : Option (Value × List Char) :=
  match cs with
  | '"' :: _ => (readString cs).map fun (s, cs) => (.text (String.ofList s), cs)
  | '\'' :: _ => (readString cs).map fun (s, cs) => (.text (String.ofList s), cs)
  | cs =>
    match skipMoment cs with
    | some cs => some (.moment, cs)
    | none => (skipPlain cs).map fun cs => (.plain, cs)

@[grind →] theorem readScalar_length (h : readScalar cs = some (v, rest)) :
    rest.length < cs.length := by
  unfold readScalar at h
  split at h
  · obtain ⟨⟨s, l⟩, hs, h⟩ := Option.map_eq_some_iff.mp h
    grind
  · obtain ⟨⟨s, l⟩, hs, h⟩ := Option.map_eq_some_iff.mp h
    grind
  · split at h
    · grind
    · obtain ⟨l, hl, h⟩ := Option.map_eq_some_iff.mp h
      grind

/-- The remaining items of a list, with the bracket behind them. -/
def readItems (r : Reader) (cs : List Char) : Option (List Value × List Char) :=
  match cs with
  | ']' :: cs => some ([], cs)
  | cs =>
    match _h : r.read cs with
    | none => none
    | some (v, l) =>
      match _hl : skipLines false l with
      | ',' :: l => (readItems r (skipLines false l)).map fun (vs, l) => (v :: vs, l)
      | ']' :: l => some ([v], l)
      | _ => none
termination_by cs.length
decreasing_by grind

@[grind →] theorem readItems_length {vs : List Value} (h : readItems r cs = some (vs, rest)) :
    rest.length < cs.length := by
  fun_induction readItems r cs generalizing vs
  case case3 ih =>
    obtain ⟨⟨vs, l⟩, hvs, h⟩ := Option.map_eq_some_iff.mp h
    grind
  all_goals grind

/-- A key and its value, with an equals sign between them. -/
def readPair (r : Reader) (cs : List Char) :
    Option ((List String × String) × Value × List Char) := do
  let (key, cs) ← readKey cs
  match cs with
  | '=' :: cs =>
    let (v, cs) ← r.read (skipSpaces cs)
    some (key, v, cs)
  | _ => none

@[grind →] theorem readPair_length {key : List String × String}
    (h : readPair r cs = some (key, v, rest)) : rest.length < cs.length := by
  obtain ⟨⟨key, l⟩, hkey, h⟩ := Option.bind_eq_some_iff.mp h
  dsimp only at h
  split at h
  · obtain ⟨⟨v, l'⟩, hv, h⟩ := Option.bind_eq_some_iff.mp h
    grind
  · cases h

/-- The remaining keys of a table in braces, with the brace behind them.
A comma must be followed by a key. -/
def readPairs (r : Reader) (entries : Entries) (cs : List Char) : Option (Entries × List Char) :=
  match _h : readPair r cs with
  | none => none
  | some ((path, key), v, l) =>
    match Entries.addKey path key v .header entries, _hl : skipSpaces l with
    | some entries, ',' :: l => readPairs r entries (skipSpaces l)
    | some entries, '\x7d' :: l => some (entries, l)
    | _, _ => none
termination_by cs.length
decreasing_by grind

@[grind →] theorem readPairs_length {entries es : Entries}
    (h : readPairs r entries cs = some (es, rest)) : rest.length < cs.length := by
  fun_induction readPairs r entries cs <;> grind

/-- A value, if `r` reads the values in it. -/
def readNested (r : Reader) (cs : List Char) : Option (Value × List Char) :=
  match cs with
  | '[' :: cs => (readItems r (skipLines false cs)).map fun (vs, cs) => (.list vs, cs)
  | '\x7b' :: cs =>
    match skipSpaces cs with
    | '\x7d' :: cs => some (.table .braces [], cs)
    | cs => (readPairs r [] cs).map fun (es, cs) => (.table .braces es, cs)
  | cs => readScalar cs

theorem readNested_length (h : readNested r cs = some (v, rest)) : rest.length < cs.length := by
  unfold readNested at h
  split at h
  · obtain ⟨⟨vs, l⟩, hvs, h⟩ := Option.map_eq_some_iff.mp h
    grind
  · split at h
    · grind
    · obtain ⟨⟨es, l⟩, hes, h⟩ := Option.map_eq_some_iff.mp h
      grind
  · grind

/-- Values with lists and tables in braces that lie in each other no
deeper than `depth`. -/
def reader : (depth : Nat) → Reader
  | 0 => ⟨readScalar, readScalar_length⟩
  | d + 1 => ⟨readNested (reader d), readNested_length⟩

/-! ## Lines -/

/-- A header in brackets, behind the opening ones. -/
def readHeader (closing : List Char) (cs : List Char) :
    Option ((List String × String) × List Char) := do
  let (key, cs) ← readKey cs
  if closing.isPrefixOf cs then do
    let cs ← readLineEnd (cs.drop closing.length)
    some (key, cs)
  else none

@[grind →] theorem readHeader_length {closing : List Char} {key : List String × String}
    (h : readHeader closing cs = some (key, rest)) : rest.length < cs.length := by
  obtain ⟨⟨key, l⟩, hkey, h⟩ := Option.bind_eq_some_iff.mp h
  dsimp only at h
  split at h
  · obtain ⟨l', hl', h⟩ := Option.bind_eq_some_iff.mp h
    grind
  · cases h

/-- A key with its value and the end of the line. -/
def readKeyLine (cs : List Char) : Option ((List String × String) × Value × List Char) := do
  let (key, v, cs) ← readPair (reader (maxDepth - 1)) cs
  let cs ← readLineEnd cs
  some (key, v, cs)

@[grind →] theorem readKeyLine_length {key : List String × String}
    (h : readKeyLine cs = some (key, v, rest)) : rest.length < cs.length := by
  obtain ⟨⟨key, v, l⟩, hpair, h⟩ := Option.bind_eq_some_iff.mp h
  obtain ⟨l', hl', h⟩ := Option.bind_eq_some_iff.mp h
  grind

/-- What the line at the start of a text makes of the path `table` of the
last header and of the entries so far. -/
def readLine (table : List String) (entries : Entries) (cs : List Char) :
    Option ((List String × Entries) × List Char) :=
  match cs with
  | '#' :: cs => (readLineEnd ('#' :: cs)).map fun cs => ((table, entries), cs)
  | '[' :: '[' :: cs => do
    let ((path, key), cs) ← readHeader [']', ']'] cs
    let entries ← entries.openElement path key
    some ((path ++ [key], entries), cs)
  | '[' :: cs => do
    let ((path, key), cs) ← readHeader [']'] cs
    let entries ← entries.openTable path key
    some ((path ++ [key], entries), cs)
  | cs =>
    match readBreak cs with
    | some cs => some ((table, entries), cs)
    | none => do
      let ((path, key), v, cs) ← readKeyLine cs
      let entries ← entries.addUnder table path key v
      some ((table, entries), cs)

theorem readLine_length {table : List String} {entries : Entries} {state : List String × Entries}
    (h : readLine table entries cs = some (state, rest)) : rest.length < cs.length := by
  unfold readLine at h
  split at h
  · -- the end of a line may take nothing, but here the mark of the comment goes with it
    obtain ⟨l, hl, h⟩ := Option.map_eq_some_iff.mp h
    have := readLineEnd_length_lt hl (List.cons_ne_nil _ _)
    grind
  · obtain ⟨⟨⟨path, key⟩, l⟩, hheader, h⟩ := Option.bind_eq_some_iff.mp h
    obtain ⟨es, -, h⟩ := Option.bind_eq_some_iff.mp h
    grind
  · obtain ⟨⟨⟨path, key⟩, l⟩, hheader, h⟩ := Option.bind_eq_some_iff.mp h
    obtain ⟨es, -, h⟩ := Option.bind_eq_some_iff.mp h
    grind
  · split at h
    · grind
    · obtain ⟨⟨⟨path, key⟩, v, l⟩, hline, h⟩ := Option.bind_eq_some_iff.mp h
      obtain ⟨es, -, h⟩ := Option.bind_eq_some_iff.mp h
      grind

/-- The document that the remaining lines make of the entries so far.
`table` is the path of the last header. -/
def readLines (table : List String) (entries : Entries) (cs : List Char) : Option Entries :=
  match _h : skipSpaces cs with
  | [] => some entries
  | c :: l =>
    match _hl : readLine table entries (c :: l) with
    | none => none
    | some ((table, entries), l) => readLines table entries l
termination_by cs.length
decreasing_by
  have := readLine_length _hl
  grind

/-- The entries of a document; none if it is no document. A byte-order
mark in front is no part of it. -/
def read (text : String) : Option Entries :=
  match text.toList with
  | '\uFEFF' :: cs => readLines [] [] cs
  | cs => readLines [] [] cs

end Toml

end TableQuery
