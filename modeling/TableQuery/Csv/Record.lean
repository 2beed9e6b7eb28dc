import TableQuery.Failure
import TableQuery.Text.Utf8

/-!
# Records

Files as lists of records, read from bytes and written as bytes.
-/

namespace TableQuery

namespace Csv

/-! ## Reading

A file is read byte by byte. Commas part the fields of a record and line
breaks, of either character, end it; blank lines are skipped. A quote at
the start of a field opens a quoted part, in which only a quote means
anything: two of them stand for one, and a single one ends the part. A
quote elsewhere is an ordinary byte, and the end of the file ends every
record.

Each record carries the place where its reading began, which lies right
behind the break that ended the record before it. -/

/-- The bytes with a meaning. -/
def comma : UInt8 := 0x2C

@[inherit_doc comma] def quote : UInt8 := 0x22

@[inherit_doc comma] def lineFeed : UInt8 := 0x0A

@[inherit_doc comma] def carriageReturn : UInt8 := 0x0D

/-- Whether a byte ends a record. -/
def isBreak (b : UInt8) : Bool :=
  b == lineFeed || b == carriageReturn

/-- A record as raw fields. -/
structure Record where
  start : Position
  fields : List (List UInt8)
  deriving DecidableEq, Repr

/-- Where in a record the reading stands. -/
inductive Mode
  /-- Before the first byte of a record. -/
  | between
  /-- Before the first byte of a further field. -/
  | fieldStart
  /-- In the unquoted part of a field. -/
  | plain
  /-- In the quoted part of a field. -/
  | quoted
  /-- Behind a quote in the quoted part of a field. -/
  | quoteSeen
  deriving DecidableEq, Repr

/-- The state of the reading. Bytes and fields are kept last one first. -/
structure Reader where
  mode : Mode
  start : Position
  line : Nat
  byte : Nat
  field : List UInt8
  fields : List (List UInt8)
  deriving DecidableEq, Repr

namespace Reader

/-- The reading at the start of a file, behind `skipped` bytes that belong
to no record. -/
def initial (skipped : Nat) : Reader :=
  ⟨.between, ⟨0, 1, 0⟩, 1, skipped, [], []⟩

/-- Counts a byte. -/
def count (r : Reader) (b : UInt8) : Reader :=
  { r with byte := r.byte + 1, line := if b = lineFeed then r.line + 1 else r.line }

/-- Takes a byte into the current field. -/
def push (r : Reader) (mode : Mode) (b : UInt8) : Reader :=
  { r with mode := mode, field := b :: r.field }

/-- Ends the current field and begins another. -/
def endField (r : Reader) : Reader :=
  { r with mode := .fieldStart, field := [], fields := r.field.reverse :: r.fields }

/-- The record that ends here. -/
def record (r : Reader) : Record :=
  ⟨r.start, (r.field.reverse :: r.fields).reverse⟩

/-- The reading behind the record that ends here. -/
def next (r : Reader) : Reader :=
  ⟨.between, ⟨r.start.record + 1, r.line, r.byte⟩, r.line, r.byte, [], []⟩

/-- What an uncounted byte does to the current field: the field goes on, a
new one begins, or the record ends. -/
def take (r : Reader) (b : UInt8) : Reader × Option Record :=
  match r.mode with
  | .quoted =>
    (if b = quote then { r with mode := .quoteSeen } else r.push .quoted b, none)
  | mode =>
    if mode = .between ∧ isBreak b then (r, none)
    else if b = quote ∧ (mode = .between ∨ mode = .fieldStart) then
      ({ r with mode := .quoted }, none)
    else if b = quote ∧ mode = .quoteSeen then (r.push .quoted b, none)
    else if b = comma then (r.endField, none)
    else if isBreak b then (r.next, some r.record)
    else (r.push .plain b, none)

/-- Reads one byte. -/
def step (r : Reader) (b : UInt8) : Reader × Option Record :=
  (r.count b).take b

/-- The record that the end of the file ends, if one has begun. -/
def last? (r : Reader) : Option Record :=
  if r.mode = .between then none else some r.record

/-- The records of the remaining bytes. -/
def run (r : Reader) : List UInt8 → List Record
  | [] => r.last?.toList
  | b :: bs =>
    match r.step b with
    | (r, none) => run r bs
    | (r, some record) => record :: run r bs

end Reader

/-- The records of a file. A byte-order mark in front is no part of it. -/
def records (file : List UInt8) : List Record :=
  match file with
  | 0xEF :: 0xBB :: 0xBF :: rest => (Reader.initial 3).run rest
  | bs => (Reader.initial 0).run bs

/-! ## Writing

A field is quoted only if it holds a comma, a quote or a line break, and
a quote inside is doubled. A record that would be an empty line is
written as a pair of quotes, so that it is not read as a blank line.

The bytes come in pieces that stay together in one block when they are
written through a buffer of fixed size. -/

/-- Bytes that are written together. -/
abbrev Piece :=
  List UInt8

/-- Whether a field has to be quoted. -/
def needsQuotes (field : String) : Bool :=
  field.toList.any fun c => c == ',' || c == '"' || c == '\r' || c == '\n'

/-- The pieces of one character. -/
def charPieces (c : Char) : List Piece :=
  if c = '"' then [[quote, quote]] else (String.utf8EncodeChar c).map ([·])

/-- A field up to its last character. -/
def fieldBody (field : String) : List Piece :=
  (if needsQuotes field then [[quote]] else []) ++ field.toList.flatMap charPieces

/-- What ends a field. -/
def fieldEnd (field : String) : List Piece :=
  if needsQuotes field then [[quote]] else []

/-- A record up to the last character of its last field. -/
def recordBody : List String → List Piece
  | [] => []
  | [field] => fieldBody field
  | field :: rest => fieldBody field ++ fieldEnd field ++ [comma] :: recordBody rest

/-- What ends the last field of a record. -/
def recordEnd (fields : List String) : List Piece :=
  (fields.getLast?.map fieldEnd).getD []

/-- A record with its line break. -/
def recordPieces (fields : List String) : List Piece :=
  (match recordBody fields with
    | [] => [[quote, quote]]
    | body => body ++ recordEnd fields) ++ [[lineFeed]]

/-- The bytes of a list of records. -/
def written (lines : List (List String)) : List UInt8 :=
  (lines.flatMap recordPieces).flatten

/-- Fills blocks with pieces, each as far as the pieces fit. `block` holds
the bytes of the unfinished block, last one first, and `size` their
number. -/
def fillBlocks (capacity : Nat) (block : List UInt8) (size : Nat) : List Piece → List (List UInt8)
  | [] => [block.reverse]
  | p :: ps =>
    if size + p.length ≤ capacity then
      fillBlocks capacity (p.reverse ++ block) (size + p.length) ps
    else block.reverse :: fillBlocks capacity p.reverse p.length ps

/-- No byte is lost, added or moved by the blocks. -/
theorem flatten_fillBlocks (capacity : Nat) (block : List UInt8) (size : Nat) (ps : List Piece) :
    (fillBlocks capacity block size ps).flatten = block.reverse ++ ps.flatten := by
  induction ps generalizing block size with
  | nil => simp [fillBlocks]
  | cons p ps ih =>
    simp only [fillBlocks]
    split <;> simp [ih]

end Csv

end TableQuery
