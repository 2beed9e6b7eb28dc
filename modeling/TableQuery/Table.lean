import TableQuery.Csv.Record
import TableQuery.Failure
import TableQuery.Text.Uppercase
import TableQuery.Text.Utf8

/-!
# Tables

What a query reads and gives: tables with their sources, and results. A
table is made of columns and rows, in memory or by a file of records.
-/

namespace TableQuery

/-! ## Tables and results

A table has upper-cased headers and rows of cells as they were read; a
row may be shorter or longer than the headers. -/

/-- A named table. -/
structure Table where
  name : String
  headers : List String
  rows : List (List String)
  deriving DecidableEq, Repr

namespace Table

/-- A table with its headers upper-cased. -/
def make (name : String) (headers : List String) (rows : List (List String)) : Table :=
  ⟨name, headers.map Text.upper, rows⟩

/-- The first position with exactly the given header. -/
def position? (t : Table) (column : String) : Option Nat :=
  t.headers.findIdx? (· == column)

end Table

/-- The answer to a query. -/
structure ResultSet where
  columns : List String
  rows : List (List String)
  deriving DecidableEq, Repr

/-- The header line followed by the rows. -/
def ResultSet.lines (r : ResultSet) : List (List String) :=
  r.columns :: r.rows

/-! ## Sources

A source hands out tables by name. A catalog is a source that keeps its
tables in memory. -/

/-- What a name stands for: a table, or the reason why there is none. -/
abbrev TableSource :=
  String → Except QueryError Table

/-- Tables kept in memory, the one added last in front. -/
structure Catalog where
  tables : List Table := []
  deriving DecidableEq, Repr

namespace Catalog

/-- Adds a table; it hides an earlier one of the same name. -/
def add (c : Catalog) (t : Table) : Catalog :=
  ⟨t :: c.tables⟩

/-- The table last added under a name. -/
def find? (c : Catalog) (name : String) : Option Table :=
  c.tables.find? (·.name == name)

/-- Whether a table of that name was added. -/
def contains (c : Catalog) (name : String) : Bool :=
  (c.find? name).isSome

/-- The catalog as a source. A table without headers cannot be used. -/
def load (c : Catalog) : TableSource := fun name =>
  match c.find? name with
  | none => .error (.sourceNotFound name)
  | some t => if t.headers = [] then .error (.malformedSource name .noHeader) else .ok t

end Catalog

namespace Csv

/-! ## Tables from records

The first record of a file is its header, and all others are rows of the
same width. One record of another width, or one field that is no text,
refuses the whole file. -/

namespace Record

/-- The fields as texts. -/
def texts (r : Record) : Except Fault (List String) :=
  r.fields.zipIdx.mapM fun (field, i) =>
    match Text.ofBytes? field with
    | some s => .ok s
    | none => .error (.notText r.start i (Text.readableLength field))

/-- The fields as texts, if there are as many as expected. -/
def row (width : Nat) (r : Record) : Except Fault (List String) :=
  if r.fields.length = width then r.texts
  else .error (.width r.start r.fields.length width)

end Record

/-- The table that the records hold. -/
def tableOfRecords (name : String) : List Record → Except SourceFault Table
  | [] => .error .noHeader
  | header :: rows => Except.mapError SourceFault.records do
    let headers ← header.texts
    let rows ← rows.mapM (Record.row header.fields.length)
    pure (Table.make name headers rows)

/-- The table that a file holds. -/
def table (name : String) (file : List UInt8) : Except SourceFault Table :=
  tableOfRecords name (records file)

end Csv

end TableQuery
