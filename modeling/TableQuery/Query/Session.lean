import TableQuery.Failure
import TableQuery.Query.Grammar
import TableQuery.Table
import TableQuery.Text.Character

/-!
# Answers and sessions

Clauses are executed on the tables of a source, one list of clauses at a
time or in a session.
-/

namespace TableQuery

/-! ## Row limits

The count of a `LIMIT` is a signed decimal number that is not negative
and below 2 ^ 63. -/

/-- The largest count that a `LIMIT` accepts. -/
def maxRowLimit : Nat :=
  Nat.pow 2 63 - 1

/-- The number of rows that a count stands for. -/
def rowLimit (count : String) : Except QueryError Nat :=
  match Text.intOfDigits? count.toList with
  | some n => if 0 ≤ n ∧ n ≤ maxRowLimit then .ok n.toNat else .error (.invalidLimit count)
  | none => .error (.invalidLimit count)

/-! ## Answers

The clauses are gone through once from left to right: of each kind the
last one counts, but every `FROM` loads its table and every `LIMIT` is
checked when it is reached. Columns and condition are then looked up in
the last table, before any row. The rows are then gone through until the
limit is reached, and of those that match the selected cells are kept. -/

/-- What the clauses ask for, as far as they were gone through. -/
structure Plan where
  selection : Selection := .all
  table : Option Table := none
  condition : Option Condition := none
  limit : Option Nat := none
  deriving DecidableEq, Repr

namespace Plan

/-- Takes one more clause into account. -/
def extend (source : TableSource) (p : Plan) : Clause → Except QueryError Plan
  | .select columns => .ok { p with selection := columns }
  | .source name => (source name).map fun t => { p with table := some t }
  | .filter condition => .ok { p with condition := some condition }
  | .limit count => (rowLimit count).map fun n => { p with limit := some n }

/-- The plan of a list of clauses, gone through from left to right. -/
def ofClauses (source : TableSource) (cs : List Clause) : Except QueryError Plan :=
  cs.foldlM (extend source) {}

end Plan

/-- A condition whose column has been found in a table. -/
structure CellTest where
  column : Nat
  value : String
  deriving DecidableEq, Repr

namespace CellTest

/-- Finds the column of a condition. The operator is checked first. -/
def ofCondition (t : Table) (c : Condition) : Except QueryError CellTest :=
  if c.operator = "=" then
    match t.position? c.column with
    | some i => .ok ⟨i, c.value⟩
    | none => .error (.unknownColumn c.column)
  else .error (.unsupportedOperator c.operator)

/-- Whether the row has the cell and the cell is exactly the value. -/
def holds (test : CellTest) (row : List String) : Bool :=
  row[test.column]? == some test.value

end CellTest

namespace Table

/-- The position of a column, or the error that names it. -/
def position (t : Table) (column : String) : Except QueryError Nat :=
  match t.position? column with
  | some i => .ok i
  | none => .error (.unknownColumn column)

/-- The positions of the selected columns. An empty list asks for the
column without a name and is refused even where the table has one. -/
def positions (t : Table) : Selection → Except QueryError (List Nat)
  | .all => .ok (List.range t.headers.length)
  | .named [] => .error (.unknownColumn "")
  | .named columns => columns.mapM t.position

/-- The condition's test on the table's rows, if there is a condition. -/
def test? (t : Table) : Option Condition → Except QueryError (Option CellTest)
  | none => .ok none
  | some c => (CellTest.ofCondition t c).map some

end Table

/-- The cells of a row at the given positions; a missing cell is empty. -/
def project (positions : List Nat) (row : List String) : List String :=
  positions.map fun i => row[i]?.getD ""

/-- The selected cells of the rows that an answer takes, after `taken` of
them. The rows are gone through in order: the limit ends it, a row that
fails the test is passed over, and any other row is taken. -/
def takeRows (limit : Option Nat) (test : Option CellTest) (positions : List Nat) (taken : Nat) :
    List (List String) → List (List String)
  | [] => []
  | row :: rows =>
    if limit.any (· ≤ taken) then []
    else if test.any (!·.holds row) then takeRows limit test positions taken rows
    else project positions row :: takeRows limit test positions (taken + 1) rows

/-- The answer that a plan describes. -/
def Plan.answer (p : Plan) : Except QueryError ResultSet :=
  match p.table with
  | none => .error .missingFrom
  | some t => do
    let positions ← t.positions p.selection
    let test ← t.test? p.condition
    pure ⟨project positions t.headers, takeRows p.limit test positions 0 t.rows⟩

/-- The answer to a list of clauses over a source of tables. -/
def execute (source : TableSource) (cs : List Clause) : Except QueryError ResultSet := do
  let plan ← Plan.ofClauses source cs
  plan.answer

/-- The answer to a query text. -/
def executeQuery (source : TableSource) (query : String) : Except QueryError ResultSet := do
  let cs ← parseQuery query
  execute source cs

/-! ## Sessions

A session is a list of steps over one catalog. Only adding a table changes
the catalog; every step has a reply. -/

/-- One step of a session. -/
inductive Step
  /-- The table to be added, its headers in any case. -/
  | add (table : Table)
  | contains (name : String)
  | load (name : String)
  | answer (query : String)
  | execute (clauses : List Clause)
  deriving DecidableEq, Repr

/-- What a step gives back. -/
inductive Reply
  | presence (isThere : Bool)
  | table (outcome : Except QueryError Table)
  | result (outcome : Except QueryError ResultSet)

namespace Catalog

/-- The catalog after a step. A table is kept with its headers upper-cased. -/
def after (c : Catalog) : Step → Catalog
  | .add t => c.add (.make t.name t.headers t.rows)
  | _ => c

/-- The reply to a step. Adding a table is replied to with its presence
afterwards. -/
def reply (c : Catalog) : Step → Reply
  | .add t => .presence ((c.after (.add t)).contains t.name)
  | .contains name => .presence (c.contains name)
  | .load name => .table (c.load name)
  | .answer query => .result (executeQuery c.load query)
  | .execute clauses => .result (TableQuery.execute c.load clauses)

/-- The replies to the steps of a session. -/
def replies (c : Catalog) : List Step → List Reply
  | [] => []
  | s :: steps => c.reply s :: (c.after s).replies steps

end Catalog

end TableQuery
