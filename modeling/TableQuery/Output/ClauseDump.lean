import TableQuery.Output.Json
import TableQuery.Output.Result
import TableQuery.Query.Syntax
import TableQuery.Text.Quoted
import TableQuery.Text.Utf8

/-!
# Clause dump

The clauses of a query, written out before it is executed: a title and
one line for each clause, or one JSON list.
-/

namespace TableQuery

namespace Output

/-! ## Clauses as lines

A clause as one line of text: its kind, its fields by name, and every
text in quotes, so that a line break in a text does not break the line. -/

/-- A record with named fields. -/
def recordText (name : String) (fields : List (String × String)) : String :=
  name ++ " \x7b " ++ ", ".intercalate (fields.map fun f => f.1 ++ ": " ++ f.2) ++ " \x7d"

/-- A list of quoted texts. -/
def listText (items : List String) : String :=
  "[" ++ ", ".intercalate (items.map Text.quoted) ++ "]"

/-- A selection in clause notation. -/
def selectionText : Selection → String
  | .all => "All"
  | .named columns => "Named(" ++ listText columns ++ ")"

/-- A clause in clause notation. -/
def clauseText : Clause → String
  | .select columns =>
    "Select(" ++ recordText "SelectClause" [("columns", selectionText columns)] ++ ")"
  | .source table =>
    "From(" ++ recordText "FromClause" [("table_name", Text.quoted table)] ++ ")"
  | .filter condition =>
    "Where(" ++ recordText "WhereClause"
      [("left_column", Text.quoted condition.column),
        ("operator", Text.quoted condition.operator),
        ("right_literal", Text.quoted condition.value)] ++ ")"
  | .limit count =>
    "Limit(" ++ recordText "LimitClause" [("count", Text.quoted count)] ++ ")"

end Output

/-! ## Dumps -/

/-- How clauses are dumped. -/
inductive DumpFormat
  | text
  | json
  deriving DecidableEq, Repr

/-- The format with exactly the given name. -/
def DumpFormat.named? : String → Option DumpFormat
  | "text" => some text
  | "json" => some json
  | _ => none

namespace Output

/-- A selection as a JSON value. All columns are a text, named ones a
list, so a column named `*` is not mistaken for all. -/
def selectionJson : Selection → Json
  | .all => .text "*"
  | .named columns => .list (columns.map .text)

/-- The fields of a clause. -/
def clauseFields : Clause → List (String × Json)
  | .select columns => [("columns", selectionJson columns)]
  | .source table => [("table_name", .text table)]
  | .filter condition =>
    [("left_column", .text condition.column), ("operator", .text condition.operator),
      ("right_literal", .text condition.value)]
  | .limit count => [("count", .text count)]

/-- A clause as a JSON value, its kind first. -/
def clauseJson (c : Clause) : Json :=
  .record (("type", .text c.keyword.text) :: clauseFields c)

/-- The line in front of a text dump. -/
def dumpTitle : String :=
  "Abstract Syntax Tree:\n"

/-- A clause on a line of its own. -/
def clauseLine (c : Clause) : String :=
  clauseText c ++ "\n"

/-- The text dump of a list of clauses. -/
def textDump (cs : List Clause) : String :=
  dumpTitle ++ String.join (cs.map clauseLine)

/-- The JSON dump of a list of clauses, without the line break at its
end. -/
def jsonDump (cs : List Clause) : String :=
  String.ofList (Json.pretty 0 (.list (cs.map clauseJson)))

/-- The dump of a list of clauses in the given format. The text goes out
line by line, JSON character by character as it is produced. -/
def dumpScript (format : DumpFormat) (cs : List Clause) : Script where
  writes :=
    match format with
    | .text => .ofText dumpTitle :: cs.map fun c => .ofText (clauseLine c)
    | .json => (jsonDump cs).toList.map .ofJson ++ [.ofText "\n"]

/-! ## Reading a dump back

A JSON dump is read as a JSON value and this as a list of clauses. A
selection that is a text means all columns, one that is a list names
them. -/

/-- The text that a value is. -/
def text? : Json → Option String
  | .text s => some s
  | _ => none

/-- The text under a name. -/
def textField? (fields : List (String × Json)) (name : String) : Option String :=
  (fields.lookup name).bind text?

/-- The selection that a value stands for. -/
def selection? : Json → Option Selection
  | .text "*" => some .all
  | .list items => (items.mapM text?).map .named
  | _ => none

/-- The clause of a kind that the fields describe. -/
def clauseOfFields? (fields : List (String × Json)) : Keyword → Option Clause
  | .select => ((fields.lookup "columns").bind selection?).map .select
  | .source => (textField? fields "table_name").map .source
  | .filter => do
    let column ← textField? fields "left_column"
    let operator ← textField? fields "operator"
    let value ← textField? fields "right_literal"
    some (.filter ⟨column, operator, value⟩)
  | .limit => (textField? fields "count").map .limit

/-- The clause that a value stands for. -/
def clauseOfJson? : Json → Option Clause
  | .record fields => do
    let kind ← textField? fields "type"
    let keyword ← Keyword.ofText? kind
    clauseOfFields? fields keyword
  | _ => none

/-- The clauses that a value stands for. -/
def clausesOfJson? : Json → Option (List Clause)
  | .list items => items.mapM clauseOfJson?
  | _ => none

/-- The clauses that a JSON dump holds. -/
def readDump (dump : List Char) : Option (List Clause) :=
  (Json.read dump).bind clausesOfJson?

/-- The clauses that the bytes of a JSON dump hold. -/
def clausesOfBytes? (bs : List UInt8) : Option (List Clause) :=
  (Text.ofBytes? bs).bind fun dump => readDump dump.toList

/-- No field of a clause is lost in its JSON value. -/
theorem clauseOfJson?_clauseJson (c : Clause) : clauseOfJson? (clauseJson c) = some c := by
  have texts (l : List String) : (l.map Json.text).mapM text? = some l := by
    induction l with
    | nil => rfl
    | cons s l ih => simp [ih, text?]
  match c with
  | .select .all => rfl
  | .select (.named columns) =>
    simp [clauseOfJson?, clauseJson, clauseFields, clauseOfFields?, selectionJson, selection?,
      textField?, text?, Clause.keyword, Keyword.ofText?_text, texts, List.lookup_cons]
  | .source table => rfl
  | .filter condition => rfl
  | .limit count => rfl

end Output

end TableQuery
