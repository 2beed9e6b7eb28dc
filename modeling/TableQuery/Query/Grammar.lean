import TableQuery.Failure
import TableQuery.Query.Syntax
import TableQuery.Text.Uppercase

/-!
# Clauses — reading, grammar and print

Clauses are read off the tokens of a query one by one. Which tokens spell
which clauses is also said by segments, without the reading, and one way to
write clauses is to print them.
-/

namespace TableQuery

/-! ## Reading

Reading goes once from left to right. A keyword opens a clause and the
clause takes the tokens that belong to it: a `SELECT` all up to the next
`FROM`, a `FROM` all up to the next keyword, a `WHERE` the next three
whatever they are, and a `LIMIT` the next one.

A keyword that opens a clause may have any letter whose capital is the
right one; a keyword that ends a list is compared in ASCII case only. -/

/-- Whether a token ends the table name of a `FROM`. -/
def Token.isKeyword (t : Token) : Bool :=
  Keyword.all.any fun k => t.isWord k.text

/-- The text of a value without the single quotes around it. -/
def unquoted (s : String) : String :=
  let rest := s.toList.dropWhile (· == '\'')
  String.ofList (rest.reverse.dropWhile (· == '\'')).reverse

namespace Clause

/-- The column names among the tokens of a `SELECT`. -/
def columnNames (ts : List Token) : List String :=
  (ts.filter (· != .comma)).map fun t => Text.upper t.text

/-- The table name that the tokens of a `FROM` spell. -/
def tableName (ts : List Token) : String :=
  " ".intercalate (ts.map Token.text)

/-- The keyword that a token at the start of a clause spells. -/
def opener (t : Token) : Except QueryError Keyword :=
  match t with
  | .word s =>
    match Keyword.ofText? (Text.upper s) with
    | some k => .ok k
    | none => .error (.unexpectedToken (Text.upper s))
  | t => .error (.unexpectedToken (Text.upper t.text))

/-- The clause that a keyword opens, taken from the tokens after it, and
the tokens that remain. -/
def readBody (k : Keyword) (ts : List Token) : Except QueryError (Clause × List Token) :=
  match k with
  | .select =>
    let inList := fun t => !t.isWord Keyword.source.text
    .ok (.select (.ofColumns (columnNames (ts.takeWhile inList))), ts.dropWhile inList)
  | .source =>
    let inName := fun t => !t.isKeyword
    .ok (.source (tableName (ts.takeWhile inName)), ts.dropWhile inName)
  | .filter =>
    match ts with
    | column :: operator :: value :: rest =>
      .ok (.filter ⟨Text.upper column.text, operator.text, unquoted value.text⟩, rest)
    | t :: _ => .error (.incomplete t.text .condition)
    | [] => .error (.incomplete Keyword.filter.text .condition)
  | .limit =>
    match ts with
    | count :: rest => .ok (.limit count.text, rest)
    | [] => .error (.incomplete Keyword.limit.text .count)

/-- The clause that starts at the token `t`, and the tokens that remain. -/
def readOne (t : Token) (ts : List Token) : Except QueryError (Clause × List Token) :=
  match opener t with
  | .error e => .error e
  | .ok k => readBody k ts

theorem readBody_length {k : Keyword} {ts rest : List Token} {c : Clause}
    (h : readBody k ts = .ok (c, rest)) : rest.length ≤ ts.length := by
  unfold readBody at h
  split at h
  · cases h; exact (List.dropWhile_sublist _).length_le
  · cases h; exact (List.dropWhile_sublist _).length_le
  · split at h <;> cases h
    simp; omega
  · split at h <;> cases h
    simp

theorem readOne_length {t : Token} {ts rest : List Token} {c : Clause}
    (h : readOne t ts = .ok (c, rest)) : rest.length ≤ ts.length := by
  unfold readOne at h
  split at h
  · cases h
  · exact readBody_length h

/-- The clauses up to the end of the tokens or to the first error, and
that error. -/
def readAll (ts : List Token) : List Clause × Option QueryError :=
  match ts with
  | [] => ([], none)
  | t :: ts =>
    match _h : readOne t ts with
    | .error e => ([], some e)
    | .ok (c, rest) =>
      let (cs, e?) := readAll rest
      (c :: cs, e?)
termination_by ts.length
decreasing_by
  have := readOne_length _h
  simp only [List.length_cons]
  omega

end Clause

/-- The clauses that the tokens spell. -/
def parse (ts : List Token) : Except QueryError (List Clause) :=
  match Clause.readAll ts with
  | (cs, none) => .ok cs
  | (_, some e) => .error e

/-- The clauses of a query text. -/
def parseQuery (query : String) : Except QueryError (List Clause) :=
  parse (tokenize query)

namespace Clause

/-! ## Segments

A list of clauses is spelt by a list of tokens that can be cut into one
segment for each clause. Where a segment ends depends on its clause: the
lists of a `SELECT` and a `FROM` reach as far as they can, the other two
clauses have a fixed number of tokens. -/

/-- Whether a token can open a clause with the given keyword. -/
def Opens (t : Token) (k : Keyword) : Prop :=
  ∃ s, t = .word s ∧ Text.upper s = k.text

/-- Whether a list of tokens is empty or begins with a token of a kind. -/
def StopsAt (p : Token → Bool) (rest : List Token) : Prop :=
  ∀ t ∈ rest.head?, p t = true

/-- Whether a selection is what a list of names selects. A lone `*` stands
for every column, and nothing else does. -/
def Selects (names : List String) : Selection → Prop
  | .all => names = ["*"]
  | .named columns => columns = names ∧ names ≠ ["*"]

/-- Whether a text is the value of a quoted one: quotes surround it there,
and none is left at either end. -/
def Bares (quoted value : String) : Prop :=
  ∃ front back : List Char, quoted.toList = front ++ value.toList ++ back ∧
    (∀ c ∈ front, c = '\'') ∧ (∀ c ∈ back, c = '\'') ∧
    value.toList.head? ≠ some '\'' ∧ value.toList.getLast? ≠ some '\''

/-- The tokens `seg` spell the clause `c` if the tokens `rest` follow. -/
inductive Segment : List Token → Clause → List Token → Prop
  | select {t : Token} {list rest : List Token} {columns : Selection} :
      Opens t .select → (∀ u ∈ list, u.isWord Keyword.source.text = false) →
      StopsAt (Token.isWord Keyword.source.text) rest → Selects (columnNames list) columns →
      Segment (t :: list) (.select columns) rest
  | source {t : Token} {name rest : List Token} :
      Opens t .source → (∀ u ∈ name, u.isKeyword = false) → StopsAt Token.isKeyword rest →
      Segment (t :: name) (.source (tableName name)) rest
  | filter {t column operator quoted : Token} {rest : List Token} {value : String} :
      Opens t .filter → Bares quoted.text value →
      Segment [t, column, operator, quoted]
        (.filter ⟨Text.upper column.text, operator.text, value⟩) rest
  | limit {t count : Token} {rest : List Token} :
      Opens t .limit → Segment [t, count] (.limit count.text) rest

/-- The tokens spell the clauses if the tokens `rest` follow. -/
inductive Spells (rest : List Token) : List Token → List Clause → Prop
  | nil : Spells rest [] []
  | cons {seg ts : List Token} {c : Clause} {cs : List Clause} :
      Segment seg c (ts ++ rest) → Spells rest ts cs → Spells rest (seg ++ ts) (c :: cs)

end Clause

/-! ## Print

Keywords are printed in capitals, the parts of a clause with one space
between them, and the value of a condition in quotes. Not every list of
clauses can be read back: names have to be plain words, a value must not
hold a quote, and nothing but a `FROM` ends the columns of a `SELECT`. -/

/-- A selection as it is printed. -/
def Selection.printed : Selection → String
  | all => "*"
  | named columns => ", ".intercalate columns

namespace Clause

/-- What a clause has behind its keyword. -/
def printedBody : Clause → String
  | select columns => columns.printed
  | source table => table
  | filter condition =>
    condition.column ++ " " ++ condition.operator ++ " '" ++ condition.value ++ "'"
  | limit count => count

/-- A clause as it is printed. -/
def printed (c : Clause) : String :=
  c.keyword.text ++ " " ++ c.printedBody

/-- The query that a list of clauses is printed as. -/
def printedAll (cs : List Clause) : String :=
  " ".intercalate (cs.map printed)

/-- Whether a text can be read back as a column. -/
def isColumn (s : String) : Bool :=
  Token.isPlain s && Text.upper s == s && s != Keyword.source.text

/-- Whether a text can be read back as a word of a table name. -/
def isNameWord (s : String) : Bool :=
  Token.isPlain s && Keyword.all.all fun k => !Text.sameWord s k.text

/-- Whether a selection can be read back. -/
def Selectable : Selection → Prop
  | .all => True
  | .named columns => columns ≠ ["*"] ∧ ∀ s ∈ columns, isColumn s = true

/-- Whether a clause can be read back. -/
def Printable : Clause → Prop
  | select columns => Selectable columns
  | source table => ∃ words : List String, (∀ w ∈ words, isNameWord w = true) ∧
      table = " ".intercalate words
  | filter condition =>
    Token.isPlain condition.column = true ∧ Text.upper condition.column = condition.column ∧
      (condition.operator = "=" ∨ Token.isPlain condition.operator = true) ∧
      '\'' ∉ condition.value.toList
  | limit count => Token.isPlain count = true

/-- Whether every `SELECT` stands last or before a `FROM`. -/
def Ordered : List Clause → Prop
  | select _ :: c :: cs => c.keyword = .source ∧ Ordered (c :: cs)
  | _ :: cs => Ordered cs
  | [] => True

end Clause

end TableQuery
