import TableQuery.Text.Character

/-!
# Queries — tokens and clauses

The text of a query is a list of tokens, and these spell a list of
clauses.
-/

namespace TableQuery

/-! ## Keywords

The four words that open a clause. -/

/-- A word that opens a clause. -/
inductive Keyword
  | select
  | source
  | filter
  | limit
  deriving DecidableEq, Repr

namespace Keyword

/-- The word as it is written. -/
def text : Keyword → String
  | select => "SELECT"
  | source => "FROM"
  | filter => "WHERE"
  | limit => "LIMIT"

/-- Every keyword, in the order clauses are usually written. -/
def all : List Keyword :=
  [select, source, filter, limit]

/-- The keyword with the given spelling, in capitals. -/
def ofText? (s : String) : Option Keyword :=
  all.find? (·.text == s)

theorem mem_all (k : Keyword) : k ∈ all := by
  cases k <;> simp [all]

theorem ofText?_text (k : Keyword) : ofText? k.text = some k := by
  cases k <;> decide

end Keyword

/-! ## Clauses

A query is a list of clauses in the order written. Repeated and misplaced
clauses are kept; what they mean is for the execution to say. -/

/-- The columns that a `SELECT` asks for. -/
inductive Selection
  | all
  /-- Column names in the order written, upper-cased. -/
  | named (columns : List String)
  deriving DecidableEq, Repr

/-- The comparison of a `WHERE`. -/
structure Condition where
  /-- The upper-cased column name. -/
  column : String
  /-- The operator as written; only equality can be executed. -/
  operator : String
  /-- The value without the quotes around it. -/
  value : String
  deriving DecidableEq, Repr

/-- One clause of a query. -/
inductive Clause
  | select (columns : Selection)
  /-- The table name, its words separated by one space. -/
  | source (table : String)
  | filter (condition : Condition)
  /-- The row count as written. -/
  | limit (count : String)
  deriving DecidableEq, Repr

/-- The keyword that opens a clause. -/
def Clause.keyword : Clause → Keyword
  | select _ => .select
  | source _ => .source
  | filter _ => .filter
  | limit _ => .limit

namespace Clause

/-- What a `SELECT` selects. -/
def selection? : Clause → Option Selection
  | select columns => some columns
  | _ => none

/-- The table of a `FROM`. -/
def table? : Clause → Option String
  | source table => some table
  | _ => none

/-- The comparison of a `WHERE`. -/
def condition? : Clause → Option Condition
  | filter condition => some condition
  | _ => none

/-- The count of a `LIMIT`. -/
def count? : Clause → Option String
  | limit count => some count
  | _ => none

end Clause

/-- A column list, where a lone `*` stands for every column. -/
def Selection.ofColumns : List String → Selection
  | ["*"] => all
  | columns => named columns

/-! ## Tokens

A query is cut at blanks, commas and equals signs that stand outside
single quotes. The quotes stay in the token they occur in, and a quote
that is never closed reaches to the end of the query, so no text is
refused. -/

/-- One word or symbol of a query. -/
inductive Token
  /-- A piece of text without quotes. -/
  | word (text : String)
  /-- A piece of text with at least one single quote, quotes kept. -/
  | literal (text : String)
  | comma
  | equals
  deriving DecidableEq, Repr

namespace Token

/-- The text of a token as the query has it. -/
def text : Token → String
  | word s => s
  | literal s => s
  | comma => ","
  | equals => "="

/-- Whether a token is the given keyword. Only an unquoted word can be
one, and the case of ASCII letters does not count. -/
def isWord (keyword : String) : Token → Bool
  | word s => Text.sameWord s keyword
  | _ => false

/-- The token of a non-empty piece of text. -/
def ofPiece (piece : List Char) : Token :=
  if '\'' ∈ piece then literal (String.ofList piece) else word (String.ofList piece)

/-- The token of the piece read so far, last character first; none if
nothing was read. -/
def close : List Char → List Token
  | [] => []
  | c :: cs => [ofPiece (c :: cs).reverse]

/-- The tokens of the remaining characters. `inside` says whether a quote
is open, `piece` holds the characters of the unfinished token, last one
first. -/
def scan (inside : Bool) (piece : List Char) : List Char → List Token
  | [] => close piece
  | c :: cs =>
    if c = '\'' then scan (!inside) (c :: piece) cs
    else if inside then scan inside (c :: piece) cs
    else if Text.isBlank c then close piece ++ scan false [] cs
    else if c = ',' then close piece ++ comma :: scan false [] cs
    else if c = '=' then close piece ++ equals :: scan false [] cs
    else scan false (c :: piece) cs

end Token

/-- The tokens of a query text. -/
def tokenize (query : String) : List Token :=
  Token.scan false [] query.toList

namespace Token

/-! ## Forms of tokens

A word is a text without separators and quotes. A literal has at least
one quote, and its separators stand behind an odd number of them. A token
with an odd number of quotes reaches to the end of the text, so only the
last token can be one. -/

/-- Whether a character ends a token outside quotes. -/
def isSeparator (c : Char) : Bool :=
  Text.isBlank c || c == ',' || c == '='

/-- Whether all separators stand inside quotes; `inside` says whether a
quote is open in front. -/
def isGuarded (inside : Bool) : List Char → Bool
  | [] => true
  | c :: cs =>
    if c = '\'' then isGuarded (!inside) cs
    else (inside || !isSeparator c) && isGuarded inside cs

/-- Whether a text leaves a quote open. -/
def isOpen (cs : List Char) : Bool :=
  cs.count '\'' % 2 == 1

/-- Whether a text can be a word: not empty, without separators and
quotes. -/
def isPlain (s : String) : Bool :=
  s ≠ "" && s.toList.all fun c => c ≠ '\'' && !isSeparator c

/-- Whether a token can come from a text. -/
def isRegular : Token → Bool
  | word s => isPlain s
  | literal s => s.toList.contains '\'' && isGuarded false s.toList
  | comma => true
  | equals => true

/-- Whether a list of tokens can come from a text. -/
def areRegular (ts : List Token) : Bool :=
  ts.all isRegular && ts.dropLast.all fun t => !isOpen t.text.toList

/-- The tokens with a space between each two. -/
def joined (ts : List Token) : String :=
  " ".intercalate (ts.map text)

end Token

end TableQuery
