import TableQuery.Proofs.Query.Grammar
import TableQuery.Proofs.Query.Scan
import TableQuery.Proofs.Text.Uppercase

/-!
# Letter case — a query in capitals

Two readings are set side by side, of a query and of the same query with
its small ASCII letters made capital. Every step of the one is the step of
the other with capitals: the scan meets quotes and separators at the same
places (`scan_map_toUpper`), and no test on a token looks at the letter
case, so a clause takes the same tokens (`readOne_map_asciiUpper`). What is
upper-cased anyway comes out the same, and what is kept as written comes
out in capitals (`parseQuery_asciiUpper`).
-/

namespace TableQuery

/-- The token in capitals. -/
def Token.asciiUpper : Token → Token
  | word s => word (Text.asciiUpper s)
  | literal s => literal (Text.asciiUpper s)
  | comma => comma
  | equals => equals

/-- The clause with capitals in the texts that are kept as written: table
name, operator, value and count. Column names are in upper case already. -/
def Clause.asciiUpper : Clause → Clause
  | select columns => select columns
  | source table => source (Text.asciiUpper table)
  | filter c => filter ⟨c.column, Text.asciiUpper c.operator, Text.asciiUpper c.value⟩
  | limit count => limit (Text.asciiUpper count)

/-- The error with capitals in the token that it quotes. An unexpected
token is named in upper case already. -/
def QueryError.asciiUpper : QueryError → QueryError
  | incomplete near part => incomplete (Text.asciiUpper near) part
  | e => e

/-! ## Tokens -/

namespace Token

variable {keyword : String}

@[simp] theorem text_asciiUpper (t : Token) : t.asciiUpper.text = Text.asciiUpper t.text := by
  cases t <;> rfl

theorem isSeparator_toUpper (c : Char) : isSeparator c.toUpper = isSeparator c := by
  rw [Bool.eq_iff_iff, isSeparator_iff, isSeparator_iff, Text.isBlank_toUpper,
    Text.toUpper_eq_iff (by decide), Text.toUpper_eq_iff (by decide)]

theorem symbol_toUpper (c : Char) : symbol c.toUpper = (symbol c).map asciiUpper := by
  have hcomma : c.toUpper = ',' ↔ c = ',' := Text.toUpper_eq_iff (by decide)
  have hequals : c.toUpper = '=' ↔ c = '=' := Text.toUpper_eq_iff (by decide)
  simp only [symbol, hcomma, hequals]
  split
  · rfl
  · split <;> rfl

theorem ofPiece_map_toUpper (cs : List Char) :
    ofPiece (cs.map Char.toUpper) = (ofPiece cs).asciiUpper := by
  have hquote : '\'' ∈ cs.map Char.toUpper ↔ '\'' ∈ cs := by
    simp only [List.mem_map, Text.toUpper_eq_iff (d := '\'') (by decide), exists_eq_right]
  unfold ofPiece
  rw [if_congr hquote rfl rfl]
  split <;> simp [asciiUpper, ← String.toList_inj]

theorem close_map_toUpper (piece : List Char) :
    close (piece.map Char.toUpper) = (close piece).map asciiUpper := by
  cases piece with
  | nil => rfl
  | cons c cs =>
    rw [List.map_cons, close, close, ← List.map_cons, ← List.map_reverse, ofPiece_map_toUpper]
    rfl

/-- **A text in capitals has the tokens in capitals.** The piece read so
far is in capitals too. -/
theorem scan_map_toUpper (inside : Bool) (piece xs : List Char) :
    scan inside (piece.map Char.toUpper) (xs.map Char.toUpper) =
      (scan inside piece xs).map asciiUpper := by
  have hupper {x : Char} (hquote : x ≠ '\'') : x.toUpper ≠ '\'' :=
    mt (Text.toUpper_eq_iff (by decide)).1 hquote
  induction inside, piece, xs using scan_induction with
  | nil inside piece => exact close_map_toUpper piece
  | quote inside piece xs ih =>
    have hsame : Char.toUpper '\'' = '\'' := by decide
    rw [List.map_cons, hsame, scan_quote, scan_quote, ← ih, List.map_cons, hsame]
  | quoted piece x xs hquote ih =>
    rw [List.map_cons, scan_quoted (hupper hquote), scan_quoted hquote, ← ih, List.map_cons]
  | separator piece x xs _ hx ih =>
    have hsep : isSeparator x.toUpper = true := by rw [isSeparator_toUpper, hx]
    rw [List.map_cons, scan_separator hsep, scan_separator hx, List.map_append, List.map_append,
      close_map_toUpper, symbol_toUpper, ← ih]
    rfl
  | plain piece x xs hquote hx ih =>
    have hplain : isSeparator x.toUpper = false := by rw [isSeparator_toUpper, hx]
    rw [List.map_cons, scan_plain (hupper hquote) hplain, scan_plain hquote hx, ← ih,
      List.map_cons]

theorem tokenize_asciiUpper (s : String) :
    tokenize (Text.asciiUpper s) = (tokenize s).map asciiUpper := by
  rw [tokenize, Text.toList_asciiUpper, tokenize]
  exact scan_map_toUpper false [] s.toList

/-- No test for a keyword looks at the letter case. -/
theorem isWord_asciiUpper (t : Token) : t.asciiUpper.isWord keyword = t.isWord keyword := by
  cases t with
  | word s => exact Text.sameWord_asciiUpper s keyword
  | literal s => rfl
  | comma => rfl
  | equals => rfl

theorem isKeyword_asciiUpper (t : Token) : t.asciiUpper.isKeyword = t.isKeyword := by
  simp only [isKeyword, isWord_asciiUpper]

end Token

/-! ## The parts of a clause -/

namespace Clause

/-- Nor does the test at the start of a clause. -/
theorem opener_asciiUpper (t : Token) : opener t.asciiUpper = opener t := by
  cases t with
  | word s => simp only [Token.asciiUpper, opener, Text.upper_asciiUpper]
  | literal s => simp only [Token.asciiUpper, opener, Token.text, Text.upper_asciiUpper]
  | comma => rfl
  | equals => rfl

theorem columnNames_map_asciiUpper (ts : List Token) :
    columnNames (ts.map Token.asciiUpper) = columnNames ts := by
  have hcomma : (fun t : Token => t.asciiUpper != .comma) = (· != .comma) := by
    funext t
    cases t <;> rfl
  rw [columnNames, List.filter_map, List.map_map]
  simp only [Function.comp_def, Token.text_asciiUpper, Text.upper_asciiUpper, hcomma, columnNames]

theorem tableName_map_asciiUpper (ts : List Token) :
    tableName (ts.map Token.asciiUpper) = Text.asciiUpper (tableName ts) := by
  rw [tableName, tableName, Text.asciiUpper_intercalate, List.map_map, List.map_map]
  simp only [Function.comp_def, Token.text_asciiUpper]
  rfl

theorem unquoted_asciiUpper (s : String) :
    unquoted (Text.asciiUpper s) = Text.asciiUpper (unquoted s) := by
  have hquote : (fun c : Char => c.toUpper == '\'') = (· == '\'') := by
    funext c
    rw [Bool.eq_iff_iff, beq_iff_eq, beq_iff_eq, Text.toUpper_eq_iff (by decide)]
  rw [← String.toList_inj, Text.toList_asciiUpper, toList_unquoted, toList_unquoted,
    Text.toList_asciiUpper]
  simp only [List.dropWhile_map, ← List.map_reverse, Function.comp_def, hquote]

/-! ## Reading -/

/-- What is read of clauses in capitals. -/
def recased (outcome : Except QueryError (Clause × List Token)) :
    Except QueryError (Clause × List Token) :=
  (outcome.map (Prod.map asciiUpper (List.map Token.asciiUpper))).mapError QueryError.asciiUpper

/-- **A clause takes the same tokens**, whatever their letter case. -/
theorem readBody_map_asciiUpper (k : Keyword) (ts : List Token) :
    readBody k (ts.map Token.asciiUpper) = recased (readBody k ts) := by
  cases k with
  | select =>
    simp only [readBody, List.takeWhile_map, List.dropWhile_map, Function.comp_def,
      Token.isWord_asciiUpper, columnNames_map_asciiUpper]
    rfl
  | source =>
    simp only [readBody, List.takeWhile_map, List.dropWhile_map, Function.comp_def,
      Token.isKeyword_asciiUpper, tableName_map_asciiUpper]
    rfl
  | filter =>
    rcases ts with _ | ⟨column, _ | ⟨operator, _ | ⟨value, rest⟩⟩⟩
    · rfl
    · simp only [readBody, List.map_cons, List.map_nil, Token.text_asciiUpper]
      rfl
    · simp only [readBody, List.map_cons, List.map_nil, Token.text_asciiUpper]
      rfl
    · simp only [readBody, List.map_cons, Token.text_asciiUpper, Text.upper_asciiUpper,
        unquoted_asciiUpper]
      rfl
  | limit =>
    cases ts with
    | nil => rfl
    | cons count rest =>
      simp only [readBody, List.map_cons, Token.text_asciiUpper]
      rfl

theorem readOne_map_asciiUpper (t : Token) (ts : List Token) :
    readOne t.asciiUpper (ts.map Token.asciiUpper) = recased (readOne t ts) := by
  rw [readOne, opener_asciiUpper, readOne]
  cases hopener : opener t with
  | error e =>
    -- the error names the token in upper case, so it is the same
    obtain ⟨-, rfl⟩ := opener_eq_error_iff.1 hopener
    rfl
  | ok k => exact readBody_map_asciiUpper k ts

/-- **The clauses in capitals, up to the same error.** -/
theorem readAll_map_asciiUpper (ts : List Token) :
    readAll (ts.map Token.asciiUpper) =
      ((readAll ts).1.map asciiUpper, (readAll ts).2.map QueryError.asciiUpper) := by
  -- what a clause leaves is shorter, but it is no tail: the induction is on the length
  induction hlength : ts.length using Nat.strongRecOn generalizing ts with
  | ind n ih =>
    cases ts with
    | nil => simp [readAll]
    | cons t ts =>
      have hupper := readOne_map_asciiUpper t ts
      rw [List.map_cons]
      cases hread : readOne t ts with
      | error e =>
        rw [hread] at hupper
        rw [readAll_cons_error hread, readAll_cons_error hupper]
        rfl
      | ok clause =>
        obtain ⟨c, rest⟩ := clause
        rw [hread] at hupper
        have hshort := readOne_length hread
        have hrest := ih rest.length (by simp only [List.length_cons] at hlength; omega) rest rfl
        rw [readAll_cons_ok hread, readAll_cons_ok hupper, hrest]
        rfl

end Clause

/-- **Letter case does not change how a query is read.** A query in
capitals is read where the query is, clause by clause with the same
columns and with the other texts in capitals, and refused where it is, for
the same reason. -/
theorem parseQuery_asciiUpper (query : String) :
    parseQuery (Text.asciiUpper query) =
      ((parseQuery query).map (List.map Clause.asciiUpper)).mapError QueryError.asciiUpper := by
  rw [parseQuery, parseQuery, Token.tokenize_asciiUpper, parse, parse,
    Clause.readAll_map_asciiUpper]
  rcases Clause.readAll (tokenize query) with ⟨cs, _ | e⟩ <;> rfl

end TableQuery
