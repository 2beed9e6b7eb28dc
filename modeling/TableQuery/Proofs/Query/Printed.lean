import TableQuery.Proofs.Query.Grammar
import TableQuery.Proofs.Query.Scan
import TableQuery.Proofs.Text.Uppercase
import TableQuery.Query.Grammar

/-!
# Clauses — reading them back from print

The tokens of a printed clause are a segment that spells the clause
(`segment_tokenize_printed`), where what follows is the print of clauses
that may follow it. No printed clause leaves a quote open, so the tokens of
a printed list are those of its clauses one after another, and by the
grammar the list is read back (`parseQuery_printedAll`).
-/

namespace TableQuery

theorem Keyword.isCapital_text (k : Keyword) : Text.isCapital k.text = true := by
  cases k <;> decide

theorem Keyword.upper_text (k : Keyword) : Text.upper k.text = k.text :=
  Text.upper_eq_of_sameWord k.isCapital_text (by simp [Text.sameWord])

theorem Keyword.isPlain_text (k : Keyword) : Token.isPlain k.text = true := by
  cases k <;> decide

namespace Clause

variable {c : Clause} {cs : List Clause} {rest : List Token} {s : String}

/-! ## The tokens of the parts -/

theorem tokenize_of_isPlain (h : Token.isPlain s = true) : tokenize s = [.word s] :=
  Token.tokenize_text (t := .word s) h

theorem isOpen_of_isPlain (h : Token.isPlain s = true) : Token.isOpen s.toList = false :=
  Token.isOpen_of_notMem (Token.notMem_of_isPlain h)

theorem tokenize_quoted (h : '\'' ∉ s.toList) :
    tokenize ("'" ++ s ++ "'") = [.literal ("'" ++ s ++ "'")] := by
  refine Token.tokenize_text (t := .literal ("'" ++ s ++ "'")) ?_
  have hlist : ("'" ++ s ++ "'").toList = '\'' :: (s.toList ++ ['\'']) := by simp
  rw [Token.isRegular, hlist, Token.isGuarded, if_pos rfl, Bool.not_false,
    Token.isGuarded_append_quote h]
  simp [Token.isGuarded]

/-- The value that is printed in quotes is what the quotes surround. -/
theorem bares_quoted (h : '\'' ∉ s.toList) : Bares ("'" ++ s ++ "'") s := by
  refine ⟨['\''], ['\''], by simp, by simp, by simp, fun hhead => ?_, fun hlast => ?_⟩
  · exact h (List.mem_of_mem_head? hhead)
  · exact h (List.mem_of_getLast? hlast)

theorem isColumn_iff : isColumn s = true ↔
    Token.isPlain s = true ∧ Text.upper s = s ∧ s ≠ Keyword.source.text := by
  simp [isColumn, and_assoc]

/-- A column is not the keyword that ends the columns, in whatever case. -/
theorem isWord_of_isColumn (h : isColumn s = true) :
    (Token.word s).isWord Keyword.source.text = false := by
  obtain ⟨-, hupper, hne⟩ := isColumn_iff.1 h
  refine Bool.eq_false_iff.2 fun hword => hne ?_
  rw [← hupper]
  exact Text.upper_eq_of_sameWord Keyword.source.isCapital_text hword

theorem isWord_text (k : Keyword) : (Token.word k.text).isWord k.text = true := by
  simp [Token.isWord, Text.sameWord]

theorem isKeyword_word_text (k : Keyword) : (Token.word k.text).isKeyword = true :=
  List.any_eq_true.2 ⟨k, k.mem_all, isWord_text k⟩

theorem isNameWord_iff : isNameWord s = true ↔
    Token.isPlain s = true ∧ (Token.word s).isKeyword = false := by
  simp [isNameWord, Token.isKeyword, Token.isWord]

/-! ## The tokens of the bodies -/

/-- Columns are read with commas between them. -/
theorem tokenize_columns {columns : List String} (h : ∀ s ∈ columns, Token.isPlain s = true) :
    tokenize (", ".intercalate columns) = (columns.map Token.word).intersperse .comma := by
  induction columns with
  | nil => rfl
  | cons s columns ih =>
    obtain ⟨hs, hcolumns⟩ := List.forall_mem_cons.1 h
    cases columns with
    | nil => simpa using tokenize_of_isPlain hs
    | cons s' columns =>
      rw [String.intercalate_cons_cons, Token.tokenize_append_comma (isOpen_of_isPlain hs),
        ih hcolumns, tokenize_of_isPlain hs]
      rfl

/-- The commas do not count. -/
theorem columnNames_intersperse (columns : List String) :
    columnNames ((columns.map Token.word).intersperse .comma) = columns.map Text.upper := by
  induction columns with
  | nil => rfl
  | cons s columns ih =>
    cases columns with
    | nil => rfl
    | cons s' columns =>
      change Text.upper s :: columnNames (((s' :: columns).map Token.word).intersperse .comma) = _
      rw [ih]
      rfl

/-- Neither a comma nor a column ends the columns. -/
theorem isWord_of_mem_intersperse {columns : List String}
    (h : ∀ s ∈ columns, isColumn s = true) :
    ∀ u ∈ (columns.map Token.word).intersperse .comma, u.isWord Keyword.source.text = false := by
  induction columns with
  | nil => simp
  | cons s columns ih =>
    obtain ⟨hs, hcolumns⟩ := List.forall_mem_cons.1 h
    cases columns with
    | nil => simpa using isWord_of_isColumn hs
    | cons s' columns =>
      refine List.forall_mem_cons.2 ⟨isWord_of_isColumn hs, ?_⟩
      exact List.forall_mem_cons.2 ⟨rfl, ih hcolumns⟩

theorem tokenize_words {words : List String} (h : ∀ w ∈ words, Token.isPlain w = true) :
    tokenize (" ".intercalate words) = words.map Token.word := by
  rw [Token.tokenize_intercalate_blank fun w hw => isOpen_of_isPlain (h w hw), List.map_eq_flatMap]
  exact List.flatMap_congr fun w hw => tokenize_of_isPlain (h w hw)

/-- An operator is one token, whose text it is. -/
theorem tokenize_operator (h : s = "=" ∨ Token.isPlain s = true) :
    ∃ t : Token, tokenize s = [t] ∧ t.text = s := by
  rcases h with rfl | h
  · exact ⟨.equals, rfl, rfl⟩
  · exact ⟨.word s, tokenize_of_isPlain h, rfl⟩

theorem isOpen_operator (h : s = "=" ∨ Token.isPlain s = true) : Token.isOpen s.toList = false := by
  rcases h with rfl | h
  · rfl
  · exact isOpen_of_isPlain h

theorem printedBody_filter (condition : Condition) :
    printedBody (.filter condition) = condition.column ++ " " ++
      (condition.operator ++ " " ++ ("'" ++ condition.value ++ "'")) := by
  simp [printedBody, ← String.toList_inj]

/-! ## The tokens of a clause -/

theorem opens_text (k : Keyword) : Opens (.word k.text) k :=
  ⟨k.text, rfl, k.upper_text⟩

theorem tokenize_printed (c : Clause) :
    tokenize c.printed = .word c.keyword.text :: tokenize c.printedBody := by
  have hplain := c.keyword.isPlain_text
  rw [printed, Token.tokenize_append_blank (isOpen_of_isPlain hplain), tokenize_of_isPlain hplain]
  rfl

/-- Whether the tokens of a clause end where the tokens `rest` start. -/
def Ends : Clause → List Token → Prop
  | select _, rest => StopsAt (Token.isWord Keyword.source.text) rest
  | source _, rest => StopsAt Token.isKeyword rest
  | filter _, _ => True
  | limit _, _ => True

/-- **A printed clause is a segment that spells it.** -/
theorem segment_tokenize_printed (h : Printable c) (hends : Ends c rest) :
    Segment (tokenize c.printed) c rest := by
  rw [tokenize_printed]
  cases c with
  | select columns =>
    cases columns with
    | all =>
      have hstar : ∀ u ∈ [Token.word "*"], u.isWord Keyword.source.text = false := by decide
      exact .select (opens_text .select) hstar hends rfl
    | named columns =>
      -- the names are read in capitals, which they are already
      obtain ⟨hstar, hcolumns⟩ := h
      have hnames : columnNames ((columns.map Token.word).intersperse .comma) = columns := by
        rw [columnNames_intersperse]
        exact (List.map_congr_left fun s hs => (isColumn_iff.1 (hcolumns s hs)).2.1).trans
          (List.map_id columns)
      rw [printedBody, Selection.printed,
        tokenize_columns fun s hs => (isColumn_iff.1 (hcolumns s hs)).1]
      refine .select (opens_text .select) (isWord_of_mem_intersperse hcolumns) hends ?_
      rw [hnames]
      exact ⟨rfl, hstar⟩
  | source table =>
    obtain ⟨words, hwords, rfl⟩ := h
    have hname : tableName (words.map Token.word) = " ".intercalate words := by
      simp [tableName, Token.text, Function.comp_def]
    rw [printedBody, tokenize_words fun w hw => (isNameWord_iff.1 (hwords w hw)).1, ← hname]
    refine .source (opens_text .source) ?_ hends
    simpa using fun w hw => (isNameWord_iff.1 (hwords w hw)).2
  | filter condition =>
    obtain ⟨hplain, hupper, hoperator, hvalue⟩ := h
    obtain ⟨t, ht, htext⟩ := tokenize_operator hoperator
    rw [printedBody_filter, Token.tokenize_append_blank (isOpen_of_isPlain hplain),
      Token.tokenize_append_blank (isOpen_operator hoperator), tokenize_of_isPlain hplain, ht,
      tokenize_quoted hvalue]
    have hseg : Segment
        [.word Keyword.filter.text, .word condition.column, t,
          .literal ("'" ++ condition.value ++ "'")]
        (.filter ⟨Text.upper condition.column, t.text, condition.value⟩) rest :=
      .filter (opens_text .filter) (bares_quoted hvalue)
    rw [htext, hupper] at hseg
    exact hseg
  | limit count =>
    rw [printedBody, tokenize_of_isPlain h]
    exact .limit (opens_text .limit)

/-! ## Lists of clauses -/

theorem isOpen_append_blank {s t : String} (hs : Token.isOpen s.toList = false)
    (ht : Token.isOpen t.toList = false) : Token.isOpen (s ++ " " ++ t).toList = false := by
  simp only [String.toList_append, Token.isOpen_append, hs, ht]
  rfl

theorem isOpen_quoted (h : '\'' ∉ s.toList) : Token.isOpen ("'" ++ s ++ "'").toList = false := by
  simp only [String.toList_append, Token.isOpen_append, Token.isOpen_of_notMem h]
  rfl

/-- A printed clause leaves no quote open. -/
theorem isOpen_printed (h : Printable c) : Token.isOpen c.printed.toList = false := by
  refine isOpen_append_blank (isOpen_of_isPlain c.keyword.isPlain_text) ?_
  cases c with
  | select columns =>
    cases columns with
    | all => rfl
    | named columns =>
      exact Token.isOpen_intercalate rfl fun s hs =>
        isOpen_of_isPlain (isColumn_iff.1 (h.2 s hs)).1
  | source table =>
    obtain ⟨words, hwords, rfl⟩ := h
    exact Token.isOpen_intercalate rfl fun w hw =>
      isOpen_of_isPlain (isNameWord_iff.1 (hwords w hw)).1
  | filter condition =>
    obtain ⟨hplain, -, hoperator, hvalue⟩ := h
    rw [printedBody_filter]
    exact isOpen_append_blank (isOpen_of_isPlain hplain)
      (isOpen_append_blank (isOpen_operator hoperator) (isOpen_quoted hvalue))
  | limit count => exact isOpen_of_isPlain h

theorem tokenize_printedAll (h : ∀ c ∈ cs, Printable c) :
    tokenize (printedAll cs) = cs.flatMap fun c => tokenize c.printed := by
  rw [printedAll, Token.tokenize_intercalate_blank, List.flatMap_map]
  simpa using fun c hc => isOpen_printed (h c hc)

/-- Where the next clause starts, the clause in front has ended. -/
theorem ends_of_ordered (h : Ordered (c :: cs)) :
    Ends c (cs.flatMap fun c => tokenize c.printed) := by
  cases cs with
  | nil => cases c <;> simp [Ends, StopsAt]
  | cons c' cs =>
    rw [List.flatMap_cons, tokenize_printed]
    cases c with
    | select columns =>
      rintro _ ⟨⟩
      rw [h.1]
      exact isWord_text .source
    | source table =>
      -- every clause begins with a keyword, so a table name needs no order
      rintro _ ⟨⟩
      exact isKeyword_word_text _
    | filter condition => trivial
    | limit count => trivial

theorem Ordered.tail (h : Ordered (c :: cs)) : Ordered cs := by
  cases c with
  | select columns =>
    cases cs with
    | nil => trivial
    | cons c' cs => exact h.2
  | source table => exact h
  | filter condition => exact h
  | limit count => exact h

/-- The tokens of printed clauses spell them, one segment for each. -/
theorem spells_printed (h : ∀ c ∈ cs, Printable c) (hordered : Ordered cs) :
    Spells [] (cs.flatMap fun c => tokenize c.printed) cs := by
  induction cs with
  | nil => exact .nil
  | cons c cs ih =>
    obtain ⟨hc, hcs⟩ := List.forall_mem_cons.1 h
    refine .cons (segment_tokenize_printed hc ?_) (ih hcs hordered.tail)
    rw [List.append_nil]
    exact ends_of_ordered hordered

end Clause

open Clause in
/-- **Clauses are read back from what they are printed as**, whatever the
values are that stand in quotes. -/
theorem parseQuery_printedAll {cs : List Clause} (h : ∀ c ∈ cs, Printable c)
    (hordered : Ordered cs) : parseQuery (printedAll cs) = .ok cs := by
  rw [parseQuery, tokenize_printedAll h]
  exact parse_of_spells (spells_printed h hordered)

open Clause in
/-- Values that look like clauses, an empty value, an empty list of columns
and an empty table name. -/
theorem parseQuery_printedAll_keywords :
    printedAll [.limit "-x", .select (.named ["A", "*"]), .source "my t",
        .filter ⟨"FROM", "like", "x,\n= LIMIT 3 "⟩, .filter ⟨"B", "=", ""⟩,
        .select (.named []), .source "", .select .all] =
      "LIMIT -x SELECT A, * FROM my t WHERE FROM like 'x,\n= LIMIT 3 ' WHERE B = '' " ++
        "SELECT  FROM  SELECT *" ∧
    parseQuery (printedAll [.limit "-x", .select (.named ["A", "*"]), .source "my t",
        .filter ⟨"FROM", "like", "x,\n= LIMIT 3 "⟩, .filter ⟨"B", "=", ""⟩,
        .select (.named []), .source "", .select .all]) =
      .ok [.limit "-x", .select (.named ["A", "*"]), .source "my t",
        .filter ⟨"FROM", "like", "x,\n= LIMIT 3 "⟩, .filter ⟨"B", "=", ""⟩,
        .select (.named []), .source "", .select .all] := by
  refine ⟨by decide, parseQuery_printedAll ?_ (by simp [Ordered, keyword])⟩
  simp only [List.forall_mem_cons, Printable, Selectable]
  refine ⟨by decide, by decide, ⟨["my", "t"], by decide, by decide⟩, by decide, by decide,
    by decide, ⟨[], by decide, by decide⟩, trivial, by simp⟩

end TableQuery
