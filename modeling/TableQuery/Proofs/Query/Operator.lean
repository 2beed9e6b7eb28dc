import TableQuery.Proofs.Query.Printed
import TableQuery.Proofs.Query.Refusal

/-!
# Operators — which ones are refused as such

The operator of a condition is the text of one token of the query, so it
is a plain word, a comma, an equals sign or has quotes in it. A query is
refused for such an operator only. A word with an equals sign in it is no
token: the scan cuts it, and what stands behind the third token of the
condition is read as the start of the next clause.
-/

namespace TableQuery

open Clause

variable {source : TableSource} {catalog : Catalog} {table : Table} {cs : List Clause}
variable {ts rest : List Token} {c : Condition} {t column op v query : String}

/-! ## The operator of a condition -/

/-- The operator of a condition that is spelt is the text of a token. -/
theorem Clause.Spells.exists_operator (h : Spells rest ts cs) (hc : .filter c ∈ cs) :
    ∃ u ∈ ts, u.text = c.operator := by
  obtain ⟨seg, tail, hseg, hsub⟩ := h.exists_segment hc
  cases hseg with
  | filter => exact ⟨_, hsub (by simp), rfl⟩

theorem mem_of_last?_condition? (h : last? condition? cs = some c) : .filter c ∈ cs := by
  obtain ⟨clause, hmem, hclause⟩ := List.mem_filterMap.1 (List.mem_of_getLast? h)
  cases clause with
  | filter =>
    cases hclause
    exact hmem
  | select => cases hclause
  | source => cases hclause
  | limit => cases hclause

/-- An execution is refused for the operator of a condition, unless the
source itself refuses it. -/
theorem exists_filter_of_execute_eq
    (hsource : ∀ name, source name ≠ .error (.unsupportedOperator op))
    (h : execute source cs = .error (.unsupportedOperator op)) :
    ∃ c, .filter c ∈ cs ∧ c.operator = op ∧ op ≠ "=" := by
  obtain ⟨P, hP, he⟩ := ((failsBy_execute source cs _).1 h).exists_mem
  simp only [grounds, List.mem_append, List.mem_map, List.mem_cons, List.not_mem_nil,
    or_false] at hP
  rcases hP with ⟨clause, -, rfl⟩ | rfl | rfl | rfl | rfl
  · cases he with
    | load hload => exact absurd hload (hsource _)
  · cases he.2
  · obtain ⟨t, s, -, -, hmisses⟩ := he
    obtain ⟨column, heq⟩ := hmisses.exists_eq
    cases heq
  · obtain ⟨c, hlast, hne, heq⟩ := he
    cases heq
    exact ⟨c, mem_of_last?_condition? hlast, rfl, hne⟩
  · obtain ⟨t, c, -, -, -, heq⟩ := he
    cases heq

/-- **A query is refused for the text of one of its tokens.** -/
theorem exists_token_of_executeQuery_eq
    (hsource : ∀ name, source name ≠ .error (.unsupportedOperator op))
    (h : executeQuery source query = .error (.unsupportedOperator op)) :
    op ≠ "=" ∧ ∃ u ∈ tokenize query, u.text = op := by
  rw [executeQuery] at h
  cases hparse : parseQuery query with
  | error e =>
    rw [hparse] at h
    cases h
    rcases of_parse_eq_error hparse with ⟨_, heq⟩ | ⟨_, _, heq⟩ <;> cases heq
  | ok cs =>
    rw [hparse] at h
    obtain ⟨c, hc, rfl, hne⟩ := exists_filter_of_execute_eq hsource h
    exact ⟨hne, (spells_of_parse hparse).exists_operator hc⟩

/-! ## Operators as they are written -/

/-- Whether a text can be written as an operator: not empty, without
blanks, quotes and commas. -/
def isOperatorText (s : String) : Bool :=
  s ≠ "" && s.toList.all fun x => x ≠ '\'' && x ≠ ',' && !Text.isBlank x

theorem isOperatorText_iff : isOperatorText op = true ↔
    op ≠ "" ∧ ∀ x ∈ op.toList, x ≠ '\'' ∧ x ≠ ',' ∧ Text.isBlank x = false := by
  simp [isOperatorText, and_assoc]

theorem isOpen_of_isOperatorText (h : isOperatorText op = true) :
    Token.isOpen op.toList = false :=
  Token.isOpen_of_notMem fun hquote => ((isOperatorText_iff.1 h).2 _ hquote).1 rfl

/-- An operator is a word unless it has an equals sign. -/
theorem isPlain_iff_of_isOperatorText (h : isOperatorText op = true) :
    Token.isPlain op = true ↔ '=' ∉ op.toList := by
  obtain ⟨hne, hchars⟩ := isOperatorText_iff.1 h
  rw [Token.isPlain_iff]
  constructor
  · rintro ⟨-, hplain⟩ hequals
    exact absurd (hplain _ hequals).2 (by decide)
  · intro hequals
    refine ⟨hne, fun x hx => ?_⟩
    obtain ⟨hquote, hcomma, hblank⟩ := hchars x hx
    have hx : x ≠ '=' := fun heq => hequals (heq ▸ hx)
    exact ⟨hquote, by simp [Token.isSeparator, hblank, hcomma, hx]⟩

/-- The text of a token that is written as an operator is a word, or the
equals sign alone. -/
theorem isPlain_of_isRegular {u : Token} (h : isOperatorText u.text = true) (hne : u.text ≠ "=")
    (hu : u.isRegular = true) : Token.isPlain u.text = true := by
  obtain ⟨-, hchars⟩ := isOperatorText_iff.1 h
  cases u with
  | word s => exact hu
  | literal s =>
    rw [Token.isRegular, Bool.and_eq_true, List.contains_iff_mem] at hu
    exact absurd rfl (hchars _ hu.1).1
  | comma => exact absurd rfl (hchars ',' (by decide)).2.1
  | equals => exact absurd rfl hne

/-! ## A comparison -/

/-- The query for the rows whose column compares with the value. -/
def comparison (t column op v : String) : String :=
  "SELECT * FROM " ++ t ++ " WHERE " ++ column ++ " " ++ op ++ " " ++ v

/-- The tokens of a comparison in front of its operator. -/
def comparisonHead (t column : String) : List Token :=
  [.word "SELECT", .word "*", .word "FROM", .word t, .word "WHERE", .word column]

theorem comparison_eq (t column op v : String) :
    comparison t column op v =
      " ".intercalate ["SELECT", "*", "FROM", t, "WHERE", column, op, v] := by
  have hselect : "SELECT * FROM " = "SELECT" ++ " " ++ "*" ++ " " ++ "FROM" ++ " " := by decide
  have hwhere : " WHERE " = " " ++ "WHERE" ++ " " := by decide
  unfold comparison
  simp only [hselect, hwhere, -String.reduceAppend]
  simp only [String.intercalate_cons_cons, String.intercalate_singleton]
  simp only [String.append_assoc, -String.reduceAppend]

theorem tokenize_comparison (ht : Token.isPlain t = true) (hcolumn : Token.isPlain column = true)
    (hop : isOperatorText op = true) (hv : Token.isOpen v.toList = false) :
    tokenize (comparison t column op v) =
      comparisonHead t column ++ (tokenize op ++ tokenize v) := by
  have hselect : tokenize "SELECT" = [.word "SELECT"] := by decide
  have hstar : tokenize "*" = [.word "*"] := by decide
  have hfrom : tokenize "FROM" = [.word "FROM"] := by decide
  have hwhere : tokenize "WHERE" = [.word "WHERE"] := by decide
  rw [comparison_eq, Token.tokenize_intercalate_blank]
  · simp [comparisonHead, hselect, hstar, hfrom, hwhere, tokenize_of_isPlain ht,
      tokenize_of_isPlain hcolumn]
  · have hopen := isOpen_of_isOperatorText hop
    simp [isOpen_of_isPlain ht, isOpen_of_isPlain hcolumn, hv, hopen]
    decide

/-- Whatever the next two tokens are, they are the operator and the value. -/
theorem spells_comparison (ht : isNameWord t = true) (column : String) (operator value : Token)
    (rest : List Token) :
    Spells rest (comparisonHead t column ++ [operator, value])
      [.select .all, .source t,
        .filter ⟨Text.upper column, operator.text, unquoted value.text⟩] := by
  have hcut : comparisonHead t column ++ [operator, value] =
      [Token.word "SELECT", Token.word "*"] ++ ([Token.word "FROM", Token.word t] ++
        ([Token.word "WHERE", Token.word column, operator, value] ++ [])) := rfl
  have hname : tableName [.word t] = t := by simp [tableName, Token.text]
  have hselect (rest : List Token) :
      Segment [.word "SELECT", .word "*"] (.select .all) (.word "FROM" :: rest) :=
    .select (opens_text .select) (by decide) (stopsAt_cons.2 (isWord_text .source)) rfl
  have hsource (rest : List Token) :
      Segment [.word "FROM", .word t] (.source (tableName [.word t])) (.word "WHERE" :: rest) := by
    refine .source (opens_text .source) ?_ (stopsAt_cons.2 (isKeyword_word_text .filter))
    simpa using (isNameWord_iff.1 ht).2
  rw [hname] at hsource
  have hfilter : Segment [.word "WHERE", .word column, operator, value]
      (.filter ⟨Text.upper column, operator.text, unquoted value.text⟩) rest :=
    .filter (opens_text .filter) (bares_unquoted value.text)
  rw [hcut]
  exact .cons (hselect _) (.cons (hsource _) (.cons hfilter .nil))

/-- A comparison with any other operator than equality is refused for it. -/
theorem execute_comparison (hload : source t = .ok table) (hop : op ≠ "=") :
    execute source [.select .all, .source t, .filter ⟨column, op, v⟩] =
      .error (.unsupportedOperator op) := by
  simp [execute, Plan.ofClauses, Plan.extend, hload, Plan.answer, Table.positions, Table.test?,
    CellTest.ofCondition, hop, bind, Except.bind, Except.map, pure, Except.pure]

/-! ## Catalogs -/

theorem Catalog.load_eq_ok (h : catalog.find? t = some table) (hne : table.headers ≠ []) :
    catalog.load t = .ok table := by
  simp [Catalog.load, h, hne]

theorem Catalog.load_ne_unsupportedOperator (catalog : Catalog) (name : String) :
    catalog.load name ≠ .error (.unsupportedOperator op) := by
  unfold Catalog.load
  cases catalog.find? name with
  | none => simp
  | some t => by_cases hnone : t.headers = [] <;> simp [hnone]

/-- A word is refused as the operator that it is. -/
theorem executeQuery_comparison_of_isPlain (hload : catalog.load t = .ok table)
    (ht : isNameWord t = true) (hplain : Token.isPlain column = true)
    (hv : Token.isPlain v = true) (hop : isOperatorText op = true)
    (hword : Token.isPlain op = true) (hne : op ≠ "=") :
    executeQuery catalog.load (comparison t column op v) = .error (.unsupportedOperator op) := by
  have hparse : parseQuery (comparison t column op v) =
      .ok [.select .all, .source t, .filter ⟨Text.upper column, op, unquoted v⟩] := by
    rw [parseQuery, tokenize_comparison (isNameWord_iff.1 ht).1 hplain hop (isOpen_of_isPlain hv),
      tokenize_of_isPlain hword, tokenize_of_isPlain hv]
    exact parse_of_spells (spells_comparison ht column (.word op) (.word v) [])
  rw [executeQuery, hparse]
  exact execute_comparison hload hne

/-- An equals sign at the end of an operator is read as the value, and the
value behind it as the start of a clause. -/
theorem executeQuery_comparison_of_append_equals {left : String}
    (hleft : left = "=" ∨ Token.isPlain left = true) (hop : isOperatorText (left ++ "=") = true)
    (ht : isNameWord t = true) (hplain : Token.isPlain column = true)
    (hv : Token.isPlain v = true) (hopens : ∀ k : Keyword, Text.upper v ≠ k.text) :
    executeQuery source (comparison t column (left ++ "=") v) =
      .error (.unexpectedToken (Text.upper v)) := by
  obtain ⟨u, hu, -⟩ := tokenize_operator hleft
  have hcut : tokenize (left ++ "=") = [u, .equals] := by
    have h := Token.tokenize_append_equals (t := "") (isOpen_operator hleft)
    rwa [String.append_empty, hu] at h
  have hstop : readAll [.word v] = ([], some (.unexpectedToken (Text.upper v))) := by
    refine readAll_cons_error ?_
    have hopener : opener (.word v) = .error (.unexpectedToken (Text.upper v)) := by
      refine opener_eq_error_iff.2 ⟨?_, rfl⟩
      rintro k ⟨_, ⟨⟩, hk⟩
      exact hopens k hk
    rw [readOne, hopener]
  have hparse : parseQuery (comparison t column (left ++ "=") v) =
      .error (.unexpectedToken (Text.upper v)) := by
    rw [parseQuery, tokenize_comparison (isNameWord_iff.1 ht).1 hplain hop (isOpen_of_isPlain hv),
      hcut, tokenize_of_isPlain hv, parse_eq_error_iff]
    have hread := readAll_of_spells (spells_comparison ht column u .equals [.word v])
    rw [hstop] at hread
    exact congrArg Prod.snd hread
  rw [executeQuery, hparse]
  rfl

/-- **Which operators are refused as such**: all without an equals sign in
them and no others. An operator that ends in one, as `<=` does, makes the
query fail for its value. -/
theorem executeQuery_comparison_iff (htable : catalog.find? t = some table)
    (hcolumn : Text.upper column ∈ table.headers) (ht : isNameWord t = true)
    (hplain : Token.isPlain column = true) (hv : Token.isPlain v = true)
    (hop : isOperatorText op = true) (hne : op ≠ "=") :
    (executeQuery catalog.load (comparison t column op v) = .error (.unsupportedOperator op) ↔
        '=' ∉ op.toList) ∧
      ∀ left, op = left ++ "=" → left = "=" ∨ Token.isPlain left = true →
        (∀ k : Keyword, Text.upper v ≠ k.text) →
        executeQuery catalog.load (comparison t column op v) =
          .error (.unexpectedToken (Text.upper v)) := by
  refine ⟨⟨fun h => ?_, fun hequals => ?_⟩, ?_⟩
  · -- the operator is the text of a token, and no token but the equals sign has one in it
    obtain ⟨-, u, hu, rfl⟩ :=
      exists_token_of_executeQuery_eq catalog.load_ne_unsupportedOperator h
    rw [← isPlain_iff_of_isOperatorText hop]
    exact isPlain_of_isRegular hop hne (Token.isRegular_of_mem_tokenize u hu)
  · have hload := Catalog.load_eq_ok htable (List.ne_nil_of_mem hcolumn)
    have hword := (isPlain_iff_of_isOperatorText hop).2 hequals
    exact executeQuery_comparison_of_isPlain hload ht hplain hv hop hword hne
  · rintro left rfl hleft hopens
    exact executeQuery_comparison_of_append_equals hleft hop ht hplain hv hopens

/-- The catalog with the ages of Ann. -/
def ages : Catalog :=
  Catalog.add {} (.make "people" ["name", "age"] [["Ann", "30"]])

theorem executeQuery_comparison_iff_ages :
    comparison "people" "age" "<>" "30" = "SELECT * FROM people WHERE age <> 30" ∧
      executeQuery ages.load (comparison "people" "age" "<>" "30") =
        .error (.unsupportedOperator "<>") ∧
      executeQuery ages.load (comparison "people" "age" "!=" "30") =
        .error (.unexpectedToken "30") := by
  have htable : ages.find? "people" = some (.make "people" ["name", "age"] [["Ann", "30"]]) := by
    decide
  have hcolumn : Text.upper "age" ∈ ["NAME", "AGE"] := by decide
  have hvalue : ∀ k : Keyword, Text.upper "30" ≠ k.text := by
    intro k
    cases k <;> decide
  refine ⟨by decide, ?_, ?_⟩
  · exact (executeQuery_comparison_iff htable hcolumn (by decide) (by decide) (by decide)
      (by decide) (by decide)).1.2 (by decide)
  · exact (executeQuery_comparison_iff htable hcolumn (by decide) (by decide) (by decide)
      (by decide) (by decide)).2 "!" (by decide) (by decide) hvalue

/-- `<=` is not refused as the operator that it is. -/
theorem executeQuery_lessEqual_ages :
    executeQuery ages.load "SELECT * FROM people WHERE age <= 30" =
        .error (.unexpectedToken "30") ∧
      executeQuery ages.load "SELECT * FROM people WHERE age <= 30" ≠
        .error (.unsupportedOperator "<=") := by
  decide +kernel

end TableQuery
