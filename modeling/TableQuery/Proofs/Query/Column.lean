import TableQuery.Proofs.Query.Filter
import TableQuery.Proofs.Query.Operator
import TableQuery.Proofs.Text.Capitals

/-!
# Columns — every one can be named

Headers are upper-cased when a table is made and names when a query is
read, so a column is found under every word that has the capitals of its
header. The header as the table keeps it is such a word, since upper-casing
it changes nothing more. Of columns with the same capitals the first is
found.
-/

namespace TableQuery

open Clause

variable {source : TableSource} {headers : List String} {rows : List (List String)}
variable {table : Table} {t name column w h v : String} {i j : Nat}

/-! ## Positions in a table that was made -/

/-- A header has a first position, and it is not behind any position that
has the header. -/
theorem Table.exists_position?_make (name : String) (rows : List (List String))
    (hi : headers[i]? = some h) : ∃ j ≤ i,
      (Table.make name headers rows).position? (Text.upper h) = some j := by
  have hkept : (headers.map Text.upper)[i]? = some (Text.upper h) := by simp [hi]
  obtain ⟨j, hj⟩ : ∃ j, (Table.make name headers rows).position? (Text.upper h) = some j :=
    Table.exists_position? (List.mem_of_getElem? hkept)
  refine ⟨j, ?_, hj⟩
  -- the header stands at `i` too, so its first position is not behind that
  by_contra hlt
  exact (Table.isFirst_of_position? hj).2 i (by omega) hkept

/-- The answer to a query for one column. -/
theorem execute_select_column (hload : source t = .ok table)
    (hj : table.position? column = some j) :
    execute source [.select (.named [column]), .source t] =
      .ok ⟨[column], table.rows.map fun row => [row[j]?.getD ""]⟩ := by
  have hpositions : table.positions (.named [column]) = .ok [j] := by
    simp [Table.positions, Table.position, hj, bind, Except.bind, pure, Except.pure]
  have hcolumns : project [j] table.headers = [column] := by
    rw [project, List.map_singleton, (Table.isFirst_of_position? hj).1]
    rfl
  rw [execute_select hload hpositions, hcolumns, takeRows_none_none]
  rfl

/-- The answer to a query for the rows with a value in one column. -/
theorem execute_filter_column (hload : source t = .ok table)
    (hj : table.position? column = some j) (v : String) :
    execute source [.select .all, .source t, .filter ⟨column, "=", v⟩] =
      .ok ⟨table.headers, (table.rows.filter fun row => row[j]? = some v).map fun row =>
        (List.range table.headers.length).map fun k => row[k]?.getD ""⟩ := by
  rw [execute_select_filter hload rfl hj v, project_range_length, takeRows_none_some]
  rfl

/-! ## Queries that name a column -/

/-- A query for one column, read. -/
theorem parseQuery_select (ht : isNameWord t = true) (hw : Token.isPlain w = true)
    (hstar : w ≠ "*") (hfrom : Text.sameWord w Keyword.source.text = false) :
    parseQuery ("SELECT " ++ w ++ " FROM " ++ t) =
      .ok [.select (.named [Text.upper w]), .source t] := by
  have hwords : "SELECT " ++ w ++ " FROM " ++ t =
      " ".intercalate [Keyword.select.text, w, Keyword.source.text, t] := by
    simp [← String.toList_inj, Keyword.text]
  have hplain : ∀ s ∈ [Keyword.select.text, w, Keyword.source.text, t],
      Token.isPlain s = true := by
    simp [Keyword.isPlain_text, hw, (isNameWord_iff.1 ht).1]
  have hselect : Segment [.word Keyword.select.text, .word w] (.select (.named [Text.upper w]))
      [.word Keyword.source.text, .word t] := by
    refine .select (opens_text .select) ?_ (stopsAt_cons.2 (isWord_text .source)) ⟨rfl, ?_⟩
    · simpa [Token.isWord] using hfrom
    · -- only a star has the capitals of a star
      intro hcapitals
      exact hstar (Text.upper_eq_star_iff.1 (List.cons.inj hcapitals).1)
  have hsource : Segment [.word Keyword.source.text, .word t] (.source (tableName [.word t])) [] :=
    .source (opens_text .source) (by simpa using (isNameWord_iff.1 ht).2) (by simp [StopsAt])
  have hname : tableName [.word t] = t := by simp [tableName, Token.text]
  rw [hname] at hsource
  rw [parseQuery, hwords, tokenize_words hplain]
  exact parse_of_spells (.cons hselect (.cons hsource .nil))

/-- A query for the rows with a value in one column, read. -/
theorem parseQuery_select_filter (ht : isNameWord t = true) (hw : Token.isPlain w = true)
    (hv : '\'' ∉ v.toList) :
    parseQuery ("SELECT * FROM " ++ t ++ " WHERE " ++ w ++ " = '" ++ v ++ "'") =
      .ok [.select .all, .source t, .filter ⟨Text.upper w, "=", v⟩] := by
  have hquery : "SELECT * FROM " ++ t ++ " WHERE " ++ w ++ " = '" ++ v ++ "'" =
      comparison t w "=" ("'" ++ v ++ "'") := by
    have hmiddle : " = '" = " " ++ "=" ++ " " ++ "'" := rfl
    unfold comparison
    rw [hmiddle]
    simp only [String.append_assoc, -String.reduceAppend]
  have hequals : tokenize "=" = [.equals] := by decide
  have hspells := spells_comparison ht w .equals (.literal ("'" ++ v ++ "'")) []
  rw [Token.text, Token.text, ← eq_unquoted_of_bares (bares_quoted hv)] at hspells
  rw [parseQuery, hquery,
    tokenize_comparison (isNameWord_iff.1 ht).1 hw (by decide) (isOpen_quoted hv), hequals,
    tokenize_quoted hv]
  exact parse_of_spells hspells

/-- **Every column can be named**, by any word with the capitals of its
header and by the header as it is shown. Of columns with these capitals the
first is shown, and it is the one that a condition looks at. -/
theorem executeQuery_column (hload : source t = .ok (.make name headers rows))
    (hi : headers[i]? = some h) (ht : isNameWord t = true) (hw : Token.isPlain w = true)
    (hstar : w ≠ "*") (hfrom : Text.sameWord w "FROM" = false)
    (hname : Text.upper w = Text.upper h ∨ w = Text.upper h) :
    ∃ j ≤ i, IsFirst (Text.upper h) (headers.map Text.upper) j ∧
      executeQuery source ("SELECT " ++ w ++ " FROM " ++ t) =
        .ok ⟨[Text.upper h], rows.map fun row => [row[j]?.getD ""]⟩ ∧
      ∀ v : String, '\'' ∉ v.toList →
        executeQuery source ("SELECT * FROM " ++ t ++ " WHERE " ++ w ++ " = '" ++ v ++ "'") =
          .ok ⟨headers.map Text.upper, (rows.filter fun row => row[j]? = some v).map fun row =>
            (List.range headers.length).map fun k => row[k]?.getD ""⟩ := by
  have hupper : Text.upper w = Text.upper h := by
    rcases hname with hsame | rfl
    · exact hsame
    · exact Text.upper_upper h
  obtain ⟨j, hle, hj⟩ := Table.exists_position?_make name rows hi
  refine ⟨j, hle, Table.isFirst_of_position? hj, ?_, fun v hv => ?_⟩
  · rw [executeQuery, parseQuery_select ht hw hstar hfrom, hupper]
    exact execute_select_column hload hj
  · have hfound := execute_filter_column hload hj v
    rw [Table.make, List.length_map] at hfound
    rw [executeQuery, parseQuery_select_filter ht hw hv, hupper]
    exact hfound

/-- A table with a header that has the capitals of another one. -/
def streets : Catalog :=
  Catalog.add {} (.make "t" ["no", "Straße", "strasse"] [["1", "a", "b"], ["2"], ["3", "a"]])

/-- The third column is named by its header and shown as the second. -/
theorem executeQuery_column_streets :
    executeQuery streets.load "SELECT strasse FROM t" =
        .ok ⟨["STRASSE"], [["a"], [""], ["a"]]⟩ ∧
      executeQuery streets.load "SELECT * FROM t WHERE strasse = 'a'" =
        .ok ⟨["NO", "STRASSE", "STRASSE"], [["1", "a", "b"], ["3", "a", ""]]⟩ ∧
      executeQuery streets.load "SELECT STRASSE FROM t" =
        .ok ⟨["STRASSE"], [["a"], [""], ["a"]]⟩ := by
  have hload : streets.load "t" = .ok (.make "t" ["no", "Straße", "strasse"]
      [["1", "a", "b"], ["2"], ["3", "a"]]) := by decide +kernel
  obtain ⟨j, hle, hfirst, hshown, hfound⟩ := executeQuery_column hload (i := 2) (w := "strasse") rfl
    (by decide) (by decide) (by decide) (by decide) (.inl rfl)
  obtain ⟨k, -, hfirst', hshown', -⟩ := executeQuery_column hload (i := 2) (w := "STRASSE") rfl
    (by decide) (by decide) (by decide) (by decide) (.inr (by decide))
  have hsecond : IsFirst (Text.upper "strasse") ["NO", "STRASSE", "STRASSE"] 1 := by decide
  obtain rfl : j = 1 := hfirst.unique hsecond
  obtain rfl : k = 1 := hfirst'.unique hsecond
  exact ⟨hshown, hfound "a" (by decide), hshown'⟩

end TableQuery
