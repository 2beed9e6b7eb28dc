import TableQuery.Proofs.Csv.Table
import TableQuery.Proofs.Query.Answer
import TableQuery.Proofs.Query.Refusal

/-!
# Filters — what is found and what is shown

A cell that a row is too short for is shown as empty, but no condition
finds it, not even one for the empty text. So the rows that a condition
finds are some of those that are shown with its value, and they are all of
those unless the value is empty and a row too short
(`takeRows_test_eq_iff`). In the tables of a folder no row is.
-/

namespace TableQuery

variable {source : TableSource} {name c v : String} {t : Table} {s : Selection}
variable {positions : List Nat} {i k : Nat} {row : List String} {rows : List (List String)}

/-! ## Cells and rows -/

/-- A cell is shown as a text if it is that text, or if it is not there and
the text is empty. -/
theorem getD_cell_eq_iff : row[i]?.getD "" = v ↔ row[i]? = some v ∨ row.length ≤ i ∧ v = "" := by
  rcases Nat.lt_or_ge i row.length with hlt | hge
  · simp [List.getElem?_eq_getElem hlt, Nat.not_le.2 hlt]
  · simp [hge, eq_comm]

theorem takeRows_none_none :
    takeRows none none positions 0 rows = rows.map (project positions) := by
  simp [takeRows_eq, atMost]

theorem takeRows_none_some :
    takeRows none (some ⟨i, v⟩) positions 0 rows =
      (rows.filter (·[i]? = some v)).map (project positions) := by
  simp [takeRows_eq, atMost, CellTest.holds, beq_eq_decide]

/-- The rows that are shown with a value in a selected column. -/
theorem filter_takeRows (hk : positions[k]? = some i) :
    (takeRows none none positions 0 rows).filter (·[k]? = some v) =
      (rows.filter (·[i]?.getD "" = v)).map (project positions) := by
  rw [takeRows_none_none, List.filter_map]
  simp [Function.comp_def, project, hk]

/-- A row that is found is among those that are shown with the value. -/
theorem filter_found_eq : rows.filter (·[i]? = some v) =
    (rows.filter (·[i]?.getD "" = v)).filter (·[i]? = some v) := by
  rw [List.filter_filter]
  refine List.filter_congr fun row _ => ?_
  simp +contextual [getD_cell_eq_iff]

/-- What a condition finds is shown with its value. -/
theorem takeRows_test_sublist (hk : positions[k]? = some i) :
    (takeRows none (some ⟨i, v⟩) positions 0 rows).Sublist
      ((takeRows none none positions 0 rows).filter (·[k]? = some v)) := by
  rw [takeRows_none_some, filter_takeRows hk, filter_found_eq]
  exact List.filter_sublist.map _

/-- **A condition finds all that is shown with its value** exactly if the
value is not empty or every row has the cell. -/
theorem takeRows_test_eq_iff (hk : positions[k]? = some i) :
    takeRows none (some ⟨i, v⟩) positions 0 rows =
        (takeRows none none positions 0 rows).filter (·[k]? = some v) ↔
      (v = "" → ∀ row ∈ rows, i < row.length) := by
  rw [takeRows_none_some, filter_takeRows hk, filter_found_eq]
  constructor
  · rintro heq rfl row hrow
    by_contra hshort
    rw [Nat.not_lt] at hshort
    -- the two lists are of one length, so no row that is shown is passed over
    have hlength := congrArg List.length heq
    rw [List.length_map, List.length_map, List.length_filter_eq_length_iff] at hlength
    have hshown : row ∈ rows.filter (·[i]?.getD "" = "") :=
      List.mem_filter.2 ⟨hrow, decide_eq_true (getD_cell_eq_iff.2 (.inr ⟨hshort, rfl⟩))⟩
    have hfound : row[i]? = some "" := of_decide_eq_true (hlength row hshown)
    rw [List.getElem?_eq_none hshort] at hfound
    cases hfound
  · intro hwide
    rw [List.filter_eq_self.2]
    intro row hrow
    obtain ⟨hmem, hshown⟩ := List.mem_filter.1 hrow
    rcases getD_cell_eq_iff.1 (of_decide_eq_true hshown) with hcell | ⟨hshort, rfl⟩
    · exact decide_eq_true hcell
    · exact absurd (hwide rfl row hmem) (Nat.not_lt.2 hshort)

/-! ## Answers -/

theorem execute_select (hload : source name = .ok t) (hpositions : t.positions s = .ok positions) :
    execute source [.select s, .source name] =
      .ok ⟨project positions t.headers, takeRows none none positions 0 t.rows⟩ := by
  simp [execute, Plan.ofClauses, Plan.extend, Plan.answer, Table.test?, hload, hpositions,
    Except.map, bind, Except.bind, pure, Except.pure]

theorem execute_select_filter (hload : source name = .ok t)
    (hpositions : t.positions s = .ok positions) (hi : t.position? c = some i) (v : String) :
    execute source [.select s, .source name, .filter ⟨c, "=", v⟩] =
      .ok ⟨project positions t.headers, takeRows none (some ⟨i, v⟩) positions 0 t.rows⟩ := by
  simp [execute, Plan.ofClauses, Plan.extend, Plan.answer, Table.test?, CellTest.ofCondition, hload,
    hpositions, hi, Except.map, bind, Except.bind, pure, Except.pure]

/-- **Filtering by a column and filtering what is shown of it** agree
exactly if the value is not empty or no row is too short for the column, and
so they agree on every table of a folder. -/
theorem execute_filter_eq_iff (hload : source name = .ok t) (hc : c ∈ t.headers) (v : String) :
    ∃ i shown found, IsFirst c t.headers i ∧
      execute source [.select (.named [c]), .source name] = .ok ⟨[c], shown⟩ ∧
      execute source [.select (.named [c]), .source name, .filter ⟨c, "=", v⟩] =
        .ok ⟨[c], found⟩ ∧
      found.Sublist (shown.filter (· = [v])) ∧
      (found = shown.filter (· = [v]) ↔ (v = "" → ∀ row ∈ t.rows, i < row.length)) ∧
      ∀ files base, source = TableFolder.source files base → found = shown.filter (· = [v]) := by
  obtain ⟨i, hi⟩ : ∃ i, t.position? c = some i := by
    rwa [← Option.ne_none_iff_exists', ne_eq, Table.position?_eq_none_iff, not_not]
  have hfirst := Table.isFirst_of_position? hi
  have hpositions : t.positions (.named [c]) = .ok [i] := by
    simp [Table.positions, Table.position, hi, bind, Except.bind, pure, Except.pure]
  have hcolumns : project [i] t.headers = [c] := by simp [project, hfirst.1]
  have hshown := execute_select hload hpositions
  have hfound := execute_select_filter hload hpositions hi v
  rw [hcolumns] at hshown hfound
  -- a row of one cell is shown with the value in it if it is the row of the value
  have hcell : (takeRows none none [i] 0 t.rows).filter (·[0]? = some v) =
      (takeRows none none [i] 0 t.rows).filter (· = [v]) := by
    refine List.filter_congr fun row hrow => ?_
    obtain ⟨cell, rfl⟩ := List.length_eq_one_iff.1 (length_of_mem_takeRows hrow)
    simp
  have hsublist : (takeRows none (some ⟨i, v⟩) [i] 0 t.rows).Sublist
      ((takeRows none none [i] 0 t.rows).filter (· = [v])) :=
    hcell ▸ takeRows_test_sublist rfl
  have hiff : takeRows none (some ⟨i, v⟩) [i] 0 t.rows =
      (takeRows none none [i] 0 t.rows).filter (· = [v]) ↔
        (v = "" → ∀ row ∈ t.rows, i < row.length) :=
    hcell ▸ takeRows_test_eq_iff rfl
  refine ⟨i, _, _, hfirst, hshown, hfound, hsublist, hiff, ?_⟩
  rintro files base rfl
  refine hiff.2 fun _ row hrow => ?_
  rw [TableFolder.width_of_mem_rows hload row hrow]
  exact hfirst.lt_length

/-- A folder with one file, a cell of which is empty. -/
def emptyCell : TableSource :=
  TableFolder.source ⟨fun _ => true, fun _ => .ok (Text.bytes "a,b\n1,\n2,x\n")⟩ "d"

/-- A table with a row that ends before the second column. -/
def cutShort : Catalog :=
  ⟨[⟨"t", ["A", "B"], [["1"], ["2", ""], ["3", "x"]]⟩]⟩

/-- The empty text is found where it is shown in the folder, but not
everywhere in the other table. -/
theorem execute_filter_eq_iff_empty :
    (emptyCell "t" = .ok ⟨"t", ["A", "B"], [["1", ""], ["2", "x"]]⟩ ∧
      ∃ shown found,
        execute emptyCell [.select (.named ["B"]), .source "t"] = .ok ⟨["B"], shown⟩ ∧
        execute emptyCell [.select (.named ["B"]), .source "t", .filter ⟨"B", "=", ""⟩] =
          .ok ⟨["B"], found⟩ ∧
        found = shown.filter (· = [""])) ∧
    (cutShort.load "t" = .ok ⟨"t", ["A", "B"], [["1"], ["2", ""], ["3", "x"]]⟩ ∧
      ∃ shown found,
        execute cutShort.load [.select (.named ["B"]), .source "t"] = .ok ⟨["B"], shown⟩ ∧
        execute cutShort.load [.select (.named ["B"]), .source "t", .filter ⟨"B", "=", ""⟩] =
          .ok ⟨["B"], found⟩ ∧
        found ≠ shown.filter (· = [""])) := by
  have hfile : emptyCell "t" = .ok ⟨"t", ["A", "B"], [["1", ""], ["2", "x"]]⟩ := by rfl
  have hshort : cutShort.load "t" = .ok ⟨"t", ["A", "B"], [["1"], ["2", ""], ["3", "x"]]⟩ := by
    rfl
  refine ⟨⟨hfile, ?_⟩, hshort, ?_⟩
  · obtain ⟨i, shown, found, -, hshown, hfound, -, -, hfolder⟩ :=
      execute_filter_eq_iff hfile (c := "B") (by decide) ""
    exact ⟨shown, found, hshown, hfound, hfolder _ _ rfl⟩
  · obtain ⟨i, shown, found, hfirst, hshown, hfound, -, hiff, -⟩ :=
      execute_filter_eq_iff hshort (c := "B") (by decide) ""
    refine ⟨shown, found, hshown, hfound, fun heq => ?_⟩
    have hwide : i < 1 := hiff.1 heq rfl ["1"] (by decide)
    obtain rfl : i = 0 := by omega
    exact absurd hfirst.1 (by decide)

/-- What a row is too short for is shown as empty and not found as empty. -/
theorem execute_filter_ne_of_short :
    ∃ shown found,
      execute (Catalog.load ⟨[⟨"t", ["A", "B"], [["1"]]⟩]⟩)
          [.select (.named ["B"]), .source "t"] = .ok ⟨["B"], shown⟩ ∧
      execute (Catalog.load ⟨[⟨"t", ["A", "B"], [["1"]]⟩]⟩)
          [.select (.named ["B"]), .source "t", .filter ⟨"B", "=", ""⟩] = .ok ⟨["B"], found⟩ ∧
      found ≠ shown.filter (· = [""]) :=
  ⟨[[""]], [], rfl, rfl, by decide⟩

end TableQuery
