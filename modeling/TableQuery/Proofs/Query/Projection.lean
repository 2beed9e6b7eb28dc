import TableQuery.Proofs.Query.Answer
import TableQuery.Proofs.Query.Refusal

/-!
# Projections — columns picked before and after the rows

Cells can be picked from a row before the rows are filtered and cut, or from
the whole rows that are left (`takeRows_eq_map_project`). A selection
changes nothing else in a plan (`Plan.ofClauses_select`), so an answer with
some of the columns is the answer with all of them, of which these columns
are picked. Where no header stands twice, a column of the answer is told by
its header (`execute_named_of_all`).
-/

namespace TableQuery

open Clause

variable {source : TableSource} {cs front back : List Clause} {c : Clause} {s : Selection}
variable {t : Table} {p : Plan} {columns : List String} {positions : List Nat} {n : Nat}
variable {limit : Option Nat} {test : Option CellTest}

/-! ## Rows -/

/-- A cell is picked from the whole row, cut or filled up to its width, as
from the row. -/
theorem project_project (h : ∀ i ∈ positions, i < n) (row : List String) :
    project positions (project (List.range n) row) = project positions row := by
  refine List.map_congr_left fun i hi => ?_
  simp [project, List.getElem?_range (h i hi)]

/-- **Picking columns commutes with the condition and the limit.** -/
theorem takeRows_eq_map_project (h : ∀ i ∈ positions, i < n) (rows : List (List String)) :
    takeRows limit test positions 0 rows =
      (takeRows limit test (List.range n) 0 rows).map (project positions) := by
  rw [takeRows_eq, takeRows_eq, List.map_map]
  exact List.map_congr_left fun row _ => (project_project h row).symm

/-! ## Positions -/

theorem Table.exists_positions (hne : columns ≠ []) (hcolumns : ∀ c ∈ columns, c ∈ t.headers) :
    ∃ positions, t.positions (.named columns) = .ok positions := by
  rw [(Table.failsBy_positions t _).exists_ok_iff]
  rintro ⟨e, hfirst⟩
  obtain ⟨P, hP, hmisses⟩ := hfirst.exists_mem
  obtain rfl := List.mem_singleton.1 hP
  obtain ⟨column, rest, rfl⟩ := List.exists_cons_of_ne_nil hne
  obtain ⟨Q, hQ, habsent⟩ := FirstOf.exists_mem hmisses
  obtain ⟨c, hc, rfl⟩ := List.mem_map.1 hQ
  exact habsent.1 (hcolumns c hc)

/-- Different headers have one position each. -/
theorem IsFirst.eq_of_nodup {headers : List String} {name : String} {i j : Nat}
    (hdistinct : headers.Nodup) (hi : IsFirst name headers i) (hj : headers[j]? = some name) :
    i = j :=
  (List.getElem?_inj hi.lt_length hdistinct).1 (hi.1.trans hj.symm)

/-- All headers in their order are at all positions. -/
theorem Table.positions_headers (hdistinct : t.headers.Nodup) (hne : t.headers ≠ []) :
    t.positions (.named t.headers) = .ok (List.range t.headers.length) := by
  obtain ⟨positions, hpositions⟩ := Table.exists_positions hne fun _ hc => hc
  have hpicks : List.Forall₂ (IsFirst · t.headers ·) t.headers positions :=
    Table.picks_of_positions hpositions
  obtain ⟨hlength, hfirst⟩ := List.forall₂_iff_get.1 hpicks
  have hall : positions = List.range t.headers.length := by
    refine List.ext_getElem (by simp [hlength]) fun k hk _ => ?_
    have hheader : k < t.headers.length := hlength ▸ hk
    rw [List.getElem_range]
    exact (hfirst k hheader hk).eq_of_nodup hdistinct (List.getElem?_eq_getElem hheader)
  rw [hpositions, hall]

/-! ## Plans -/

/-- The plan with another selection. -/
def Plan.selecting (s : Selection) (p : Plan) : Plan :=
  { p with selection := s }

/-- No other clause looks at the selection. -/
theorem Plan.extend_selecting (hc : selection? c = none) (s : Selection) (p : Plan) :
    (p.selecting s).extend source c = (p.extend source c).map (selecting s) := by
  cases c with
  | select columns => cases hc
  | source name =>
    rw [extend, extend]
    cases source name <;> rfl
  | filter condition => rfl
  | limit count =>
    rw [extend, extend]
    cases rowLimit count <;> rfl

theorem Plan.foldlM_selecting (hback : ∀ c ∈ back, selection? c = none) (s : Selection)
    (p : Plan) :
    back.foldlM (extend source) (p.selecting s) =
      (back.foldlM (extend source) p).map (selecting s) := by
  induction back generalizing p with
  | nil => rfl
  | cons c back ih =>
    obtain ⟨hc, hback⟩ := List.forall_mem_cons.1 hback
    rw [List.foldlM_cons, List.foldlM_cons, extend_selecting hc]
    cases p.extend source c with
    | error e => rfl
    | ok p' => exact ih hback p'

/-- **A selection that is the last one** replaces the selection of the plan
and leaves the rest of it as it is without the clause. -/
theorem Plan.ofClauses_select (hback : ∀ s, .select s ∉ back) (s : Selection) :
    ofClauses source (front ++ .select s :: back) =
      (ofClauses source (front ++ back)).map (selecting s) := by
  have hother : ∀ c ∈ back, selection? c = none := by
    intro c hc
    cases c with
    | select columns => exact absurd hc (hback columns)
    | source name => rfl
    | filter condition => rfl
    | limit count => rfl
  rw [ofClauses, ofClauses, List.foldlM_append, List.foldlM_append]
  cases front.foldlM (extend source) {} with
  | error e => rfl
  | ok p => exact foldlM_selecting hother s p

/-! ## Answers -/

/-- Clauses whose every part but the selection can be answered: they can be
gone through, the table is the one that they load last, and their last
condition is an equation about a column of it. -/
structure Clause.Accepted (source : TableSource) (cs : List Clause) (t : Table) : Prop where
  passable : Passable source cs
  loadsLast : LoadsLast source cs t
  matchable : ∀ c ∈ last? condition? cs, c.operator = "=" ∧ c.column ∈ t.headers

theorem Table.exists_test? {condition : Option Condition}
    (h : ∀ c ∈ condition, c.operator = "=" ∧ c.column ∈ t.headers) :
    ∃ test, t.test? condition = .ok test := by
  cases condition with
  | none => exact ⟨none, rfl⟩
  | some c =>
    obtain ⟨hoperator, hcolumn⟩ := h c rfl
    obtain ⟨i, hi⟩ := Table.exists_position? hcolumn
    refine ⟨some ⟨i, c.value⟩, ?_⟩
    rw [Table.test?, CellTest.ofCondition, if_pos hoperator, hi]
    rfl

/-- The plan of accepted clauses has the table and a test on its rows. -/
theorem Clause.Accepted.exists_plan (h : Accepted source cs t) :
    ∃ p test, Plan.ofClauses source cs = .ok p ∧ p.table = some t ∧
      t.test? p.condition = .ok test := by
  obtain ⟨p, hp⟩ := h.passable.exists_ofClauses
  have hplan := Plan.reflects_ofClauses hp
  obtain ⟨name, hlast, hload⟩ := h.loadsLast
  have htable : p.table = some t := by
    have htable := hplan.table
    rw [hlast, Option.mapM_some, hload] at htable
    exact (Except.ok.inj htable).symm
  obtain ⟨test, htest⟩ := Table.exists_test? (hplan.condition ▸ h.matchable)
  exact ⟨p, test, hp, htable, htest⟩

/-- **What accepted clauses answer to any selection**: the limit and the
test are the same for all of them. -/
theorem Clause.Accepted.exists_execute (h : Accepted source (front ++ back) t)
    (hback : ∀ s, .select s ∉ back) :
    ∃ limit test, ∀ s positions, t.positions s = .ok positions →
      execute source (front ++ .select s :: back) =
        .ok ⟨project positions t.headers, takeRows limit test positions 0 t.rows⟩ := by
  obtain ⟨p, test, hp, htable, htest⟩ := h.exists_plan
  refine ⟨p.limit, test, fun s positions hpositions => ?_⟩
  have hselect : Plan.ofClauses source (front ++ .select s :: back) = .ok (p.selecting s) := by
    rw [Plan.ofClauses_select hback, hp]
    rfl
  rw [execute, hselect]
  change (p.selecting s).answer = _
  simp only [Plan.answer, Plan.selecting, htable, hpositions, htest]
  rfl

/-- The header and the cells of a column. -/
def ResultSet.column (r : ResultSet) (k : Nat) : Option String × List (Option String) :=
  (r.columns[k]?, r.rows.map (·[k]?))

/-- A column that is picked is the column of the whole answer. -/
theorem column_takeRows {i k : Nat} (hpositions : ∀ i ∈ positions, i < t.headers.length)
    (hk : positions[k]? = some i) :
    ResultSet.column ⟨project positions t.headers, takeRows limit test positions 0 t.rows⟩ k =
      ResultSet.column ⟨t.headers, takeRows limit test (List.range t.headers.length) 0 t.rows⟩
        i := by
  have hi : i < t.headers.length := hpositions i (List.mem_of_getElem? hk)
  have hpicked (row : List String) (hlt : i < row.length) :
      (project positions row)[k]? = row[i]? := by
    simp [project, hk, List.getElem?_eq_getElem hlt]
  refine Prod.ext (hpicked t.headers hi) ?_
  simp only [ResultSet.column, takeRows_eq_map_project hpositions, List.map_map]
  refine List.map_congr_left fun row hrow => hpicked row ?_
  rw [length_of_mem_takeRows hrow, List.length_range]
  exact hi

/-- **Selecting columns by name is picking them from the answer with all
columns**, whatever the condition and the limit, if no header stands twice:
there are as many rows, and each column is the one with its name. All
headers in their order are all columns. -/
theorem execute_named_of_all (hcs : Accepted source (front ++ back) t)
    (hback : ∀ s, .select s ∉ back) (hdistinct : t.headers.Nodup) (hne : columns ≠ [])
    (hcolumns : ∀ c ∈ columns, c ∈ t.headers) :
    ∃ all named, execute source (front ++ .select .all :: back) = .ok all ∧
      execute source (front ++ .select (.named columns) :: back) = .ok named ∧
      named.rows.length = all.rows.length ∧ named.columns.length = columns.length ∧
      (∀ k c, columns[k]? = some c → ∃ j, all.columns[j]? = some c ∧
        (∀ i, all.columns[i]? = some c → i = j) ∧ named.column k = all.column j) ∧
      execute source (front ++ .select (.named t.headers) :: back) = .ok all := by
  obtain ⟨limit, test, hexecute⟩ := hcs.exists_execute hback
  obtain ⟨positions, hpositions⟩ := Table.exists_positions hne hcolumns
  have hpicks : List.Forall₂ (IsFirst · t.headers ·) columns positions :=
    Table.picks_of_positions hpositions
  have hlt := (Table.picks_of_positions hpositions).lt_length
  have hheaders : t.headers ≠ [] := by
    obtain ⟨c, rest, rfl⟩ := List.exists_cons_of_ne_nil hne
    exact List.ne_nil_of_mem (hcolumns c List.mem_cons_self)
  have hall := hexecute .all (List.range t.headers.length) rfl
  have heach := hexecute (.named t.headers) _ (Table.positions_headers hdistinct hheaders)
  rw [project_range_length] at hall heach
  refine ⟨_, _, hall, hexecute _ positions hpositions, ?_, ?_, fun k c hc => ?_, heach⟩
  · rw [takeRows_eq_map_project hlt, List.length_map]
  · rw [project, List.length_map, hpicks.length_eq]
  · obtain ⟨hk, rfl⟩ := List.getElem?_eq_some_iff.1 hc
    have hkpositions : k < positions.length := hpicks.length_eq ▸ hk
    have hfirst : IsFirst columns[k] t.headers positions[k] := hpicks.get hk hkpositions
    exact ⟨positions[k], hfirst.1, fun i hi => (hfirst.eq_of_nodup hdistinct hi).symm,
      column_takeRows hlt (List.getElem?_eq_getElem hkpositions)⟩

/-- A table with rows that are too short and too long. -/
def raggedTable : Table :=
  ⟨"t", ["A", "B", "C"], [["1", "x"], ["2"], ["1", "y", "p", "q"], ["1"]]⟩

/-- Columns of it in another order, one of them twice, under a condition on a
column that is not among them. -/
theorem execute_named_of_all_ragged :
    ∃ all named : ResultSet,
      all = ⟨["A", "B", "C"], [["1", "x", ""], ["1", "y", "p"]]⟩ ∧
      named = ⟨["C", "B", "C"], [["", "x", ""], ["p", "y", "p"]]⟩ ∧
      execute (Catalog.load ⟨[raggedTable]⟩)
        ([.source "t", .filter ⟨"A", "=", "1"⟩] ++ .select .all :: [.limit "2"]) = .ok all ∧
      execute (Catalog.load ⟨[raggedTable]⟩)
        ([.source "t", .filter ⟨"A", "=", "1"⟩] ++ .select (.named ["C", "B", "C"]) ::
          [.limit "2"]) = .ok named ∧
      ∃ j, all.columns[j]? = some "B" ∧ named.column 1 = all.column j := by
  have haccepted : Accepted (Catalog.load ⟨[raggedTable]⟩)
      ([.source "t", .filter ⟨"A", "=", "1"⟩] ++ [.limit "2"]) raggedTable := by
    refine ⟨⟨fun name hname => ?_, fun count hcount => ?_⟩, ⟨"t", rfl, rfl⟩, ?_⟩
    · obtain rfl : name = "t" := by simpa using hname
      exact ⟨raggedTable, rfl⟩
    · obtain rfl : count = "2" := by simpa using hcount
      exact ⟨2, rfl⟩
    · rintro c ⟨⟩
      exact ⟨rfl, by decide⟩
  have hcolumns : ∀ c ∈ ["C", "B", "C"], c ∈ raggedTable.headers := by decide
  obtain ⟨all, named, hall, hnamed, -, -, hcolumn, -⟩ :=
    execute_named_of_all haccepted (by simp) (by decide) (by decide) hcolumns
  obtain ⟨j, hj, -, hpicked⟩ := hcolumn 1 "B" rfl
  exact ⟨all, named, (Except.ok.inj hall).symm, (Except.ok.inj hnamed).symm, hall, hnamed, j, hj,
    hpicked⟩

end TableQuery
