import Mathlib.Data.List.Induction
import TableQuery.Proofs.Outcome
import TableQuery.Query.Session

/-!
# Answers — what they are, said of whole tables

The rows of a table are gone through one by one, with the limit, the test
and the selection at work on each. `takeRows_eq` says what comes out: of
the rows that pass the test the first ones up to the limit, with the
selected cells. With what a plan reflects of its clauses this gives the
answer to any list of clauses (`answers_of_execute`), in which columns are
looked up by `IsFirst` alone.
-/

namespace TableQuery

/-! ## Plans

Going through the clauses keeps the last part of each kind: `Reflects`
says so of a plan and the clauses gone through. The plan at the start
reflects no clauses and one more clause keeps the relation
(`reflects_extend`), so the plan of a list of clauses reflects the list
(`reflects_ofClauses`). Of the source it knows no more than the tables that
the clauses name (`ofClauses_congr`). -/

namespace Clause

variable {α : Type} {part? : Clause → Option α} {cs : List Clause} {c : Clause}

/-- A part of the last clause that has one of that kind. -/
def last? (part? : Clause → Option α) (cs : List Clause) : Option α :=
  (cs.filterMap part?).getLast?

/-- What a clause has of the kind hides what the clauses before it have. -/
theorem last?_concat : last? part? (cs ++ [c]) = (part? c).or (last? part? cs) := by
  cases h : part? c <;> simp [last?, h]

end Clause

namespace Plan

open Clause

/-- **What a plan knows of the clauses gone through**: the last selection,
everything if there is none, the last condition, and the table and the
limit that the last names of such stand for. -/
structure Reflects (source : TableSource) (cs : List Clause) (p : Plan) : Prop where
  selection : p.selection = (last? selection? cs).getD .all
  table : (last? table? cs).mapM source = .ok p.table
  condition : p.condition = last? condition? cs
  limit : (last? count? cs).mapM rowLimit = .ok p.limit

variable {source : TableSource} {cs : List Clause} {c : Clause} {p p' : Plan}

theorem reflects_nil : ({} : Plan).Reflects source [] :=
  ⟨rfl, rfl, rfl, rfl⟩

/-- One more clause replaces the part of its own kind and no other. -/
theorem reflects_extend (h : p.Reflects source cs) (he : p.extend source c = .ok p') :
    p'.Reflects source (cs ++ [c]) := by
  obtain ⟨hselection, htable, hcondition, hlimit⟩ := h
  cases c with
  | select columns =>
    cases he
    constructor <;> simp [last?_concat, selection?, table?, condition?, count?, *]
  | source name =>
    obtain ⟨t, ht, rfl⟩ := map_eq_ok_iff.1 he
    constructor <;> simp [last?_concat, selection?, table?, condition?, count?, *]
  | filter condition =>
    cases he
    constructor <;> simp [last?_concat, selection?, table?, condition?, count?, *]
  | limit count =>
    obtain ⟨n, hn, rfl⟩ := map_eq_ok_iff.1 he
    constructor <;> simp [last?_concat, selection?, table?, condition?, count?, *]

/-- **The plan of a list of clauses reflects the list.** -/
theorem reflects_ofClauses (h : ofClauses source cs = .ok p) : p.Reflects source cs := by
  induction cs using List.reverseRecOn generalizing p with
  | nil =>
    cases h
    exact reflects_nil
  | append_singleton cs c ih =>
    rw [ofClauses, List.foldlM_append] at h
    obtain ⟨before, hbefore, hextend⟩ := bind_eq_ok_iff.1 h
    simp only [List.foldlM_cons, List.foldlM_nil, bind_pure] at hextend
    exact reflects_extend (ih hbefore) hextend

theorem extend_congr {source' : TableSource}
    (h : ∀ name ∈ table? c, source name = source' name) :
    p.extend source c = p.extend source' c := by
  cases c with
  | source name => exact congrArg (Except.map _) (h name rfl)
  | select columns => rfl
  | filter condition => rfl
  | limit count => rfl

/-- Only the tables that the clauses name are asked for. -/
theorem ofClauses_congr {source' : TableSource}
    (h : ∀ name ∈ cs.filterMap table?, source name = source' name) :
    ofClauses source cs = ofClauses source' cs := by
  -- the plan so far has to be any plan
  suffices hfold : ∀ p : Plan, cs.foldlM (extend source) p = cs.foldlM (extend source') p from
    hfold {}
  induction cs with
  | nil => exact fun _ => rfl
  | cons c cs ih =>
    intro p
    have hc : p.extend source c = p.extend source' c :=
      extend_congr fun name hname => h name (List.mem_filterMap.2 ⟨c, List.mem_cons_self, hname⟩)
    have hcs : ∀ name ∈ cs.filterMap table?, source name = source' name := by
      intro name hname
      obtain ⟨c', hmem, hc'⟩ := List.mem_filterMap.1 hname
      exact h name (List.mem_filterMap.2 ⟨c', List.mem_cons_of_mem c hmem, hc'⟩)
    rw [List.foldlM_cons, List.foldlM_cons, hc]
    exact bind_congr (ih hcs)

/-- A table that a plan knows is the one that the last name stands for. -/
theorem Reflects.exists_last? {t : Table} (h : p.Reflects source cs) (ht : p.table = some t) :
    ∃ name, last? table? cs = some name ∧ source name = .ok t := by
  have htable := h.table
  rw [ht] at htable
  cases hlast : last? table? cs with
  | none => simp [hlast, pure, Except.pure] at htable
  | some name =>
    rw [hlast, Option.mapM_some] at htable
    obtain ⟨t', ht', heq⟩ := map_eq_ok_iff.1 htable
    cases heq
    exact ⟨name, rfl, ht'⟩

end Plan

variable {headers : List String} {name : String} {t : Table} {i : Nat}

/-- The position `i` is the first at which the name stands. -/
def IsFirst (name : String) (headers : List String) (i : Nat) : Prop :=
  headers[i]? = some name ∧ ∀ j < i, headers[j]? ≠ some name

instance : Decidable (IsFirst name headers i) :=
  inferInstanceAs (Decidable (_ ∧ _))

/-- Whether a row meets the condition, if there is one: it has a cell below
the first header with the condition's column, and that cell is the
condition's value. -/
def Meets (headers : List String) (condition : Option Condition) (row : List String) : Prop :=
  ∀ c ∈ condition, ∃ i < headers.length, IsFirst c.column headers i ∧ row[i]? = some c.value

instance {condition : Option Condition} {row : List String} :
    Decidable (Meets headers condition row) :=
  inferInstanceAs (Decidable (∀ c ∈ condition, _))

/-- The positions that a selection asks for. -/
def Selection.Picks (headers : List String) : Selection → List Nat → Prop
  | all, positions => positions = List.range headers.length
  | named columns, positions => List.Forall₂ (IsFirst · headers ·) columns positions

/-- The first rows up to the limit, if there is one. -/
def atMost (limit : Option Nat) (rows : List (List String)) : List (List String) :=
  limit.elim rows rows.take

/-! ## Looking up columns -/

theorem IsFirst.lt_length (h : IsFirst name headers i) : i < headers.length :=
  (List.getElem?_eq_some_iff.1 h.1).1

/-- The same name is first at one position only. -/
theorem IsFirst.unique {j : Nat} (hi : IsFirst name headers i) (hj : IsFirst name headers j) :
    i = j := by
  rcases Nat.lt_trichotomy i j with hlt | heq | hlt
  · exact absurd hi.1 (hj.2 i hlt)
  · exact heq
  · exact absurd hj.1 (hi.2 j hlt)

theorem Table.isFirst_of_position? (h : t.position? name = some i) :
    IsFirst name t.headers i := by
  obtain ⟨hlt, hname, hbefore⟩ := List.findIdx?_eq_some_iff_getElem.1 h
  refine ⟨?_, fun j hj => ?_⟩
  · rw [List.getElem?_eq_getElem hlt, eq_of_beq hname]
  · have hne := hbefore j hj
    rw [List.getElem?_eq_getElem (by omega)]
    simpa using hne

theorem Table.isFirst_of_position (h : t.position name = .ok i) : IsFirst name t.headers i := by
  unfold Table.position at h
  split at h
  · rename_i hposition
    cases h
    exact Table.isFirst_of_position? hposition
  · cases h

/-- Where the columns are found, they are found at their first places. -/
theorem Table.picks_of_positions {s : Selection} {positions : List Nat}
    (h : t.positions s = .ok positions) : s.Picks t.headers positions := by
  unfold Table.positions at h
  split at h
  · cases h
    rfl
  · cases h
  · exact (mapM_eq_ok_iff.1 h).imp fun _ _ => Table.isFirst_of_position

theorem CellTest.isFirst_of_ofCondition {c : Condition} {test : CellTest}
    (h : CellTest.ofCondition t c = .ok test) :
    IsFirst c.column t.headers test.column ∧ test.value = c.value := by
  unfold CellTest.ofCondition at h
  split at h
  · split at h
    · rename_i hposition
      cases h
      exact ⟨Table.isFirst_of_position? hposition, rfl⟩
    · cases h
  · cases h

/-- A row passes the test of a condition if it meets the condition. -/
theorem Table.all_holds_eq {condition : Option Condition} {test : Option CellTest}
    (h : t.test? condition = .ok test) (row : List String) :
    test.all (·.holds row) = decide (Meets t.headers condition row) := by
  cases condition with
  | none =>
    cases h
    simp [Meets]
  | some c =>
    obtain ⟨test, htest, rfl⟩ := map_eq_ok_iff.1 h
    obtain ⟨hfirst, hvalue⟩ := CellTest.isFirst_of_ofCondition htest
    rw [Option.all_some, CellTest.holds, hvalue, Bool.eq_iff_iff, beq_iff_eq, decide_eq_true_iff]
    constructor
    · rintro hcell _ ⟨⟩
      exact ⟨test.column, hfirst.lt_length, hfirst, hcell⟩
    · intro hmeets
      obtain ⟨i, -, hi, hcell⟩ := hmeets c rfl
      rwa [hi.unique hfirst] at hcell

/-! ## Going through the rows -/

/-- **The rows of an answer.** After `taken` rows the limit leaves room for
so many fewer. The induction is on the rows still to come; a row that is
passed over leaves the room as it is. -/
theorem takeRows_eq (limit : Option Nat) (test : Option CellTest) (positions : List Nat)
    (taken : Nat) (rows : List (List String)) :
    takeRows limit test positions taken rows =
      (atMost (limit.map (· - taken)) (rows.filter fun row => test.all (·.holds row))).map
        (project positions) := by
  induction rows generalizing taken with
  | nil => cases limit <;> simp [takeRows, atMost]
  | cons row rows ih =>
    rw [takeRows]
    by_cases hfull : limit.any (· ≤ taken)
    · rw [if_pos hfull]
      obtain ⟨n, rfl, hn⟩ : ∃ n, limit = some n ∧ n ≤ taken := by
        simpa [Option.any_eq_true] using hfull
      simp [atMost, Nat.sub_eq_zero_of_le hn]
    · have hskip : test.any (!·.holds row) = !test.all (·.holds row) := by
        cases test <;> simp
      rw [if_neg hfull, hskip]
      cases hholds : test.all (·.holds row) with
      | false => rw [if_pos (by simp), ih, List.filter_cons_of_neg (by simp [hholds])]
      | true =>
        rw [if_neg (by simp), ih, List.filter_cons_of_pos (by simpa using hholds)]
        cases limit with
        | none => rfl
        | some n =>
          have hroom : n - taken = n - (taken + 1) + 1 := by
            simp at hfull
            omega
          simp [atMost, hroom]

/-- All cells of a row are the row. -/
theorem project_range_length (row : List String) :
    project (List.range row.length) row = row := by
  refine List.ext_getElem (by simp [project]) fun k hk hrow => ?_
  simp [project, List.getElem?_eq_getElem hrow]

/-- Every row that is taken has a cell for each position. -/
theorem length_of_mem_takeRows {limit : Option Nat} {test : Option CellTest}
    {positions : List Nat} {taken : Nat} {rows : List (List String)} {row : List String}
    (h : row ∈ takeRows limit test positions taken rows) : row.length = positions.length := by
  rw [takeRows_eq] at h
  obtain ⟨_, -, rfl⟩ := List.mem_map.1 h
  rw [project, List.length_map]

/-! ## The answer -/

/-- The answer hangs on no table but those that the clauses name. -/
theorem execute_congr {source source' : TableSource} {cs : List Clause}
    (h : ∀ name ∈ cs.filterMap Clause.table?, source name = source' name) :
    execute source cs = execute source' cs := by
  rw [execute, execute, Plan.ofClauses_congr h]

/-- What an answer is made of. -/
theorem exists_of_execute {source : TableSource} {cs : List Clause} {r : ResultSet}
    (h : execute source cs = .ok r) :
    ∃ p t positions test, Plan.ofClauses source cs = .ok p ∧ p.table = some t ∧
      t.positions p.selection = .ok positions ∧
      r = ⟨project positions t.headers, takeRows p.limit test positions 0 t.rows⟩ := by
  obtain ⟨p, hp, hr⟩ := bind_eq_ok_iff.1 h
  unfold Plan.answer at hr
  split at hr
  · cases hr
  · rename_i t ht
    obtain ⟨positions, hpositions, hr⟩ := bind_eq_ok_iff.1 hr
    obtain ⟨test, -, hr⟩ := bind_eq_ok_iff.1 hr
    cases hr
    exact ⟨p, t, positions, test, hp, ht, hpositions, rfl⟩

/-- **The rows of an answer are as wide as its columns**, however wide the
rows of the table are. -/
theorem length_of_mem_rows {source : TableSource} {cs : List Clause} {r : ResultSet}
    (h : execute source cs = .ok r) : ∀ row ∈ r.rows, row.length = r.columns.length := by
  obtain ⟨p, t, positions, test, -, -, -, rfl⟩ := exists_of_execute h
  intro row hrow
  rw [length_of_mem_takeRows hrow, project, List.length_map]

theorem Selection.Picks.lt_length {s : Selection} {positions : List Nat}
    (h : s.Picks headers positions) : ∀ i ∈ positions, i < headers.length := by
  cases s with
  | all =>
    cases h
    simp
  | named columns =>
    change List.Forall₂ _ _ _ at h
    induction h with
    | nil => simp
    | cons hfirst _ ih => exact List.forall_mem_cons.2 ⟨hfirst.lt_length, ih⟩

/-- The headers of an answer are headers of the table. -/
theorem Selection.Picks.map_some_project {s : Selection} {positions : List Nat}
    (h : s.Picks headers positions) :
    (project positions headers).map some = positions.map (headers[·]?) := by
  rw [project, List.map_map]
  refine List.map_congr_left fun i hi => ?_
  simp [List.getElem?_eq_getElem (h.lt_length i hi)]

open Clause in
/-- **The answer to a list of clauses**, as a relation. It has the columns
of the last selection at their first places in the last table named, and of
its rows, in their order, those that meet the last condition, cut at the
last limit and filled up with empty cells. -/
def Answers (source : TableSource) (cs : List Clause) (r : ResultSet) : Prop :=
  ∃ name t positions limit,
    last? table? cs = some name ∧ source name = .ok t ∧
    ((last? selection? cs).getD .all).Picks t.headers positions ∧
    (last? count? cs).mapM rowLimit = .ok limit ∧
    r.columns.map some = positions.map (t.headers[·]?) ∧
    r.rows = (atMost limit (t.rows.filter fun row => Meets t.headers (last? condition? cs) row)).map
      fun row => positions.map fun i => row[i]?.getD ""

/-- **What executing the clauses gives is the answer to them.** -/
theorem answers_of_execute {source : TableSource} {cs : List Clause} {r : ResultSet}
    (h : execute source cs = .ok r) : Answers source cs r := by
  obtain ⟨p, hp, hr⟩ := bind_eq_ok_iff.1 h
  have hplan := Plan.reflects_ofClauses hp
  unfold Plan.answer at hr
  split at hr
  · cases hr
  · rename_i t ht
    obtain ⟨positions, hpositions, hr⟩ := bind_eq_ok_iff.1 hr
    obtain ⟨test, htest, hr⟩ := bind_eq_ok_iff.1 hr
    cases hr
    have hpicks := Table.picks_of_positions hpositions
    obtain ⟨name, hname, hsource⟩ := hplan.exists_last? ht
    refine ⟨name, t, positions, p.limit, hname, hsource, hplan.selection ▸ hpicks, hplan.limit,
      hpicks.map_some_project, ?_⟩
    rw [takeRows_eq]
    simp only [Table.all_holds_eq htest, hplan.condition, Nat.sub_zero]
    cases p.limit <;> rfl

/-- Repeated clauses of every kind over rows that are too short and too
long, with a header that stands twice. -/
theorem answers_of_execute_repeated :
    execute
        (Catalog.load ⟨[⟨"b", ["K", "V", "K"],
          [["1", "p"], ["2"], ["1"], ["1", "q", "2", "s"]]⟩, ⟨"a", ["X"], []⟩]⟩)
        [.source "a", .limit "0", .filter ⟨"X", "<", ""⟩, .select (.named ["X"]), .source "b",
          .filter ⟨"K", "=", "1"⟩, .limit "+2", .select (.named ["V", "K", "V"])] =
      .ok ⟨["V", "K", "V"], [["p", "1", "p"], ["", "1", ""]]⟩ ∧
    Answers
        (Catalog.load ⟨[⟨"b", ["K", "V", "K"],
          [["1", "p"], ["2"], ["1"], ["1", "q", "2", "s"]]⟩, ⟨"a", ["X"], []⟩]⟩)
        [.source "a", .limit "0", .filter ⟨"X", "<", ""⟩, .select (.named ["X"]), .source "b",
          .filter ⟨"K", "=", "1"⟩, .limit "+2", .select (.named ["V", "K", "V"])]
        ⟨["V", "K", "V"], [["p", "1", "p"], ["", "1", ""]]⟩ :=
  ⟨rfl, answers_of_execute rfl⟩

end TableQuery
