import TableQuery.Proofs.Query.Answer

/-!
# Refusals — which error an execution ends in

Executing clauses fails by kinds of errors in a fixed order
(`Clause.grounds`): those of the single clauses from left to right, then a
missing table, the columns selected, and the operator and the column of the
condition. Each part of the execution fails by its own kinds, and the parts
are put together one after another. Clauses that nothing stops have a plan
(`Clause.Passable`), and a table that does not load ends the execution where
it is named. Nothing of this reads a row of a table or the number of a
limit, so sources with the same headers are refused the same
(`Plan.outline`).
-/

namespace TableQuery

variable {source source' : TableSource} {cs : List Clause} {c : Clause} {p p' : Plan}
variable {t : Table} {e : QueryError}

/-! ## The kinds of errors -/

/-- The column is not among the headers, and the error names it. -/
def Absent (headers : List String) (column : String) (e : QueryError) : Prop :=
  column ∉ headers ∧ e = .unknownColumn column

/-- The selection asks for no column, or the error is about the first one
that is absent. -/
def Selection.Misses (headers : List String) : Selection → QueryError → Prop
  | all, _ => False
  | named [], e => e = .unknownColumn ""
  | named columns, e => FirstOf (columns.map (Absent headers)) e

/-- What a selection misses is a column. -/
theorem Selection.Misses.exists_eq {headers : List String} {s : Selection}
    (h : s.Misses headers e) : ∃ column, e = .unknownColumn column := by
  match s, h with
  | named [], h => exact ⟨"", h⟩
  | named (column :: columns), h =>
    obtain ⟨P, hP, he⟩ := h.exists_mem
    obtain ⟨column, -, rfl⟩ := List.mem_map.1 hP
    exact ⟨column, he.2⟩

namespace Clause

/-- The clause cannot be gone past: its table does not load or its count is
no number of rows. -/
inductive Stops (source : TableSource) : Clause → QueryError → Prop
  | load {name : String} {e : QueryError} :
      source name = .error e → Stops source (.source name) e
  | count {count : String} :
      (∀ n, rowLimit count ≠ .ok n) → Stops source (.limit count) (.invalidLimit count)

/-- The table that the last `FROM` loads. -/
def LoadsLast (source : TableSource) (cs : List Clause) (t : Table) : Prop :=
  ∃ name, last? table? cs = some name ∧ source name = .ok t

/-- No clause names a table. -/
def Tableless (cs : List Clause) (e : QueryError) : Prop :=
  last? table? cs = none ∧ e = .missingFrom

/-- The last selection misses a column of the table. -/
def Unselectable (source : TableSource) (cs : List Clause) (e : QueryError) : Prop :=
  ∃ t s, LoadsLast source cs t ∧ last? selection? cs = some s ∧ s.Misses t.headers e

/-- The last condition is no equation. -/
def Incomparable (cs : List Clause) (e : QueryError) : Prop :=
  ∃ c, last? condition? cs = some c ∧ c.operator ≠ "=" ∧ e = .unsupportedOperator c.operator

/-- The last condition is about a column that the table does not have. -/
def Unmatchable (source : TableSource) (cs : List Clause) (e : QueryError) : Prop :=
  ∃ t c, LoadsLast source cs t ∧ last? condition? cs = some c ∧ Absent t.headers c.column e

/-- What the clauses can be refused for, in the order in which it counts. -/
def grounds (source : TableSource) (cs : List Clause) : List (QueryError → Prop) :=
  cs.map (Stops source) ++
    [Tableless cs, Unselectable source cs, Incomparable cs, Unmatchable source cs]

end Clause

open Clause

/-! ## Going through the clauses -/

/-- A count without a number of rows is named by the error. -/
theorem rowLimit_eq_error_iff {count : String} :
    rowLimit count = .error e ↔ (∀ n, rowLimit count ≠ .ok n) ∧ e = .invalidLimit count := by
  unfold rowLimit
  split
  · split
    · simp
    · simp [eq_comm]
  · simp [eq_comm]

theorem Plan.failsBy_extend (p : Plan) (c : Clause) :
    FailsBy (p.extend source c) [Stops source c] := by
  rw [failsBy_singleton_iff]
  intro e
  cases c with
  | select columns => exact ⟨nofun, nofun⟩
  | source name =>
    rw [Plan.extend]
    constructor
    · intro h
      cases hload : source name with
      | error e' =>
        rw [hload] at h
        cases h
        exact .load hload
      | ok t =>
        rw [hload] at h
        cases h
    · rintro (hload | _)
      rw [hload]
      rfl
  | filter condition => exact ⟨nofun, nofun⟩
  | limit count =>
    rw [Plan.extend]
    constructor
    · intro h
      cases hcount : rowLimit count with
      | error e' =>
        rw [hcount] at h
        cases h
        obtain ⟨hnone, rfl⟩ := rowLimit_eq_error_iff.1 hcount
        exact .count hnone
      | ok n =>
        rw [hcount] at h
        cases h
    · rintro (_ | hnone)
      rw [rowLimit_eq_error_iff.2 ⟨hnone, rfl⟩]
      rfl

/-- **The clauses are gone through up to the first that stops it.** -/
theorem Plan.failsBy_ofClauses (source : TableSource) (cs : List Clause) :
    FailsBy (Plan.ofClauses source cs) (cs.map (Stops source)) :=
  failsBy_foldlM Plan.failsBy_extend {} cs

/-- The clauses can be gone through: every table that is named loads and
every count is a number of rows. -/
def Clause.Passable (source : TableSource) (cs : List Clause) : Prop :=
  (∀ name, .source name ∈ cs → ∃ t, source name = .ok t) ∧
    ∀ count, .limit count ∈ cs → ∃ n, rowLimit count = .ok n

theorem Clause.Passable.not_stops (h : Passable source cs) (hc : c ∈ cs) : ¬ Stops source c e := by
  intro hstops
  cases hstops with
  | load hload =>
    obtain ⟨t, ht⟩ := h.1 _ hc
    rw [ht] at hload
    cases hload
  | count hnone =>
    obtain ⟨n, hn⟩ := h.2 _ hc
    exact hnone n hn

/-- **Clauses that nothing stops have a plan.** -/
theorem Clause.Passable.exists_ofClauses (h : Passable source cs) :
    ∃ p, Plan.ofClauses source cs = .ok p := by
  cases hp : Plan.ofClauses source cs with
  | ok p => exact ⟨p, rfl⟩
  | error e =>
    have hfirst := (Plan.failsBy_ofClauses source cs e).1 hp
    obtain ⟨P, hP, he⟩ := hfirst.exists_mem
    obtain ⟨c, hc, rfl⟩ := List.mem_map.1 hP
    exact absurd he (h.not_stops hc)

/-- **A table that does not load ends the execution**, whatever follows. -/
theorem execute_of_source_error {name : String} {front : List Clause}
    (hfront : Passable source front) (hload : source name = .error e) (back : List Clause) :
    execute source (front ++ .source name :: back) = .error e := by
  obtain ⟨p, hp⟩ := hfront.exists_ofClauses
  have hextend : p.extend source (.source name) = .error e := by
    rw [Plan.extend, hload]
    rfl
  have hplan : Plan.ofClauses source (front ++ .source name :: back) = .error e := by
    rw [Plan.ofClauses] at hp ⊢
    rw [List.foldlM_append, hp]
    change List.foldlM (Plan.extend source) p (.source name :: back) = .error e
    rw [List.foldlM_cons, hextend]
    rfl
  rw [execute, hplan]
  rfl

/-! ## Looking up columns -/

theorem Table.position?_eq_none_iff {column : String} :
    t.position? column = none ↔ column ∉ t.headers := by
  rw [Table.position?, List.findIdx?_eq_none_iff]
  simp only [beq_eq_false_iff_ne, ne_eq]
  constructor
  · exact fun h hmem => h column hmem rfl
  · exact fun h name hmem heq => h (heq ▸ hmem)

/-- Every header is found. -/
theorem Table.exists_position? {column : String} (h : column ∈ t.headers) :
    ∃ i, t.position? column = some i := by
  rwa [← Option.ne_none_iff_exists', ne_eq, Table.position?_eq_none_iff, not_not]

theorem Table.failsBy_position (t : Table) (column : String) :
    FailsBy (t.position column) [Absent t.headers column] := by
  rw [failsBy_singleton_iff]
  intro e
  rw [Absent, ← Table.position?_eq_none_iff, Table.position]
  cases t.position? column with
  | none => simp [eq_comm]
  | some i => simp

/-- **Columns are looked up in the order written.** -/
theorem Table.failsBy_positions (t : Table) (s : Selection) :
    FailsBy (t.positions s) [s.Misses t.headers] := by
  rw [failsBy_singleton_iff]
  intro e
  match s with
  | .all => exact ⟨nofun, nofun⟩
  | .named [] => exact ⟨fun h => by cases h; rfl, fun h => by cases h; rfl⟩
  | .named (column :: columns) =>
    exact failsBy_mapM (Table.failsBy_position t) (column :: columns) e

/-- The operator of a condition is looked at before its column. -/
theorem CellTest.failsBy_ofCondition (t : Table) (c : Condition) :
    FailsBy (CellTest.ofCondition t c)
      [fun e => c.operator ≠ "=" ∧ e = .unsupportedOperator c.operator,
        Absent t.headers c.column] := by
  rw [CellTest.ofCondition]
  by_cases hoperator : c.operator = "="
  · rw [if_pos hoperator]
    refine FailsBy.skip (fun e h => h.1 hoperator) ?_
    rw [failsBy_singleton_iff]
    intro e
    rw [Absent, ← Table.position?_eq_none_iff]
    cases t.position? c.column with
    | none => simp [eq_comm]
    | some i => simp
  · rw [if_neg hoperator]
    exact failsBy_of_error rfl fun e => by simp [hoperator]

/-! ## The answer -/

namespace Plan

theorem Reflects.last?_eq_none (h : p.Reflects source cs) (ht : p.table = none) :
    last? table? cs = none := by
  have htable := h.table
  rw [ht] at htable
  cases hlast : last? table? cs with
  | none => rfl
  | some name =>
    rw [hlast, Option.mapM_some] at htable
    obtain ⟨t, -, heq⟩ := map_eq_ok_iff.1 htable
    cases heq

/-- The table of a plan is the one that the clauses load last. -/
theorem Reflects.loadsLast_iff (h : p.Reflects source cs) (ht : p.table = some t) (t' : Table) :
    LoadsLast source cs t' ↔ t' = t := by
  obtain ⟨name, hlast, hload⟩ := h.exists_last? ht
  constructor
  · rintro ⟨name', hlast', hload'⟩
    rw [hlast] at hlast'
    cases hlast'
    rw [hload] at hload'
    exact (Except.ok.inj hload').symm
  · rintro rfl
    exact ⟨name, hlast, hload⟩

theorem Reflects.failsBy_positions (h : p.Reflects source cs) (ht : p.table = some t) :
    FailsBy (t.positions p.selection) [Unselectable source cs] := by
  have hpositions := failsBy_singleton_iff.1 (Table.failsBy_positions t p.selection)
  rw [failsBy_singleton_iff]
  intro e
  rw [hpositions e, h.selection, Unselectable]
  simp only [h.loadsLast_iff ht]
  cases last? selection? cs with
  | none => simp [Selection.Misses]
  | some s => simp

theorem Reflects.failsBy_test? (h : p.Reflects source cs) (ht : p.table = some t) :
    FailsBy (t.test? p.condition) [Incomparable cs, Unmatchable source cs] := by
  have hincomparable : Incomparable cs = fun e => ∃ c, last? condition? cs = some c ∧
      c.operator ≠ "=" ∧ e = .unsupportedOperator c.operator := rfl
  have hunmatchable : Unmatchable source cs = fun e => ∃ c, last? condition? cs = some c ∧
      Absent t.headers c.column e := by
    funext e
    simp [Unmatchable, h.loadsLast_iff ht]
  rw [h.condition, hincomparable, hunmatchable]
  cases last? condition? cs with
  | none =>
    refine FailsBy.skip (fun e h => ?_) (FailsBy.skip (fun e h => ?_) (failsBy_ok none))
    · obtain ⟨c, hc, -⟩ := h
      cases hc
    · obtain ⟨c, hc, -⟩ := h
      cases hc
  | some c => simpa [Table.test?] using (CellTest.failsBy_ofCondition t c).map some

/-- **What a plan is refused for** behind the clauses. -/
theorem Reflects.failsBy_answer (h : p.Reflects source cs) :
    FailsBy p.answer
      [Tableless cs, Unselectable source cs, Incomparable cs, Unmatchable source cs] := by
  rw [Plan.answer]
  cases ht : p.table with
  | none =>
    have hlast := h.last?_eq_none ht
    exact failsBy_of_error rfl fun e => by simp [Tableless, hlast]
  | some t =>
    have htableless : ∀ e, ¬ Tableless cs e := by
      obtain ⟨name, hlast, -⟩ := h.exists_last? ht
      simp [Tableless, hlast]
    refine FailsBy.skip htableless ?_
    refine (h.failsBy_positions ht).bind fun positions _ => ?_
    exact (h.failsBy_test? ht).bind_pure _

end Plan

/-! ## What a refusal depends on -/

namespace Plan

/-- What the lookup of columns sees of a plan: no row and no limit. -/
def outline (p : Plan) : Selection × Option (List String) × Option Condition :=
  (p.selection, p.table.map Table.headers, p.condition)

-- sources that differ in the rows of their tables only
variable (hsource : ∀ name, (source' name).map Table.headers = (source name).map Table.headers)
include hsource

theorem map_outline_extend (hp : p'.outline = p.outline) (c : Clause) :
    (p'.extend source' c).map outline = (p.extend source c).map outline := by
  simp only [outline, Prod.mk.injEq] at hp
  obtain ⟨hselection, htable, hcondition⟩ := hp
  cases c with
  | select columns => simp [extend, outline, Except.map, htable, hcondition]
  | source name =>
    have hname := hsource name
    rw [extend, extend]
    cases hload : source name with
    | error e =>
      cases hload' : source' name with
      | error e' =>
        rw [hload, hload'] at hname
        cases hname
        rfl
      | ok t' => simp [hload, hload', Except.map] at hname
    | ok t =>
      cases hload' : source' name with
      | error e' => simp [hload, hload', Except.map] at hname
      | ok t' =>
        rw [hload, hload'] at hname
        have hheaders : t'.headers = t.headers := Except.ok.inj hname
        simp [outline, Except.map, hselection, hcondition, hheaders]
  | filter condition => simp [extend, outline, Except.map, hselection, htable]
  | limit count =>
    rw [extend, extend]
    cases rowLimit count with
    | error e => rfl
    | ok n => simp [outline, Except.map, hselection, htable, hcondition]

/-- **Plans of the same clauses have the same outline.** -/
theorem map_outline_foldlM (hp : p'.outline = p.outline) (cs : List Clause) :
    (cs.foldlM (extend source') p').map outline = (cs.foldlM (extend source) p).map outline := by
  induction cs generalizing p p' with
  | nil => exact congrArg Except.ok hp
  | cons c cs ih =>
    rw [List.foldlM_cons, List.foldlM_cons]
    exact map_bind_congr (map_outline_extend hsource hp c) fun _ _ hq => ih hq

omit hsource

/-- **An answer has the columns of the outline**, or its error. -/
theorem map_columns_answer (hp : p'.outline = p.outline) :
    p'.answer.map ResultSet.columns = p.answer.map ResultSet.columns := by
  simp only [outline, Prod.mk.injEq] at hp
  obtain ⟨hselection, htable, hcondition⟩ := hp
  rw [answer, answer]
  cases ht : p.table with
  | none =>
    rw [ht, Option.map_none, Option.map_eq_none_iff] at htable
    rw [htable]
  | some t =>
    rw [ht, Option.map_some, Option.map_eq_some_iff] at htable
    obtain ⟨t', ht', hheaders⟩ := htable
    obtain ⟨name, headers, rows⟩ := t
    obtain ⟨name', headers', rows'⟩ := t'
    cases hheaders
    rw [ht', hselection, hcondition]
    refine map_bind_congr_right fun positions => ?_
    refine map_bind_congr_right fun test => ?_
    rfl

/-- A limit that is a number of rows leaves no trace. -/
theorem map_outline_limit {count : String} {n : Nat} (hcount : rowLimit count = .ok n)
    (front back : List Clause) :
    (ofClauses source (front ++ .limit count :: back)).map outline =
      (ofClauses source (front ++ back)).map outline := by
  rw [ofClauses, ofClauses, List.foldlM_append, List.foldlM_append]
  refine map_bind_congr_right fun p => ?_
  have hextend : p.extend source (.limit count) = .ok { p with limit := some n } := by
    rw [extend, hcount]
    rfl
  have houtline : outline { p with limit := some n } = p.outline := rfl
  rw [List.foldlM_cons, hextend]
  exact map_outline_foldlM (fun _ => rfl) houtline back

end Plan

/-- **What an execution is refused for.** -/
theorem failsBy_execute (source : TableSource) (cs : List Clause) :
    FailsBy (execute source cs) (grounds source cs) :=
  (Plan.failsBy_ofClauses source cs).bind fun _ hp => (Plan.reflects_ofClauses hp).failsBy_answer

/-- **Which error an execution ends in**: the first that there is grounds
for. So sources whose tables differ in their rows only are refused alike
and answer with the same columns, and no limit that can be read hides an
error or causes one. -/
theorem execute_eq_error_iff (source : TableSource) (cs : List Clause) :
    (∀ e, execute source cs = .error e ↔ FirstOf (grounds source cs) e) ∧
    (∀ source' : TableSource,
      (∀ name, (source' name).map Table.headers = (source name).map Table.headers) →
      (execute source' cs).map ResultSet.columns = (execute source cs).map ResultSet.columns) ∧
    ∀ front back count n, cs = front ++ back → rowLimit count = .ok n →
      (execute source (front ++ .limit count :: back)).map ResultSet.columns =
        (execute source cs).map ResultSet.columns := by
  refine ⟨failsBy_execute source cs, fun source' hsource => ?_,
    fun front back count n hcs hcount => ?_⟩
  · exact map_bind_congr (Plan.map_outline_foldlM hsource rfl cs) fun _ _ =>
      Plan.map_columns_answer
  · rw [hcs]
    exact map_bind_congr (Plan.map_outline_limit hcount front back) fun _ _ =>
      Plan.map_columns_answer

end TableQuery
