import TableQuery.Proofs.Query.Refusal

/-!
# Last clauses — what an answer hangs on

A plan keeps one part of each kind, and each part is that of the last clause
of its kind. So clauses that can be gone through have the plan, and hence
the answer, of the last clause of each kind alone. The clauses before it
may be anything that can be gone past: what a selection or a condition that
is replaced asks for is never looked up.
-/

namespace TableQuery

variable {source : TableSource} {cs ds : List Clause} {c : Clause} {k : Keyword} {p p' : Plan}

namespace Clause

/-- The last clause of a kind. -/
def lastOf? (k : Keyword) (cs : List Clause) : Option Clause :=
  (cs.filter (·.keyword = k)).getLast?

/-- The last clause of each kind that there is one of. -/
def lastOfEach (cs : List Clause) : List Clause :=
  Keyword.all.filterMap (lastOf? · cs)

theorem lastOf?_concat :
    lastOf? k (cs ++ [c]) = if c.keyword = k then some c else lastOf? k cs := by
  by_cases hc : c.keyword = k <;> simp [lastOf?, hc]

theorem of_lastOf?_eq_some (h : lastOf? k cs = some c) : c ∈ cs ∧ c.keyword = k := by
  have hmem : c ∈ cs.filter (·.keyword = k) := List.mem_of_getLast? h
  simpa using hmem

/-- A part that the clauses of one kind have, and no others, is the part of
the last clause of that kind. -/
theorem last?_eq_bind_lastOf? {α : Type} {part? : Clause → Option α}
    (hpart : ∀ c, (part? c).isSome = true ↔ c.keyword = k) (cs : List Clause) :
    last? part? cs = (lastOf? k cs).bind part? := by
  induction cs using List.reverseRecOn with
  | nil => rfl
  | append_singleton cs c ih =>
    rw [last?_concat, lastOf?_concat, ih]
    by_cases hc : c.keyword = k
    · obtain ⟨a, ha⟩ := Option.isSome_iff_exists.1 ((hpart c).2 hc)
      rw [if_pos hc, Option.bind_some, ha, Option.some_or]
    · have hnone : part? c = none := by
        rw [← Option.not_isSome_iff_eq_none, hpart c]
        exact hc
      rw [if_neg hc, hnone, Option.none_or]

/-! ## The last clause of each kind -/

/-- Of each kind one clause is kept. -/
theorem filter_lastOfEach (k : Keyword) (cs : List Clause) :
    (lastOfEach cs).filter (·.keyword = k) = (lastOf? k cs).toList := by
  have hkind (k' : Keyword) :
      (lastOf? k' cs).filter (·.keyword = k) = if k' = k then lastOf? k cs else none := by
    cases hlast : lastOf? k' cs with
    | none =>
      by_cases hk : k' = k
      · rw [if_pos hk, ← hk, hlast]
        rfl
      · rw [if_neg hk]
        rfl
    | some c =>
      have hc : c.keyword = k' := (of_lastOf?_eq_some hlast).2
      by_cases hk : k' = k
      · subst hk
        rw [if_pos rfl, hlast]
        simp [hc]
      · simp [hk, hc]
  rw [lastOfEach, List.filter_filterMap]
  simp only [hkind]
  cases k <;> cases lastOf? _ cs <;> rfl

/-- In whatever order they are kept, they are still the last. -/
theorem lastOf?_of_perm_lastOfEach (h : ds.Perm (lastOfEach cs)) (k : Keyword) :
    lastOf? k ds = lastOf? k cs := by
  have hperm : (ds.filter (·.keyword = k)).Perm (lastOf? k cs).toList := by
    rw [← filter_lastOfEach]
    exact h.filter _
  -- a list of one clause at most has one order only
  rw [lastOf?]
  cases hlast : lastOf? k cs with
  | none =>
    rw [hlast] at hperm
    rw [hperm.eq_nil]
    rfl
  | some c =>
    rw [hlast] at hperm
    rw [List.perm_singleton.1 hperm]
    rfl

theorem Passable.of_subset (h : Passable source cs) (hds : ds ⊆ cs) : Passable source ds :=
  ⟨fun name hname => h.1 name (hds hname), fun count hcount => h.2 count (hds hcount)⟩

theorem subset_of_perm_lastOfEach (h : ds.Perm (lastOfEach cs)) : ds ⊆ cs := by
  intro c hc
  obtain ⟨k, -, hlast⟩ := List.mem_filterMap.1 (h.mem_iff.1 hc)
  exact (of_lastOf?_eq_some hlast).1

end Clause

open Clause

/-! ## Plans and answers -/

/-- **Plans that reflect the same last clauses are the same.** -/
theorem Plan.Reflects.eq_of_lastOf? (h : p.Reflects source cs) (h' : p'.Reflects source ds)
    (hlast : ∀ k, lastOf? k ds = lastOf? k cs) : p' = p := by
  have hparts {α : Type} {part? : Clause → Option α} {k : Keyword}
      (hpart : ∀ c, (part? c).isSome = true ↔ c.keyword = k) :
      last? part? ds = last? part? cs := by
    rw [last?_eq_bind_lastOf? hpart, last?_eq_bind_lastOf? hpart, hlast k]
  have hselections : last? selection? ds = last? selection? cs :=
    hparts (k := .select) fun c => by cases c <;> simp [selection?, keyword]
  have htables : last? table? ds = last? table? cs :=
    hparts (k := .source) fun c => by cases c <;> simp [table?, keyword]
  have hconditions : last? condition? ds = last? condition? cs :=
    hparts (k := .filter) fun c => by cases c <;> simp [condition?, keyword]
  have hcounts : last? count? ds = last? count? cs :=
    hparts (k := .limit) fun c => by cases c <;> simp [count?, keyword]
  have hselection : p'.selection = p.selection := by
    rw [h'.selection, h.selection, hselections]
  have htable : p'.table = p.table := by
    have heq := h'.table
    rw [htables, h.table] at heq
    exact (Except.ok.inj heq).symm
  have hcondition : p'.condition = p.condition := by
    rw [h'.condition, h.condition, hconditions]
  have hlimit : p'.limit = p.limit := by
    have heq := h'.limit
    rw [hcounts, h.limit] at heq
    exact (Except.ok.inj heq).symm
  obtain ⟨_, _, _, _⟩ := p
  obtain ⟨_, _, _, _⟩ := p'
  cases hselection
  cases htable
  cases hcondition
  cases hlimit
  rfl

/-- **Clauses with the same last clauses have the same plan**, if they can
be gone through. -/
theorem Plan.ofClauses_eq_of_lastOf? (hcs : Passable source cs) (hds : Passable source ds)
    (hlast : ∀ k, lastOf? k ds = lastOf? k cs) :
    Plan.ofClauses source ds = Plan.ofClauses source cs := by
  obtain ⟨p, hp⟩ := hcs.exists_ofClauses
  obtain ⟨p', hp'⟩ := hds.exists_ofClauses
  have heq : p' = p := (reflects_ofClauses hp).eq_of_lastOf? (reflects_ofClauses hp') hlast
  rw [hp, hp', heq]

/-- **The last clause of each kind decides the answer**, a result or an
error, if every table that is named loads and every count is a number of
rows. The last clauses alone, in any order, have the same answer, and so
has any other list of clauses with these as its last. -/
theorem execute_eq_of_last (hcs : Passable source cs) :
    (∀ ds, ds.Perm (lastOfEach cs) → execute source ds = execute source cs) ∧
      ∀ ds, Passable source ds → (∀ k, lastOf? k ds = lastOf? k cs) →
        execute source ds = execute source cs := by
  have hsame : ∀ ds, Passable source ds → (∀ k, lastOf? k ds = lastOf? k cs) →
      execute source ds = execute source cs := by
    intro ds hds hlast
    rw [execute, execute, Plan.ofClauses_eq_of_lastOf? hcs hds hlast]
  refine ⟨fun ds hperm => ?_, hsame⟩
  have hds : Passable source ds := hcs.of_subset (subset_of_perm_lastOfEach hperm)
  exact hsame ds hds (lastOf?_of_perm_lastOfEach hperm)

/-- A table of one column and a table of two. -/
def oneAndTwo : Catalog :=
  ⟨[⟨"b", ["K", "V"], [["1", "p"], ["2", "q"], ["1", "r"]]⟩, ⟨"a", ["X"], [["1"]]⟩]⟩

/-- Selections and conditions that no table here can answer are replaced, and
so are a table and limits. -/
theorem execute_eq_of_last_replaced :
    execute oneAndTwo.load
        [.select (.named ["Y"]), .source "b", .filter ⟨"V", "<", ""⟩, .limit "0", .source "a",
          .select (.named ["V"]), .source "b", .filter ⟨"K", "=", "1"⟩, .limit "+1"] =
      .ok ⟨["V"], [["p"]]⟩ ∧
    execute oneAndTwo.load
        [.limit "+1", .filter ⟨"K", "=", "1"⟩, .select (.named ["V"]), .source "b"] =
      .ok ⟨["V"], [["p"]]⟩ ∧
    execute oneAndTwo.load
        [.limit "2", .filter ⟨"", "", ""⟩, .limit "+1", .select (.named []),
          .filter ⟨"K", "=", "1"⟩, .source "b", .select (.named ["V"])] =
      .ok ⟨["V"], [["p"]]⟩ := by
  have hpassable : Passable oneAndTwo.load
      [.select (.named ["Y"]), .source "b", .filter ⟨"V", "<", ""⟩, .limit "0", .source "a",
        .select (.named ["V"]), .source "b", .filter ⟨"K", "=", "1"⟩, .limit "+1"] := by
    refine ⟨fun name hname => ?_, fun count hcount => ?_⟩
    · obtain rfl | rfl | rfl : name = "b" ∨ name = "a" ∨ name = "b" := by simpa using hname
      all_goals exact ⟨_, rfl⟩
    · obtain rfl | rfl : count = "0" ∨ count = "+1" := by simpa using hcount
      · exact ⟨0, rfl⟩
      · exact ⟨1, rfl⟩
  have hother : Passable oneAndTwo.load
      [.limit "2", .filter ⟨"", "", ""⟩, .limit "+1", .select (.named []),
        .filter ⟨"K", "=", "1"⟩, .source "b", .select (.named ["V"])] := by
    refine ⟨fun name hname => ?_, fun count hcount => ?_⟩
    · obtain rfl : name = "b" := by simpa using hname
      exact ⟨_, rfl⟩
    · obtain rfl | rfl : count = "2" ∨ count = "+1" := by simpa using hcount
      · exact ⟨2, rfl⟩
      · exact ⟨1, rfl⟩
  obtain ⟨hkept, hsame⟩ := execute_eq_of_last hpassable
  refine ⟨rfl, (hkept _ (by decide)).trans rfl, (hsame _ hother fun k => ?_).trans rfl⟩
  cases k <;> rfl

end TableQuery
