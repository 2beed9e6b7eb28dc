import TableQuery.Proofs.Query.Answer
import TableQuery.Query.Session

/-!
# Sessions — what a reply hangs on

Behind the steps of a session a name stands for the table last added under
it. One step says so of the tables it adds (`Catalog.find?_after`), and the
induction on the steps puts the last step in front of those before it
(`Catalog.find?_ofSteps`).

A step asks for some names only, an execution for those of all its `FROM`
clauses, since each of them is loaded and may fail. Catalogs in which these
names stand for the same tables reply alike (`Catalog.reply_congr`). So it
does not matter where in a session, or whether at all, tables of other names
are added.
-/

namespace TableQuery

variable {c c' : Catalog} {s : Step} {before later : List Step} {name : String} {t : Table}

namespace Step

/-- The table that a step adds under the name. -/
def added? (name : String) : Step → Option Table
  | add t => if t.name = name then some t else none
  | _ => none

/-- The names that a step asks for. A text that is no query asks for none. -/
def reads : Step → List String
  | add _ => []
  | contains name => [name]
  | load name => [name]
  | answer query =>
    match parseQuery query with
    | .ok cs => cs.filterMap Clause.table?
    | .error _ => []
  | execute cs => cs.filterMap Clause.table?

/-- Whether the step adds a table under one of the names. -/
def addsOneOf (names : List String) : Step → Bool
  | add t => names.contains t.name
  | _ => false

theorem added?_eq_some_iff : s.added? name = some t ↔ s = add t ∧ t.name = name := by
  cases s with
  | add t' =>
    rw [added?, Option.ite_none_right_eq_some, add.injEq]
    constructor
    · rintro ⟨hname, ⟨⟩⟩
      exact ⟨rfl, hname⟩
    · rintro ⟨rfl, hname⟩
      exact ⟨hname, rfl⟩
  | _ => simp [added?]

theorem added?_eq_none_iff : s.added? name = none ↔ ∀ t, s = add t → t.name ≠ name := by
  simp [Option.eq_none_iff_forall_ne_some, added?_eq_some_iff]

theorem addsOneOf_of_added? {names : List String} (hname : name ∈ names)
    (h : s.added? name = some t) : s.addsOneOf names = true := by
  obtain ⟨rfl, rfl⟩ := added?_eq_some_iff.1 h
  exact List.contains_iff_mem.2 hname

end Step

open Step

/-! ## The history of a name -/

/-- The table is the last one that the steps add under the name. -/
def LastAdded (steps : List Step) (name : String) (t : Table) : Prop :=
  t.name = name ∧ ∃ before after,
    steps = before ++ .add t :: after ∧ ∀ u, .add u ∈ after → u.name ≠ name

theorem lastAdded_iff {steps : List Step} :
    LastAdded steps name t ↔ (steps.filterMap (added? name)).getLast? = some t := by
  rw [List.getLast?_filterMap, List.findSome?_eq_some_iff]
  constructor
  · rintro ⟨hname, before, after, rfl, hafter⟩
    refine ⟨after.reverse, .add t, before.reverse, by simp, by simp [added?, hname], ?_⟩
    intro u hu
    exact added?_eq_none_iff.2 fun v hv => hafter v (hv ▸ List.mem_reverse.1 hu)
  · rintro ⟨after, s, before, hsteps, hs, hafter⟩
    obtain ⟨rfl, hname⟩ := added?_eq_some_iff.1 hs
    refine ⟨hname, before.reverse, after.reverse, by simpa using congrArg List.reverse hsteps, ?_⟩
    intro u hu
    exact added?_eq_none_iff.1 (hafter _ (List.mem_reverse.1 hu)) u rfl

theorem filterMap_added?_eq_nil_iff {steps : List Step} :
    steps.filterMap (added? name) = [] ↔ ∀ t, .add t ∈ steps → t.name ≠ name := by
  simp only [List.filterMap_eq_nil_iff, added?_eq_none_iff]
  exact ⟨fun h t ht => h _ ht t rfl, fun h s hs t hst => h t (hst ▸ hs)⟩

/-- Leaving out what adds none of the names does not change what is added
under one of them. -/
theorem filterMap_added?_filter {names : List String} (hname : name ∈ names)
    (steps : List Step) :
    (steps.filter (addsOneOf names)).filterMap (added? name) = steps.filterMap (added? name) := by
  rw [List.filterMap_filter]
  refine List.filterMap_congr fun s _ => ?_
  split
  · rfl
  · rename_i hs
    cases h : s.added? name with
    | none => rfl
    | some t => exact absurd (addsOneOf_of_added? hname h) hs

/-- What asking for a table gives behind the steps. -/
inductive Loads (steps : List Step) (name : String) : Except QueryError Table → Prop
  /-- No table of that name was added. -/
  | missing : (∀ t, .add t ∈ steps → t.name ≠ name) →
      Loads steps name (.error (.sourceNotFound name))
  /-- The table has no headers. -/
  | headless {t : Table} : LastAdded steps name t → t.headers = [] →
      Loads steps name (.error (.malformedSource name .noHeader))
  /-- The table as it was added, but for the case of its headers. -/
  | found {t : Table} : LastAdded steps name t → t.headers ≠ [] →
      Loads steps name (.ok ⟨name, t.headers.map Text.upper, t.rows⟩)

namespace Catalog

/-- The catalog that the steps of a session leave. -/
def ofSteps (steps : List Step) : Catalog :=
  steps.foldl after {}

theorem ofSteps_concat : ofSteps (before ++ [s]) = (ofSteps before).after s := by
  rw [ofSteps, List.foldl_append]
  rfl

theorem find?_add : (c.add t).find? name = if t.name = name then some t else c.find? name := by
  rw [find?, add, List.find?_cons]
  by_cases h : t.name = name
  · simp [h]
  · simp only [beq_false_of_ne h, if_neg h]
    rfl

/-- **What a step does to a name**: a table added under it hides the one
before, and nothing else does. -/
theorem find?_after :
    (c.after s).find? name =
      ((s.added? name).map fun t => .make t.name t.headers t.rows).or (c.find? name) := by
  cases s with
  | add t =>
    rw [after, find?_add, added?, Table.make]
    split <;> rfl
  | _ => rfl

/-- **What a name stands for** behind the steps of a session. -/
theorem find?_ofSteps (steps : List Step) (name : String) :
    (ofSteps steps).find? name =
      (steps.filterMap (added? name)).getLast?.map fun t => .make t.name t.headers t.rows := by
  induction steps using List.reverseRecOn with
  | nil => rfl
  | append_singleton steps s ih =>
    rw [ofSteps_concat, find?_after, ih]
    cases h : s.added? name <;> simp [h]

theorem contains_ofSteps_iff {steps : List Step} :
    (ofSteps steps).contains name = true ↔ ∃ t, .add t ∈ steps ∧ t.name = name := by
  rw [contains, find?_ofSteps, Option.isSome_map, List.getLast?_isSome, ne_eq,
    filterMap_added?_eq_nil_iff]
  simp

theorem loads_load_ofSteps (steps : List Step) (name : String) :
    Loads steps name ((ofSteps steps).load name) := by
  rw [load, find?_ofSteps]
  cases h : (steps.filterMap (added? name)).getLast? with
  | none => exact .missing (filterMap_added?_eq_nil_iff.1 (List.getLast?_eq_none_iff.1 h))
  | some t =>
    have hlast : LastAdded steps name t := lastAdded_iff.2 h
    simp only [Option.map_some, Table.make, List.map_eq_nil_iff, hlast.1]
    split
    · rename_i hheaders
      exact .headless hlast hheaders
    · rename_i hheaders
      exact .found hlast hheaders

theorem loads_iff {steps : List Step} {outcome : Except QueryError Table} :
    Loads steps name outcome ↔ outcome = (ofSteps steps).load name := by
  constructor
  · rintro (hnone | ⟨hlast, hheaders⟩ | ⟨hlast, hheaders⟩)
    · rw [load, find?_ofSteps, filterMap_added?_eq_nil_iff.2 hnone]
      rfl
    · simp [load, find?_ofSteps, lastAdded_iff.1 hlast, Table.make, hheaders]
    · simp [load, find?_ofSteps, lastAdded_iff.1 hlast, Table.make, hheaders, hlast.1]
  · rintro rfl
    exact loads_load_ofSteps steps name

/-! ## Replies -/

/-- Only adding a table changes a catalog. -/
theorem after_eq_self (h : ∀ t, s ≠ .add t) : c.after s = c := by
  cases s with
  | add t => exact absurd rfl (h t)
  | _ => rfl

theorem replies_append :
    c.replies (before ++ later) = c.replies before ++ (before.foldl after c).replies later := by
  induction before generalizing c with
  | nil => rfl
  | cons s before ih =>
    rw [List.cons_append, replies, replies, ih, List.cons_append, List.foldl_cons]

theorem length_replies (c : Catalog) (steps : List Step) :
    (c.replies steps).length = steps.length := by
  induction steps generalizing c with
  | nil => rfl
  | cons s steps ih => rw [replies, List.length_cons, ih, List.length_cons]

/-- A table that is added is there. -/
theorem reply_add (c : Catalog) (t : Table) : c.reply (.add t) = .presence true := by
  rw [reply, contains, find?_after, added?, if_pos rfl]
  rfl

theorem load_congr (h : c.find? name = c'.find? name) : c.load name = c'.load name := by
  rw [load, load, h]

/-- **Catalogs reply alike** if the names that the step asks for stand for
the same in both. -/
theorem reply_congr (h : ∀ name ∈ s.reads, c.find? name = c'.find? name) :
    c.reply s = c'.reply s := by
  cases s with
  | add t => rw [reply_add, reply_add]
  | contains name => rw [reply, reply, contains, contains, h name List.mem_cons_self]
  | load name => rw [reply, reply, load_congr (h name List.mem_cons_self)]
  | answer query =>
    rw [reply, reply, executeQuery, executeQuery]
    cases hquery : parseQuery query with
    | error e => rfl
    | ok cs =>
      simp only [reads, hquery] at h
      exact congrArg Reply.result (execute_congr fun name hname => load_congr (h name hname))
  | execute cs =>
    exact congrArg Reply.result (execute_congr fun name hname => load_congr (h name hname))

end Catalog

/-- The reply to a step of a session that starts without tables, behind some
steps and in front of others. -/
def replyTo (before : List Step) (s : Step) (later : List Step) : Option Reply :=
  (Catalog.replies {} (before ++ s :: later))[before.length]?

theorem replyTo_eq : replyTo before s later = some ((Catalog.ofSteps before).reply s) := by
  have hlength := Nat.le_of_eq (Catalog.length_replies {} before)
  rw [replyTo, Catalog.replies_append, List.getElem?_append_right hlength, Catalog.length_replies,
    Nat.sub_self]
  rfl

/-- **What the replies of a session hang on.** Whether a table is there and
what it is loaded as is read off the tables added before. A step that adds
none can be left out and no other reply changes. And a step is replied to
alike in two sessions that add the same tables, in the same order, under the
names that the step asks for, whatever else they do. -/
theorem replies_from_adds (before later : List Step) :
    (∀ name, ∃ isThere, replyTo before (.contains name) later = some (.presence isThere) ∧
      (isThere = true ↔ ∃ t, .add t ∈ before ∧ t.name = name)) ∧
    (∀ name, ∃ outcome, replyTo before (.load name) later = some (.table outcome) ∧
      ∀ outcome', Loads before name outcome' ↔ outcome' = outcome) ∧
    (∀ s, (∀ t, s ≠ .add t) →
      (Catalog.replies {} (before ++ s :: later)).eraseIdx before.length =
        Catalog.replies {} (before ++ later)) ∧
    ∀ s before' later',
      before.filter (addsOneOf s.reads) = before'.filter (addsOneOf s.reads) →
      replyTo before s later = replyTo before' s later' := by
  refine ⟨fun name => ⟨_, replyTo_eq, Catalog.contains_ofSteps_iff⟩,
    fun name => ⟨_, replyTo_eq, fun _ => Catalog.loads_iff⟩, ?_, ?_⟩
  · intro s hs
    have hlength := Nat.le_of_eq (Catalog.length_replies {} before)
    rw [Catalog.replies_append, Catalog.replies_append, Catalog.replies, Catalog.after_eq_self hs,
      List.eraseIdx_append_of_length_le hlength, Catalog.length_replies, Nat.sub_self,
      List.eraseIdx_cons_zero]
  · intro s before' later' hsame
    rw [replyTo_eq, replyTo_eq]
    -- each name that is asked for has the same history in both
    refine congrArg some (Catalog.reply_congr fun name hname => ?_)
    rw [Catalog.find?_ofSteps, Catalog.find?_ofSteps, ← filterMap_added?_filter hname before, hsame,
      filterMap_added?_filter hname before']

/-- A table that was replaced, in two sessions: in one a table of another name
is added between the two, in the other there is one in front of them and one
behind them, under a name that differs in case only. -/
theorem replies_from_adds_replaced :
    replyTo
        [.add ⟨"t", ["n"], [["1"]]⟩, .add ⟨"a", [], []⟩, .add ⟨"t", ["n", "ß"], [["n"]]⟩]
        (.answer "FROM t SELECT ss, n") [.contains "t"] =
      some (.result (.ok ⟨["SS", "N"], [["", "n"]]⟩)) ∧
    replyTo
        [.add ⟨"b", ["n"], []⟩, .add ⟨"t", ["n"], [["1"]]⟩, .load "a",
          .add ⟨"t", ["n", "ß"], [["n"]]⟩, .add ⟨"T", ["n"], [["2"]]⟩]
        (.answer "FROM t SELECT ss, n") [] =
      some (.result (.ok ⟨["SS", "N"], [["", "n"]]⟩)) := by
  have hreply : replyTo
      [.add ⟨"t", ["n"], [["1"]]⟩, .add ⟨"a", [], []⟩, .add ⟨"t", ["n", "ß"], [["n"]]⟩]
      (.answer "FROM t SELECT ss, n") [.contains "t"] =
      some (.result (.ok ⟨["SS", "N"], [["", "n"]]⟩)) := by
    rw [replyTo_eq]
    exact congrArg (some ∘ Reply.result) (by decide +kernel)
  obtain ⟨-, -, -, hsame⟩ := replies_from_adds
    [.add ⟨"t", ["n"], [["1"]]⟩, .add ⟨"a", [], []⟩, .add ⟨"t", ["n", "ß"], [["n"]]⟩]
    [.contains "t"]
  exact ⟨hreply, (hsame _ _ _ (by decide +kernel)).symm.trans hreply⟩

end TableQuery
