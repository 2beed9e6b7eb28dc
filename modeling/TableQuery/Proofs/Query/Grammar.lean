import Mathlib.Data.List.TakeWhile
import TableQuery.Query.Grammar

/-!
# Clauses — the grammar and the reading of it

Reading takes one segment for each clause. A segment is read as its clause
whatever follows where it may end (`readOne_of_segment`), and what is read
is a segment (`segment_of_readOne`). Over a list of tokens both directions
are said of the part that can be read: it spells the clauses, and no clause
starts behind it. Where nothing is left, the tokens spell the clauses and
nothing else (`parse_eq_ok_iff_spells`).
-/

namespace TableQuery

theorem Keyword.ofText?_eq_some_iff {s : String} {k : Keyword} :
    Keyword.ofText? s = some k ↔ s = k.text := by
  constructor
  · intro h
    have htext := List.find?_some h
    exact (by simpa using htext : k.text = s).symm
  · rintro rfl
    exact Keyword.ofText?_text k

namespace Clause

variable {t : Token} {ts rest seg : List Token} {c : Clause} {cs : List Clause} {k : Keyword}

/-! ## Lists up to a stop -/

section Stop

variable {α : Type} {p : α → Bool} {l : List α}

theorem takeWhile_eq_nil_of_head? (h : ∀ a ∈ l.head?, p a = false) : l.takeWhile p = [] := by
  cases l with
  | nil => rfl
  | cons a l => rw [List.takeWhile_cons_of_neg (by simp [h a rfl])]

theorem dropWhile_eq_self_of_head? (h : ∀ a ∈ l.head?, p a = false) : l.dropWhile p = l := by
  cases l with
  | nil => rfl
  | cons a l => rw [List.dropWhile_cons_of_neg (by simp [h a rfl])]

theorem head?_dropWhile (p : α → Bool) (l : List α) : ∀ a ∈ (l.dropWhile p).head?, p a = false := by
  intro a ha
  have h := List.head?_dropWhile_not p l
  rw [Option.mem_def.1 ha] at h
  exact h

end Stop

variable {p : Token → Bool}

theorem stopsAt_cons : StopsAt p (t :: ts) ↔ p t = true := by
  simp [StopsAt]

/-- A list of tokens that a stop follows is taken as a whole. -/
theorem takeWhile_append_of_stopsAt (h : ∀ u ∈ ts, p u = false) (hstop : StopsAt p rest) :
    (ts ++ rest).takeWhile (!p ·) = ts := by
  rw [List.takeWhile_append_of_pos (by simpa using h),
    takeWhile_eq_nil_of_head? (by simpa [StopsAt] using hstop), List.append_nil]

theorem dropWhile_append_of_stopsAt (h : ∀ u ∈ ts, p u = false) (hstop : StopsAt p rest) :
    (ts ++ rest).dropWhile (!p ·) = rest := by
  rw [List.dropWhile_append_of_pos (by simpa using h),
    dropWhile_eq_self_of_head? (by simpa [StopsAt] using hstop)]

theorem stopsAt_dropWhile : StopsAt p (ts.dropWhile (!p ·)) := fun u hu => by
  simpa using head?_dropWhile (!p ·) ts u hu

theorem of_mem_takeWhile_not : ∀ u ∈ ts.takeWhile (!p ·), p u = false := fun u hu => by
  simpa using List.mem_takeWhile_imp hu

/-! ## The parts of a clause -/

theorem opener_eq_ok_iff : opener t = .ok k ↔ Opens t k := by
  unfold opener Opens
  cases t with
  | word s =>
    simp only [Token.word.injEq, exists_eq_left', ← Keyword.ofText?_eq_some_iff]
    cases Keyword.ofText? (Text.upper s) <;> simp
  | literal s => simp
  | comma => simp
  | equals => simp

/-- A token that opens no clause is named by the error. -/
theorem opener_eq_error_iff {e : QueryError} :
    opener t = .error e ↔ (∀ k, ¬ Opens t k) ∧ e = .unexpectedToken (Text.upper t.text) := by
  simp only [← opener_eq_ok_iff]
  unfold opener
  cases t with
  | word s =>
    simp only [Token.text]
    cases Keyword.ofText? (Text.upper s) <;> simp [eq_comm]
  | literal s => simp [Token.text, eq_comm]
  | comma => simp [Token.text, eq_comm]
  | equals => simp [Token.text, eq_comm]

theorem selects_iff {names : List String} {columns : Selection} :
    Selects names columns ↔ columns = .ofColumns names := by
  unfold Selection.ofColumns
  split
  · cases columns <;> simp [Selects]
  · rename_i hne
    cases columns with
    | all => simpa [Selects] using hne
    | named columns => simpa [Selects] using fun _ => hne

theorem toList_unquoted (s : String) :
    (unquoted s).toList =
      ((s.toList.dropWhile (· == '\'')).reverse.dropWhile (· == '\'')).reverse :=
  String.toList_ofList

/-- Taking off the quotes leaves what they surround. -/
theorem bares_unquoted (s : String) : Bares s (unquoted s) := by
  unfold Bares
  rw [toList_unquoted]
  generalize hrest : s.toList.dropWhile (· == '\'') = rest
  have hfront : s.toList = s.toList.takeWhile (· == '\'') ++ rest := by
    rw [← hrest, List.takeWhile_append_dropWhile]
  have hback : rest = (rest.reverse.dropWhile (· == '\'')).reverse ++
      (rest.reverse.takeWhile (· == '\'')).reverse := by
    rw [← List.reverse_append, List.takeWhile_append_dropWhile, List.reverse_reverse]
  refine ⟨s.toList.takeWhile (· == '\''), (rest.reverse.takeWhile (· == '\'')).reverse, ?_, ?_, ?_,
    ?_, ?_⟩
  · rw [List.append_assoc, ← hback]
    exact hfront
  · intro c hc
    simpa using List.mem_takeWhile_imp hc
  · intro c hc
    simpa using List.mem_takeWhile_imp (List.mem_reverse.1 hc)
  · -- a value that begins with a quote would begin what is left behind the front with it
    intro hhead
    have hquote : rest.head? = some '\'' := by
      rw [hback, List.head?_append, hhead]
      rfl
    have := head?_dropWhile (· == '\'') s.toList '\'' (by rw [hrest, hquote]; rfl)
    simp at this
  · intro hlast
    rw [List.getLast?_reverse] at hlast
    have := head?_dropWhile (· == '\'') rest.reverse '\'' hlast
    simp at this

/-- And what they surround is determined. -/
theorem eq_unquoted_of_bares {s v : String} (h : Bares s v) : v = unquoted s := by
  obtain ⟨front, back, hs, hfront, hback, hhead, hlast⟩ := h
  rw [← String.toList_inj, toList_unquoted, hs, List.append_assoc,
    List.dropWhile_append_of_pos (by simpa using hfront)]
  cases hv : v.toList with
  | nil =>
    have hnil : back.dropWhile (· == '\'') = [] :=
      List.dropWhile_eq_nil_iff.2 (by simpa using hback)
    simp [hnil]
  | cons c cs =>
    rw [hv] at hhead hlast
    have hleft : (c :: cs ++ back).dropWhile (· == '\'') = c :: cs ++ back :=
      dropWhile_eq_self_of_head? (by simpa using hhead)
    have hright : (c :: cs).reverse.dropWhile (· == '\'') = (c :: cs).reverse := by
      refine dropWhile_eq_self_of_head? fun a ha => ?_
      rw [List.head?_reverse] at ha
      have hne : a ≠ '\'' := fun hquote => hlast (hquote ▸ ha)
      simpa using hne
    rw [hleft, List.reverse_append, List.dropWhile_append_of_pos (by simpa using hback), hright,
      List.reverse_reverse]

/-! ## One clause -/

/-- **A segment is read as its clause.** -/
theorem readOne_of_segment (h : Segment seg c rest) :
    ∃ t body, seg = t :: body ∧ readOne t (body ++ rest) = .ok (c, rest) := by
  cases h with
  | @select t list rest columns hopens hlist hstop hselects =>
    refine ⟨t, list, rfl, ?_⟩
    rw [readOne, opener_eq_ok_iff.2 hopens, selects_iff.1 hselects]
    simp only [readBody]
    rw [takeWhile_append_of_stopsAt hlist hstop, dropWhile_append_of_stopsAt hlist hstop]
  | @source t name rest hopens hname hstop =>
    refine ⟨t, name, rfl, ?_⟩
    rw [readOne, opener_eq_ok_iff.2 hopens]
    simp only [readBody]
    rw [takeWhile_append_of_stopsAt hname hstop, dropWhile_append_of_stopsAt hname hstop]
  | @filter t column operator quoted rest value hopens hvalue =>
    refine ⟨t, [column, operator, quoted], rfl, ?_⟩
    rw [readOne, opener_eq_ok_iff.2 hopens, eq_unquoted_of_bares hvalue]
    rfl
  | @limit t count rest hopens =>
    refine ⟨t, [count], rfl, ?_⟩
    rw [readOne, opener_eq_ok_iff.2 hopens]
    rfl

/-- **What is read is a segment**, and the tokens behind it remain. -/
theorem segment_of_readOne (h : readOne t ts = .ok (c, rest)) :
    ∃ body, ts = body ++ rest ∧ Segment (t :: body) c rest := by
  unfold readOne at h
  split at h
  · cases h
  rename_i k hk
  have hopens := opener_eq_ok_iff.1 hk
  unfold readBody at h
  cases k with
  | select =>
    cases h
    exact ⟨_, (List.takeWhile_append_dropWhile).symm,
      .select hopens of_mem_takeWhile_not stopsAt_dropWhile (selects_iff.2 rfl)⟩
  | source =>
    cases h
    exact ⟨_, (List.takeWhile_append_dropWhile).symm,
      .source hopens of_mem_takeWhile_not stopsAt_dropWhile⟩
  | filter =>
    simp only at h
    split at h
    · cases h
      exact ⟨[_, _, _], rfl, .filter hopens (bares_unquoted _)⟩
    · cases h
    · cases h
  | limit =>
    simp only at h
    split at h
    · cases h
      exact ⟨[_], rfl, .limit hopens⟩
    · cases h

/-- A keyword opens a clause of its own kind. -/
theorem keyword_of_readBody (h : readBody k ts = .ok (c, rest)) : c.keyword = k := by
  unfold readBody at h
  split at h
  · cases h
    rfl
  · cases h
    rfl
  · split at h <;> cases h
    rfl
  · split at h <;> cases h
    rfl

/-- A condition breaks off if it lacks one of its three tokens. -/
theorem readBody_filter_eq_error_iff {e : QueryError} : readBody .filter ts = .error e ↔
    ts.length < 3 ∧
      e = .incomplete ((ts.head?.map Token.text).getD Keyword.filter.text) .condition := by
  match ts with
  | [] => simp [readBody, eq_comm]
  | [t] => simp [readBody, eq_comm]
  | [t, u] => simp [readBody, eq_comm]
  | column :: operator :: value :: rest =>
    have hlong : ¬ (column :: operator :: value :: rest).length < 3 := by simp
    simp only [readBody, hlong, false_and, reduceCtorEq]

/-- A limit breaks off if it lacks its count. -/
theorem readBody_limit_eq_error_iff {e : QueryError} : readBody .limit ts = .error e ↔
    ts = [] ∧ e = .incomplete Keyword.limit.text .count := by
  cases ts with
  | nil => simp [readBody, eq_comm]
  | cons t ts => simp [readBody]

/-- Behind its keyword a clause fails by what it lacks. -/
theorem of_readBody_eq_error {e : QueryError} (h : readBody k ts = .error e) :
    ∃ near, k = .filter ∧ e = .incomplete near .condition ∨
      k = .limit ∧ e = .incomplete near .count := by
  cases k with
  | select => cases h
  | source => cases h
  | filter => exact ⟨_, .inl ⟨rfl, (readBody_filter_eq_error_iff.1 h).2⟩⟩
  | limit => exact ⟨_, .inr ⟨rfl, (readBody_limit_eq_error_iff.1 h).2⟩⟩

/-- A clause fails by its first token or by what it lacks. -/
theorem of_readOne_eq_error {e : QueryError} (h : readOne t ts = .error e) :
    (∃ text, e = .unexpectedToken text) ∨ ∃ near part, e = .incomplete near part := by
  unfold readOne at h
  split at h
  · rename_i e' hopener
    cases h
    exact .inl ⟨_, (opener_eq_error_iff.1 hopener).2⟩
  · obtain ⟨near, ⟨-, rfl⟩ | ⟨-, rfl⟩⟩ := of_readBody_eq_error h
    · exact .inr ⟨near, _, rfl⟩
    · exact .inr ⟨near, _, rfl⟩

/-! ## Lists of clauses -/

theorem readAll_cons_ok (h : readOne t ts = .ok (c, rest)) :
    readAll (t :: ts) = (c :: (readAll rest).1, (readAll rest).2) := by
  rw [readAll]
  split
  · rename_i heq
    rw [h] at heq
    cases heq
  · rename_i heq
    rw [h] at heq
    cases heq
    rfl

theorem readAll_cons_error {e : QueryError} (h : readOne t ts = .error e) :
    readAll (t :: ts) = ([], some e) := by
  rw [readAll]
  split
  · rename_i heq
    rw [h] at heq
    cases heq
    rfl
  · rename_i heq
    rw [h] at heq
    cases heq

/-- **Tokens that spell clauses are read as them**, and reading goes on
behind. -/
theorem readAll_of_spells (h : Spells rest ts cs) :
    readAll (ts ++ rest) = (cs ++ (readAll rest).1, (readAll rest).2) := by
  induction h with
  | nil => rfl
  | @cons seg ts c cs hseg _ ih =>
    obtain ⟨t, body, rfl, hread⟩ := readOne_of_segment hseg
    rw [List.cons_append, List.cons_append, List.append_assoc, readAll_cons_ok hread, ih]
    rfl

/-- **What is read spells the clauses**, and reading stops at once
behind it. -/
theorem spells_readAll (ts : List Token) :
    ∃ pre rest, ts = pre ++ rest ∧ Spells rest pre (readAll ts).1 ∧
      readAll rest = ([], (readAll ts).2) := by
  -- what a clause leaves is shorter, but it is no tail: the induction is on the length
  induction hlength : ts.length using Nat.strongRecOn generalizing ts with
  | ind n ih =>
    cases ts with
    | nil => exact ⟨[], [], rfl, by simpa [readAll] using Spells.nil, by simp [readAll]⟩
    | cons t ts =>
      cases hread : readOne t ts with
      | error e =>
        refine ⟨[], t :: ts, rfl, ?_, ?_⟩ <;> rw [readAll_cons_error hread]
        exact Spells.nil
      | ok clause =>
        obtain ⟨c, rest⟩ := clause
        have hshort := readOne_length hread
        obtain ⟨pre, rest', rfl, hspells, hstop⟩ :=
          ih rest.length (by simp only [List.length_cons] at hlength; omega) rest rfl
        obtain ⟨body, rfl, hseg⟩ := segment_of_readOne hread
        rw [readAll_cons_ok hread]
        exact ⟨t :: body ++ pre, rest', by simp, .cons hseg hspells, hstop⟩

/-- Every clause that is spelt has a segment of its own among the tokens. -/
theorem Spells.exists_segment (h : Spells rest ts cs) (hc : c ∈ cs) :
    ∃ seg tail, Segment seg c tail ∧ seg ⊆ ts := by
  induction h with
  | nil => simp at hc
  | @cons seg ts clause cs hseg _ ih =>
    rcases List.mem_cons.1 hc with rfl | hc
    · exact ⟨seg, ts ++ rest, hseg, List.subset_append_left seg ts⟩
    · obtain ⟨seg', tail, hseg', hsub⟩ := ih hc
      exact ⟨seg', tail, hseg', List.Subset.trans hsub (List.subset_append_right seg ts)⟩

theorem eq_nil_of_readAll_eq (h : readAll ts = ([], none)) : ts = [] := by
  cases ts with
  | nil => rfl
  | cons t ts =>
    cases hread : readOne t ts with
    | error e =>
      rw [readAll_cons_error hread] at h
      cases h
    | ok clause =>
      rw [readAll_cons_ok hread] at h
      cases h

/-- Where reading stops at once, it stops at the first token. -/
theorem readOne_of_readAll_eq {e : QueryError} (h : readAll ts = ([], some e)) :
    ∃ t rest, ts = t :: rest ∧ readOne t rest = .error e := by
  cases ts with
  | nil => simp [readAll] at h
  | cons t ts =>
    cases hread : readOne t ts with
    | error e' =>
      rw [readAll_cons_error hread] at h
      cases h
      exact ⟨t, ts, rfl, hread⟩
    | ok clause =>
      rw [readAll_cons_ok hread] at h
      cases h

end Clause

theorem parse_eq_ok_iff {ts : List Token} {cs : List Clause} :
    parse ts = .ok cs ↔ Clause.readAll ts = (cs, none) := by
  unfold parse
  split
  · rename_i h
    simp [h]
  · rename_i h
    simp [h]

theorem parse_eq_error_iff {ts : List Token} {e : QueryError} :
    parse ts = .error e ↔ (Clause.readAll ts).2 = some e := by
  unfold parse
  split
  · rename_i h
    simp [h]
  · rename_i h
    simp [h]

/-- Tokens that cannot be read fail as one of their clauses does. -/
theorem of_parse_eq_error {ts : List Token} {e : QueryError} (h : parse ts = .error e) :
    (∃ text, e = .unexpectedToken text) ∨ ∃ near part, e = .incomplete near part := by
  obtain ⟨pre, rest, -, -, hstop⟩ := Clause.spells_readAll ts
  rw [parse_eq_error_iff.1 h] at hstop
  obtain ⟨t, rest, rfl, hread⟩ := Clause.readOne_of_readAll_eq hstop
  exact Clause.of_readOne_eq_error hread

theorem parse_of_spells {ts : List Token} {cs : List Clause} (h : Clause.Spells [] ts cs) :
    parse ts = .ok cs := by
  have hread := Clause.readAll_of_spells h
  rw [List.append_nil, Clause.readAll, List.append_nil] at hread
  exact parse_eq_ok_iff.2 hread

theorem spells_of_parse {ts : List Token} {cs : List Clause} (h : parse ts = .ok cs) :
    Clause.Spells [] ts cs := by
  obtain ⟨pre, rest, hts, hspells, hstop⟩ := Clause.spells_readAll ts
  rw [parse_eq_ok_iff.1 h] at hspells hstop
  obtain rfl := Clause.eq_nil_of_readAll_eq hstop
  rwa [hts, List.append_nil]

/-- **The clauses of a list of tokens are those that it spells.** So every
token is read once and belongs to one clause. -/
theorem parse_eq_ok_iff_spells {ts : List Token} {cs : List Clause} :
    parse ts = .ok cs ↔ Clause.Spells [] ts cs :=
  ⟨spells_of_parse, parse_of_spells⟩

end TableQuery
