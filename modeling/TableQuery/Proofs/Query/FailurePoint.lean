import Mathlib.Data.List.Basic
import TableQuery.Proofs.Query.Grammar

/-!
# Clauses — where reading them fails

Tokens that cannot be read fail at one point (`FailsAt`): clauses are spelt
in front of it, and behind it a clause would begin and none can be read. What
is behind it says which error it is (`Breaks`). The point is found by going
from clause to clause, and since a list of clauses is cut off in one way
only, it is unique (`FailsAt.unique`).

More tokens at the end do not change which clauses are spelt in front of the
point. So a token that opens no clause stays where it is and keeps its
error, and a clause that breaks off is made whole by the tokens it lacks
(`parse_eq_error_iff_failsAt`).
-/

namespace TableQuery

namespace Clause

variable {t : Token} {ts us seg pre pre' rest rest' : List Token} {c : Clause} {cs : List Clause}
  {e e' : QueryError} {near : String} {part : MissingPart}

/-- The tokens begin where a clause would, and none can be read from them. -/
inductive Breaks : List Token → QueryError → Prop
  /-- The first token opens no clause. It is named in capitals. -/
  | unexpected {t : Token} {rest : List Token} :
      (∀ k, ¬ Opens t k) → Breaks (t :: rest) (.unexpectedToken (Text.upper t.text))
  /-- Fewer than three tokens follow a `WHERE`. The first of them is named
  as it is, and the keyword where there is none. -/
  | condition {t : Token} {rest : List Token} :
      Opens t .filter → rest.length < 3 →
        Breaks (t :: rest)
          (.incomplete ((rest.head?.map Token.text).getD Keyword.filter.text) .condition)
  /-- No token follows a `LIMIT`. -/
  | count {t : Token} :
      Opens t .limit → Breaks [t] (.incomplete Keyword.limit.text .count)

/-- The tokens `ts` fail behind `pre`: it spells clauses, and none can be
read from the rest. -/
structure FailsAt (ts pre rest : List Token) (e : QueryError) : Prop where
  cut : ts = pre ++ rest
  spelt : ∃ cs, Spells rest pre cs
  breaks : Breaks rest e

/-! ## One clause -/

/-- **Why a clause cannot be read.** A selection and a table name may be
empty, so they never fail behind their keyword. -/
theorem readOne_eq_error_iff : readOne t ts = .error e ↔ Breaks (t :: ts) e := by
  constructor
  · intro h
    unfold readOne at h
    split at h
    · rename_i e' hopener
      cases h
      obtain ⟨hopens, rfl⟩ := opener_eq_error_iff.1 hopener
      exact .unexpected hopens
    · rename_i k hk
      have hopens := opener_eq_ok_iff.1 hk
      cases k with
      | select => cases h
      | source => cases h
      | filter =>
        obtain ⟨hshort, rfl⟩ := readBody_filter_eq_error_iff.1 h
        exact .condition hopens hshort
      | limit =>
        obtain ⟨rfl, rfl⟩ := readBody_limit_eq_error_iff.1 h
        exact .count hopens
  · intro h
    cases h with
    | unexpected hopens => rw [readOne, opener_eq_error_iff.2 ⟨hopens, rfl⟩]
    | condition hopens hshort =>
      rw [readOne, opener_eq_ok_iff.2 hopens]
      exact readBody_filter_eq_error_iff.2 ⟨hshort, rfl⟩
    | count hopens =>
      rw [readOne, opener_eq_ok_iff.2 hopens]
      exact readBody_limit_eq_error_iff.2 ⟨rfl, rfl⟩

theorem Breaks.ne_nil (h : Breaks rest e) : rest ≠ [] := by
  rintro rfl
  cases h

/-- Where no clause can be read, reading stops at once. -/
theorem readAll_eq_nil_iff : readAll ts = ([], some e) ↔ Breaks ts e := by
  constructor
  · intro h
    obtain ⟨t, rest, rfl, hread⟩ := readOne_of_readAll_eq h
    exact readOne_eq_error_iff.1 hread
  · intro h
    obtain ⟨t, rest, rfl⟩ := List.exists_cons_of_ne_nil h.ne_nil
    exact readAll_cons_error (readOne_eq_error_iff.2 h)

/-! ## The point of failure -/

/-- **Clauses are cut off in one way.** What is read of each says where the
next begins. -/
theorem Spells.rest_unique (h : Spells rest pre cs) (h' : Spells rest' pre' cs)
    (heq : pre ++ rest = pre' ++ rest') : rest = rest' := by
  induction h generalizing pre' with
  | nil =>
    cases h' with
    | nil => simpa using heq
  | @cons seg ts c cs hseg _ ih =>
    cases h' with
    | @cons seg' ts' _ _ hseg' hspells' =>
      obtain ⟨t, body, rfl, hread⟩ := readOne_of_segment hseg
      obtain ⟨t', body', rfl, hread'⟩ := readOne_of_segment hseg'
      -- the same tokens are read once, so the same tokens remain
      simp only [List.cons_append, List.append_assoc, List.cons.injEq] at heq
      obtain ⟨rfl, hbody⟩ := heq
      rw [hbody, hread'] at hread
      simp only [Except.ok.injEq, Prod.mk.injEq, true_and] at hread
      exact ih hspells' hread.symm

/-- The clauses in front of the point are what is read. -/
theorem FailsAt.exists_readAll (h : FailsAt ts pre rest e) :
    ∃ cs, Spells rest pre cs ∧ readAll ts = (cs, some e) := by
  obtain ⟨rfl, ⟨cs, hcs⟩, hbreaks⟩ := h
  refine ⟨cs, hcs, ?_⟩
  rw [readAll_of_spells hcs, readAll_eq_nil_iff.2 hbreaks, List.append_nil]

/-- **Tokens fail at one point.** -/
theorem FailsAt.unique (h : FailsAt ts pre rest e) (h' : FailsAt ts pre' rest' e') :
    pre = pre' ∧ rest = rest' := by
  obtain ⟨cs, hcs, hread⟩ := h.exists_readAll
  obtain ⟨cs', hcs', hread'⟩ := h'.exists_readAll
  -- both cuts have the clauses that are read
  have hclauses : cs = cs' := by
    rw [hread] at hread'
    exact (Prod.mk.inj hread').1
  subst hclauses
  have hcut : pre ++ rest = pre' ++ rest' := h.cut.symm.trans h'.cut
  have hrest : rest = rest' := hcs.rest_unique hcs' hcut
  subst hrest
  exact ⟨List.append_cancel_right hcut, rfl⟩

/-- **Tokens that cannot be read fail at a point**, and only they do. -/
theorem parse_eq_error_iff_exists_failsAt :
    parse ts = .error e ↔ ∃ pre rest, FailsAt ts pre rest e := by
  constructor
  · intro h
    obtain ⟨pre, rest, hts, hspells, hstop⟩ := spells_readAll ts
    rw [parse_eq_error_iff.1 h] at hstop
    exact ⟨pre, rest, hts, ⟨_, hspells⟩, readAll_eq_nil_iff.1 hstop⟩
  · rintro ⟨pre, rest, h⟩
    obtain ⟨cs, -, hread⟩ := h.exists_readAll
    rw [parse_eq_error_iff, hread]

/-! ## More tokens at the end -/

theorem StopsAt.congr {p : Token → Bool} (h : StopsAt p rest) (hhead : rest'.head? = rest.head?) :
    StopsAt p rest' := by
  unfold StopsAt
  rw [hhead]
  exact h

/-- Of what follows a segment only the first token counts. -/
theorem Segment.congr (h : Segment seg c rest) (hhead : rest'.head? = rest.head?) :
    Segment seg c rest' := by
  cases h with
  | select hopens hlist hstop hselects => exact .select hopens hlist (hstop.congr hhead) hselects
  | source hopens hname hstop => exact .source hopens hname (hstop.congr hhead)
  | filter hopens hvalue => exact .filter hopens hvalue
  | limit hopens => exact .limit hopens

theorem Spells.congr (h : Spells rest ts cs) (hhead : rest'.head? = rest.head?) :
    Spells rest' ts cs := by
  induction h with
  | nil => exact .nil
  | @cons seg ts c cs hseg _ ih =>
    have hseg' : Segment seg c (ts ++ rest') := by
      refine hseg.congr ?_
      rw [List.head?_append, List.head?_append, hhead]
    exact .cons hseg' ih

/-- More tokens behind the point leave the clauses in front of it. -/
theorem Spells.append_rest (h : Spells rest pre cs) (hne : rest ≠ []) (us : List Token) :
    Spells (rest ++ us) pre cs := by
  obtain ⟨t, rest, rfl⟩ := List.exists_cons_of_ne_nil hne
  exact h.congr rfl

/-- **A token that opens no clause opens none whatever follows.** -/
theorem FailsAt.append {text : String} (h : FailsAt ts pre rest (.unexpectedToken text))
    (us : List Token) : FailsAt (ts ++ us) pre (rest ++ us) (.unexpectedToken text) := by
  obtain ⟨rfl, ⟨cs, hcs⟩, hbreaks⟩ := h
  have hbreaks' : Breaks (rest ++ us) (.unexpectedToken text) := by
    cases hbreaks with
    | unexpected hopens => exact .unexpected hopens
  exact ⟨List.append_assoc _ _ _, ⟨cs, hcs.append_rest hbreaks.ne_nil us⟩, hbreaks'⟩

/-- **A clause that breaks off lacks a number of tokens**, and any that many
make it whole. -/
theorem Breaks.exists_segment (h : Breaks rest (.incomplete near part)) :
    ∃ n, 0 < n ∧ ∀ us : List Token, us.length = n → ∃ c, Segment (rest ++ us) c [] := by
  cases h with
  | @condition t rest hopens hshort =>
    refine ⟨3 - rest.length, by omega, fun us hus => ?_⟩
    have hlength : (rest ++ us).length = 3 := by
      rw [List.length_append]
      omega
    obtain ⟨column, operator, quoted, hthree⟩ := List.length_eq_three.1 hlength
    rw [List.cons_append, hthree]
    exact ⟨_, .filter hopens (bares_unquoted _)⟩
  | @count t hopens =>
    refine ⟨1, Nat.one_pos, fun us hus => ?_⟩
    obtain ⟨count, rfl⟩ := List.length_eq_one_iff.1 hus
    exact ⟨_, .limit hopens⟩

theorem FailsAt.exists_parse (h : FailsAt ts pre rest (.incomplete near part)) :
    ∃ n, 0 < n ∧ ∀ us : List Token, us.length = n → ∃ cs, parse (ts ++ us) = .ok cs := by
  obtain ⟨rfl, ⟨cs, hcs⟩, hbreaks⟩ := h
  obtain ⟨n, hn, hsegment⟩ := hbreaks.exists_segment
  refine ⟨n, hn, fun us hus => ?_⟩
  obtain ⟨c, hc⟩ := hsegment us hus
  have hlast : Spells [] (rest ++ us ++ []) [c] := .cons hc .nil
  rw [List.append_nil] at hlast
  have hread : readAll (rest ++ us) = ([c], none) := parse_eq_ok_iff.1 (parse_of_spells hlast)
  refine ⟨cs ++ [c], parse_eq_ok_iff.2 ?_⟩
  rw [List.append_assoc, readAll_of_spells (hcs.append_rest hbreaks.ne_nil us), hread]

/-- **Which error tokens fail with, and where.** They fail at one point, at
which a clause would begin: at a token that opens none, at a `WHERE` with
fewer than three tokens behind it or at a `LIMIT` with none. The first error
stays whatever follows. The other two are of clauses that lack a number of
tokens, and with any that many the tokens can be read. -/
theorem parse_eq_error_iff_failsAt (ts : List Token) :
    (∀ e, parse ts = .error e ↔ ∃ pre rest, FailsAt ts pre rest e) ∧
    (∀ pre rest e pre' rest' e', FailsAt ts pre rest e → FailsAt ts pre' rest' e' →
      pre = pre' ∧ rest = rest') ∧
    (∀ text us, parse ts = .error (.unexpectedToken text) →
      parse (ts ++ us) = .error (.unexpectedToken text)) ∧
    ∀ near part, parse ts = .error (.incomplete near part) →
      ∃ n, 0 < n ∧ ∀ us : List Token, us.length = n → ∃ cs, parse (ts ++ us) = .ok cs := by
  refine ⟨fun e => parse_eq_error_iff_exists_failsAt, fun _ _ _ _ _ _ h h' => h.unique h',
    fun text us h => ?_, fun near part h => ?_⟩
  · obtain ⟨pre, rest, hfails⟩ := parse_eq_error_iff_exists_failsAt.1 h
    exact parse_eq_error_iff_exists_failsAt.2 ⟨pre, rest ++ us, hfails.append us⟩
  · obtain ⟨pre, rest, hfails⟩ := parse_eq_error_iff_exists_failsAt.1 h
    exact hfails.exists_parse

/-- A `LIMIT` takes a keyword as its count, so the second `where` is the
one that breaks off. A literal opens no clause and keeps its quotes. -/
theorem parse_eq_error_iff_failsAt_where :
    (parse [.word "LIMIT", .word "where", .word "where", .literal "'ß"] =
        .error (.incomplete "'ß" .condition) ∧
      FailsAt [.word "LIMIT", .word "where", .word "where", .literal "'ß"]
        [.word "LIMIT", .word "where"] [.word "where", .literal "'ß"]
        (.incomplete "'ß" .condition) ∧
      (∀ pre rest e,
        FailsAt [.word "LIMIT", .word "where", .word "where", .literal "'ß"] pre rest e →
          [.word "LIMIT", .word "where"] = pre ∧ [.word "where", .literal "'ß"] = rest) ∧
      ∃ n, 0 < n ∧ ∀ us : List Token, us.length = n → ∃ cs,
        parse ([.word "LIMIT", .word "where", .word "where", .literal "'ß"] ++ us) = .ok cs) ∧
    (parse [.word "FROM", .word "t", .word "LIMIT", .comma, .literal "'ß"] =
        .error (.unexpectedToken "'SS") ∧
      parse ([.word "FROM", .word "t", .word "LIMIT", .comma, .literal "'ß"] ++ [.word "FROM"]) =
        .error (.unexpectedToken "'SS")) := by
  have hlimit : Opens (.word "LIMIT") .limit := ⟨"LIMIT", rfl, by decide⟩
  have hwhere : Opens (.word "where") .filter := ⟨"where", rfl, by decide⟩
  have hfails : FailsAt [.word "LIMIT", .word "where", .word "where", .literal "'ß"]
      [.word "LIMIT", .word "where"] [.word "where", .literal "'ß"]
      (.incomplete "'ß" .condition) :=
    ⟨rfl, ⟨_, .cons (.limit hlimit) .nil⟩, .condition hwhere (by decide)⟩
  obtain ⟨hiff, hunique, -, hlacks⟩ := parse_eq_error_iff_failsAt
    [.word "LIMIT", .word "where", .word "where", .literal "'ß"]
  have hbroken := (hiff (.incomplete "'ß" .condition)).2 ⟨_, _, hfails⟩
  obtain ⟨-, -, hkeeps, -⟩ := parse_eq_error_iff_failsAt
    [.word "FROM", .word "t", .word "LIMIT", .comma, .literal "'ß"]
  have hliteral : parse [.word "FROM", .word "t", .word "LIMIT", .comma, .literal "'ß"] =
      .error (.unexpectedToken "'SS") := by decide +kernel
  refine ⟨⟨hbroken, hfails, fun pre rest e h => ?_, hlacks "'ß" .condition hbroken⟩,
    hliteral, hkeeps "'SS" [.word "FROM"] hliteral⟩
  exact hunique _ _ _ pre rest e hfails h

end Clause

end TableQuery
